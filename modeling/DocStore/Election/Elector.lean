import DocStore.Config.Election
import DocStore.Election.LockTable
import DocStore.Log

/-!
# Electing a leader

Any number of electors compete for one lock; the one whose session holds it is
the leader.  An elector is a state machine.  It starts as a candidate, opens a
session unless it has one, and tries to take the lock.  The one that gets it
leads and asks again and again whether it still holds the lock; every doubt ends
its session and its leadership.  Without the lock it follows, waits and becomes a
candidate again.  Told to stop, a leader first gives the lock back.

The machine is told what happens and says what is to be done about it: the new
state, what to publish, and at most one call of the lock service.  A call that
takes too long fails.  The times are in milliseconds of a clock outside.
-/

namespace DocStore.Election

/-- What an elector shows of itself. -/
inductive Role where
  | follower
  /-- Trying to take the lock. -/
  | candidate
  | leader
  deriving DecidableEq, Inhabited

namespace Role

def name : Role → String
  | follower => "Follower"
  | candidate => "Candidate"
  | leader => "Leader"

/-- The role in a sentence. -/
def text : Role → String
  | follower => "follower"
  | candidate => "candidate"
  | leader => "leader"

def all : List Role := [follower, candidate, leader]

def toJson (r : Role) : Json := .string r.name

def decode : Decoder Role := .choice (all.map fun r => (r.name, r))

end Role

/-- A call of the lock service. -/
inductive LockCall where
  | connect
  | tryLock (session : SessionId)
  | isHeld (session : SessionId)
  | release (session : SessionId)
  deriving DecidableEq

/-- What comes back from a call. -/
inductive LockAnswer where
  | opened (session : SessionId)
  | said (yes : Bool)
  | failed (cause : StoreError)
  deriving DecidableEq

/-- Where an elector is. -/
inductive Phase where
  /-- A candidate that waits for a session. -/
  | connecting (deadline : Nat)
  /-- A candidate that waits whether it gets the lock. -/
  | trying (session : SessionId) (deadline : Nat)
  /-- A leader until its next check. -/
  | leading (session : SessionId) (wake : Nat)
  /-- A leader that waits whether it still holds the lock. -/
  | checking (session : SessionId) (deadline : Nat)
  /-- A follower until its next attempt. -/
  | resting (session : Option SessionId) (wake : Nat)
  /-- A leader that was told to stop and gives the lock back. -/
  | releasing (session : SessionId) (deadline : Nat)
  | finished
  deriving DecidableEq

namespace Phase

/-- The session the elector has. -/
def session? : Phase → Option SessionId
  | trying s _ | leading s _ | checking s _ | releasing s _ => some s
  | resting s _ => s
  | connecting _ | finished => none

/-- When the elector acts on its own. -/
def due? : Phase → Option Nat
  | connecting t | trying _ t | leading _ t | checking _ t | resting _ t | releasing _ t => some t
  | finished => none

end Phase

/-- A participant of an election. -/
structure Elector where
  config : ElectionConfig
  key : LockKey
  phase : Phase
  /-- The role published last. -/
  role : Role
  deriving DecidableEq

/-- What an elector does besides calling the lock service. -/
inductive Effect where
  | publish (role : Role)
  /-- Reports the outcome of an attempt or a loss: whether it leads now. -/
  | report (leads : Bool)
  | endSession (session : SessionId)
  | log (event : LogEvent)
  deriving DecidableEq

/-- What an elector makes of an event. -/
structure Reaction where
  elector : Elector
  /-- In the order they happen. -/
  effects : List Effect
  /-- A call made after them. -/
  call : Option LockCall

/-- What happens to an elector. -/
inductive Event where
  | answered (answer : LockAnswer)
  /-- The time it waits for has come. -/
  | due
  | stop
  /-- It is given up without a chance to act. -/
  | abandon
  deriving DecidableEq

namespace Elector

/-- Whether the elector says that it leads. -/
def isLeader (e : Elector) : Bool := e.role = .leader

/-- The key of an elector, if its configuration makes sense. -/
def keyOf (config : ElectionConfig) : Except StoreError LockKey := do
  config.validate
  .ok (.ofName config.lockName)

/-- An event with the name of the lock. -/
def event (e : Elector) (level : LogLevel) (message : String)
    (more : List (String × String)) : Effect :=
  .log ⟨level, message, ("lock", e.config.lockName) :: more⟩

/-- When a call made now has taken too long. -/
def deadline (e : Elector) (now : Nat) : Nat := now + e.config.checkTimeout.toMillisUp

/-- The failure of a call that takes too long. -/
def overdue (e : Elector) : StoreError :=
  .timeout ("election round trip exceeded " ++ e.config.checkTimeout.shown)

/-- The elector in another phase, with a role it publishes. -/
def become (e : Elector) (role : Role) (phase : Phase) : Elector := { e with role, phase }

/-- Starts an attempt, with a session or without. -/
def attempt (e : Elector) (now : Nat) : (session : Option SessionId) → Reaction
  | none =>
      ⟨e.become .candidate (.connecting (e.deadline now)), [.publish .candidate], some .connect⟩
  | some s =>
      ⟨e.become .candidate (.trying s (e.deadline now)), [.publish .candidate],
        some (.tryLock s)⟩

/-- Follows and waits for the next attempt, after other effects. -/
def rest (e : Elector) (now : Nat) (session : Option SessionId) (before : List Effect) :
    Reaction :=
  ⟨e.become .follower (.resting session (now + e.config.retryInterval.toMillisUp)),
    before ++ [.publish .follower, .report false], none⟩

/-- Leads until the next check. -/
def lead (e : Elector) (now : Nat) (s : SessionId) : Phase :=
  .leading s (now + e.config.checkInterval.toMillisUp)

/-- Ends the session and the leadership. -/
def lose (e : Elector) (now : Nat) (s : SessionId) (reason : StoreError) : Reaction :=
  e.rest now none
    [.endSession s, e.event .warn "Lost leadership" [("reason", reason.message)]]

/-- Ends for good; a leader reports that it no longer leads. -/
def finish (e : Elector) (before : List Effect) : Reaction :=
  ⟨e.become .follower .finished,
    before ++ .publish .follower :: (if e.isLeader then [.report false] else []) ++
      e.event .info "Stopped leader election" [] ::
      e.phase.session?.toList.map Effect.endSession,
    none⟩

/-- Nothing happens. -/
def stay (e : Elector) : Reaction := ⟨e, [], none⟩

/-- What an elector makes of an answer, or of the failure of a call. -/
def onAnswer (e : Elector) (now : Nat) (answer : LockAnswer) : Reaction :=
  match e.phase, answer with
  | .connecting _, .opened s =>
      ⟨{ e with phase := .trying s (e.deadline now) }, [], some (.tryLock s)⟩
  | .connecting _, .failed cause =>
      e.rest now none
        [e.event .warn "Election session unavailable" [("error", cause.message)]]
  | .trying s _, .said true =>
      ⟨e.become .leader (e.lead now s),
        [.publish .leader, e.event .info "Acquired leadership" [], .report true], none⟩
  | .trying s _, .said false =>
      e.rest now (some s) [e.event .debug "Leadership held elsewhere" []]
  | .trying s _, .failed cause =>
      e.rest now none
        [e.event .warn "Leader election failed" [("error", cause.message)], .endSession s]
  | .checking s _, .said true => ⟨{ e with phase := e.lead now s }, [], none⟩
  | .checking s _, .said false =>
      e.lose now s (.leadershipLost
        ("lock " ++ e.config.lockName ++ " is no longer held by this session"))
  | .checking s _, .failed cause => e.lose now s cause
  | .releasing _ _, .said _ => e.finish []
  | .releasing _ _, .failed cause =>
      e.finish [e.event .warn "Failed to release leadership lock" [("error", cause.message)]]
  | _, _ => e.stay

/-- What an elector does when the time it waits for has come. -/
def onDue (e : Elector) (now : Nat) : Reaction :=
  match e.phase with
  | .leading s _ =>
      ⟨{ e with phase := .checking s (e.deadline now) }, [], some (.isHeld s)⟩
  | .resting session _ => e.attempt now session
  | .connecting _ | .trying _ _ | .checking _ _ | .releasing _ _ =>
      e.onAnswer now (.failed e.overdue)
  | .finished => e.stay

/-- Stops; a leader gives the lock back first. -/
def onStop (e : Elector) (now : Nat) : Reaction :=
  match e.phase with
  | .leading s _ | .checking s _ =>
      ⟨{ e with phase := .releasing s (e.deadline now) }, [], some (.release s)⟩
  | .connecting _ | .trying _ _ | .resting _ _ => e.finish []
  | .releasing _ _ | .finished => e.stay

/-- Is gone at once; its session ends with it. -/
def onAbandon (e : Elector) : Reaction :=
  ⟨{ e with phase := .finished }, e.phase.session?.toList.map Effect.endSession, none⟩

/-- One step of an elector. -/
def step (e : Elector) (now : Nat) : Event → Reaction
  | .answered answer => e.onAnswer now answer
  | .due => e.onDue now
  | .stop => e.onStop now
  | .abandon => e.onAbandon

/-- A new elector and its first attempt. -/
def start (config : ElectionConfig) (key : LockKey) (now : Nat) : Reaction :=
  let e : Elector := ⟨config, key, .finished, .follower⟩
  let first := e.attempt now none
  let begun := e.event .info "Starting leader election" [("key", key.text)]
  ⟨first.elector, begun :: first.effects, first.call⟩

/-- How a running elector shows in messages. -/
def shown (role : Role) : String := "ElectorHandle \x7b role: " ++ role.name ++ " \x7d"

end Elector

end DocStore.Election

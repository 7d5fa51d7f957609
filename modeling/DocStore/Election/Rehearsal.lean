import DocStore.Election.Elector

/-!
# Elections on a virtual clock

Electors compete over a lock table in memory.  Time stands still but for
`advance`, which lets everything happen that falls due, in the order of time.
Each kind of call of each elector can be made to fail or to hang.
-/

namespace DocStore.Election

/-- The kinds of calls. -/
inductive CallKind where
  | connect
  | tryLock
  | isHeld
  | release
  deriving DecidableEq

/-- How calls behave. -/
inductive CallMode where
  | ok
  | error
  | hang
  deriving DecidableEq

namespace CallKind

def name : CallKind → String
  | connect => "connect"
  | tryLock => "try_lock"
  | isHeld => "is_held"
  | release => "release"

def named? (name : String) : Option CallKind :=
  [connect, tryLock, isHeld, release].find? (·.name = name)

end CallKind

/-- The kind of a call. -/
def LockCall.kind : LockCall → CallKind
  | connect => .connect
  | tryLock _ => .tryLock
  | isHeld _ => .isHeld
  | release _ => .release

/-- A participant, and what was seen of it since the last look. -/
structure Member where
  id : String
  elector : Elector
  /-- Neither stopped nor dropped. -/
  live : Bool
  reports : List Bool
  published : Bool

/-- An election under way. -/
structure Rehearsal where
  now : Nat
  table : LockTable
  modes : List ((String × CallKind) × CallMode)
  members : List Member
  /-- The names of the locks in use. -/
  locks : List String
  trace : List String
  log : List LogEvent

namespace Rehearsal

def empty : Rehearsal := ⟨0, .empty, [], [], [], [], []⟩

/-- Forgets what was seen so far. -/
def look (r : Rehearsal) : Rehearsal :=
  { r with
    trace := [], log := []
    members := r.members.map fun m => { m with reports := [], published := false } }

def member? (r : Rehearsal) (id : String) : Option Member := r.members.find? (·.id = id)

/-- Changes one participant. -/
def withMember (r : Rehearsal) (id : String) (f : Member → Member) : Rehearsal :=
  { r with members := r.members.map fun m => if m.id = id then f m else m }

/-- Notes what a participant does. -/
def note (r : Rehearsal) (id what : String) : Rehearsal :=
  { r with trace := r.trace ++ [id ++ " " ++ what] }

/-- Carries out an effect. -/
def perform (id : String) (r : Rehearsal) : Effect → Rehearsal
  | .publish _ => r.withMember id fun m => { m with published := true }
  | .report leads => r.withMember id fun m => { m with reports := m.reports ++ [leads] }
  | .endSession s =>
      { r.note id ("ends session " ++ toString s) with table := r.table.endSession s }
  | .log event => { r with log := r.log ++ [event] }

/-- The mode of a participant's calls. -/
def modeOf (r : Rehearsal) (id : String) (kind : CallKind) : CallMode :=
  (r.modes.lookup (id, kind)).getD .ok

/-- Carries out a call at the lock table. -/
def serve (key : LockKey) (t : LockTable) : LockCall → LockAnswer × LockTable
  | .connect => let (s, t) := t.connect; (.opened s, t)
  | .tryLock s => let (yes, t) := t.tryLock s key; (.said yes, t)
  | .isHeld s => (.said (t.isHeld s key), t)
  | .release s => let (yes, t) := t.release s key; (.said yes, t)

/-- How a call shows when it is made. -/
def callText (call : LockCall) : String :=
  match call with
  | .connect => call.kind.name
  | .tryLock s | .isHeld s | .release s => call.kind.name ++ " session " ++ toString s

/-- How an answer shows. -/
def answerText (call : LockCall) : LockAnswer → String
  | .opened s => call.kind.name ++ " -> session " ++ toString s
  | .said yes => call.kind.name ++ " -> " ++ toString yes
  | .failed _ => ""

/-- Makes a call; no answer comes from one that hangs. -/
def call (r : Rehearsal) (id : String) (key : LockKey) (call : LockCall) :
    Option LockAnswer × Rehearsal :=
  let made := r.note id (callText call)
  match r.modeOf id call.kind with
  | .hang => (none, made)
  | .error => (some (.failed (.connectionFailed "scripted")), made)
  | .ok =>
      let (answer, table) := serve key r.table call
      (some answer, { made.note id (answerText call answer) with table })

/-- How many calls can follow from one event: a session, and a try on it. -/
def callLimit : Nat := 2

/-- Lets an elector react, and lets it have the answers to its calls. -/
def settle (id : String) : (fuel : Nat) → Reaction → Rehearsal → Rehearsal
  | fuel, reaction, r =>
      let r := reaction.effects.foldl (perform id) r
      let r := r.withMember id fun m => { m with elector := reaction.elector }
      match fuel, reaction.call with
      | fuel + 1, some c =>
          match r.call id reaction.elector.key c with
          | (none, r) => r
          | (some answer, r) => settle id fuel (reaction.elector.step r.now (.answered answer)) r
      | _, _ => r

/-- Tells a participant what happened. -/
def tell (r : Rehearsal) (id : String) (event : Event) : Rehearsal :=
  match r.member? id with
  | none => r
  | some m => settle id callLimit (m.elector.step r.now event) r

/-- What falls due next, of two. -/
def sooner (a b : Nat × String) : Nat × String := if b.1 < a.1 then b else a

/-- The first time something falls due, and for whom. -/
def next? (r : Rehearsal) : Option (Nat × String) :=
  let dues := r.members.filterMap fun m => m.elector.phase.due?.map fun t => (t, m.id)
  match dues with
  | [] => none
  | first :: rest => some (rest.foldl sooner first)

/-- Lets at most `fuel` things happen that fall due until `target`. -/
def runUntil (target : Nat) : (fuel : Nat) → Rehearsal → Rehearsal
  | 0, r => { r with now := target }
  | fuel + 1, r =>
      match r.next? with
      | none => { r with now := target }
      | some (time, id) =>
          if time ≤ target then
            runUntil target fuel (({ r with now := max r.now time }).tell id .due)
          else { r with now := target }

/-- Moves the clock.  Nobody acts more than twice in a millisecond, as every rest takes
one at least. -/
def advance (r : Rehearsal) (millis : Nat) : Rehearsal :=
  runUntil (r.now + millis) (2 * (millis + 1) * r.members.length + 1) r

/-! ## Steps -/

/-- Starts an elector.  One of the same name gives way to it, but only after the new one has
made its first attempt. -/
def start (r : Rehearsal) (id : String) (config : ElectionConfig) (key : LockKey) : Rehearsal :=
  let reaction := Elector.start config key r.now
  let before := r.member? id
  let member : Member := ⟨id, reaction.elector, true, [], false⟩
  let r := { r with
    members := r.members.filter (·.id != id) ++ [member]
    locks := if r.locks.contains config.lockName then r.locks else r.locks ++ [config.lockName] }
  let left := before.toList.flatMap fun m => m.elector.onAbandon.effects
  left.foldl (perform id) ((settle id callLimit reaction r).advance 0)

/-- Makes calls of one kind fail or hang, or work again. -/
def setMode (r : Rehearsal) (id : String) (kind : CallKind) (mode : CallMode) : Rehearsal :=
  { r with modes := ((id, kind), mode) :: r.modes }

/-- The session that steals locks. -/
def thief : SessionId := 0

/-- Takes a lock away from its owner. -/
def sever (r : Rehearsal) (lock : String) : Rehearsal :=
  { r with table := r.table.sever (.ofName lock) }

/-- Gives a lock to a stranger. -/
def steal (r : Rehearsal) (lock : String) : Rehearsal :=
  { r with
    table := r.table.steal thief (.ofName lock)
    locks := if r.locks.contains lock then r.locks else r.locks ++ [lock] }

/-- Stops a participant and waits until it has given its lock back, or for as long as it
waits itself. -/
def stop (r : Rehearsal) (id : String) : Rehearsal :=
  let told := r.tell id .stop
  let ended :=
    match (told.member? id).bind (·.elector.phase.due?) with
    | none => told
    | some deadline => told.advance (deadline - told.now)
  ended.withMember id fun m => { m with live := false }

/-- Gives a participant up. -/
def drop (r : Rehearsal) (id : String) : Rehearsal :=
  (r.tell id .abandon).withMember id fun m => { m with live := false }

/-- The locks that have an owner, by name. -/
def owners (r : Rehearsal) : List (String × SessionId) :=
  r.locks.filterMap fun lock => (r.table.owner? (.ofName lock)).map fun s => (lock, s)

end Rehearsal

end DocStore.Election

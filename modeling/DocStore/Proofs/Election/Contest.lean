import DocStore.Election.Rehearsal

/-!
# Contests

Any number of electors over one lock table.  Everything that happens is a move, and
moves come in any order: the service takes up a call, its answer arrives or the call
fails, time passes, an elector's time comes, its owner stops it or drops it, and
strangers take locks away.  A move that is not possible changes nothing.

The effect of a call on the table and the arrival of its answer are moves of their
own.  A call that hangs is one whose answer never arrives.  Between two waits an
elector is not interrupted: one move carries out all that it makes of an event.

A contest keeps a record of what happened (`Mark`), with times.  `change_step` says
once what a move can do; what is proved about runs starts from there.
-/

namespace DocStore.Election

/-! ## Contenders -/

/-- How an elector stands with its owner. -/
inductive Standing where
  | running
  /-- It was asked to stop and has not noticed. -/
  | asked
  /-- It has noticed that it has to stop. -/
  | stopping
  /-- Its handle was dropped, and it is not gone yet. -/
  | dropped
  | gone
  deriving DecidableEq

/-- It competes as if nothing had been asked of it. -/
def Standing.competes : Standing → Bool
  | running | asked | dropped => true
  | stopping | gone => false

/-- A call under way. -/
structure Pending where
  call : LockCall
  /-- What the service answered.  The elector does not know it yet. -/
  answer : Option LockAnswer
  deriving DecidableEq

/-- An elector in a contest. -/
structure Contender where
  elector : Elector
  standing : Standing
  pending : Option Pending
  deriving DecidableEq

/-- The session of a contender, known to it or on its way to it. -/
def Contender.session? (c : Contender) : Option SessionId :=
  match c.pending with
  | some ⟨_, some (.opened s)⟩ => some s
  | _ => c.elector.phase.session?

/-! ## The record -/

/-- What is on record. -/
inductive Mark where
  | started (id : Nat)
  | asked (id : Nat)
  | dropped (id : Nat)
  /-- A contender learns of something. -/
  | learned (id : Nat) (event : Event)
  | did (id : Nat) (effect : Effect)
  | called (id : Nat) (call : LockCall)
  /-- The service carries out a call. -/
  | served (id : Nat) (call : LockCall) (answer : LockAnswer)
  /-- A stranger takes a lock away from its owner. -/
  | removed (key : LockKey) (owner : SessionId)
  deriving DecidableEq

/-- A mark and when it was made. -/
structure Entry where
  time : Nat
  mark : Mark
  deriving DecidableEq

/-- What a reaction puts on record: its effects in their order, then its call. -/
def Reaction.marks (r : Reaction) (id : Nat) : List Mark :=
  r.effects.map (.did id) ++ r.call.toList.map (.called id)

/-- The service says yes when asked for a lock, or whether it is held. -/
def Mark.isYes (id : Nat) : Mark → Bool
  | .served id' (.tryLock _) (.said true) | .served id' (.isHeld _) (.said true) => id' = id
  | _ => false

/-- Whether a lock was taken away from a session since the service last said yes to the
contender that has it. -/
def isRemoved (id : Nat) (key : LockKey) (session : SessionId) (history : List Entry) : Bool :=
  history.foldl (fun removed entry =>
    (removed && !entry.mark.isYes id) || entry.mark = .removed key session) false

/-! ## Contests -/

/-- Electors, their lock table, and what happened so far. -/
structure Contest where
  now : Nat
  table : LockTable
  contender? : Nat → Option Contender
  history : List Entry

/-- What can happen. -/
inductive Move where
  | start (id : Nat) (config : ElectionConfig)
  /-- The service carries out a call. -/
  | serve (id : Nat)
  /-- The answer of the service arrives. -/
  | deliver (id : Nat)
  /-- A call fails, carried out or not. -/
  | fail (id : Nat) (cause : StoreError)
  /-- The time has come that a contender waits for. -/
  | due (id : Nat)
  | advance (millis : Nat)
  /-- The owner asks a contender to stop. -/
  | ask (id : Nat)
  /-- A contender notices that it was asked to stop. -/
  | notice (id : Nat)
  /-- The owner drops the handle of a contender. -/
  | drop (id : Nat)
  /-- A contender whose handle was dropped is gone. -/
  | abort (id : Nat)
  /-- A stranger removes the owner of a lock. -/
  | sever (key : LockKey)
  /-- A stranger takes a lock, whoever owns it. -/
  | steal (key : LockKey)
  deriving DecidableEq

/-- A stranger interferes with the locks. -/
def Move.isOutside : Move → Bool
  | sever _ | steal _ => true
  | _ => false

/-- Carries out an effect on the table. -/
def LockTable.undergo (t : LockTable) : Effect → LockTable
  | .endSession s => t.endSession s
  | _ => t

namespace Contest

/-- Nothing has happened. -/
def empty : Contest := ⟨0, .empty, fun _ => none, []⟩

/-- With a contender added or changed. -/
def put (w : Contest) (id : Nat) (c : Contender) : Contest :=
  { w with contender? := fun i => if i = id then some c else w.contender? i }

/-- With more on record. -/
def note (w : Contest) (marks : List Mark) : Contest :=
  { w with history := w.history ++ marks.map fun mark => ⟨w.now, mark⟩ }

/-- Carries out a reaction. -/
def react (w : Contest) (id : Nat) (standing : Standing) (cause : Mark) (r : Reaction) :
    Contest :=
  let c : Contender := ⟨r.elector, standing, r.call.map fun call => ⟨call, none⟩⟩
  { (w.put id c).note (cause :: r.marks id) with table := r.effects.foldl .undergo w.table }

/-- Tells a contender what happened. -/
def tell (w : Contest) (id : Nat) (c : Contender) (standing : Standing) (event : Event) :
    Contest :=
  w.react id standing (.learned id event) (c.elector.step w.now event)

/-- Lets the service carry out the call of a contender. -/
def serve (w : Contest) (id : Nat) (c : Contender) (call : LockCall) : Contest :=
  let (answer, table) := Rehearsal.serve c.elector.key w.table call
  { (w.put id { c with pending := some ⟨call, some answer⟩ }).note [.served id call answer] with
    table }

/-- Puts on record that a lock is taken away, if it has an owner. -/
def noteRemoved (w : Contest) (key : LockKey) : Contest :=
  w.note ((w.table.owner? key).toList.map (.removed key))

/-- What a move does to the contender that it is about. -/
def stepAt (w : Contest) (id : Nat) (c : Contender) : Move → Contest
  | .serve _ =>
      match c.pending with
      | some ⟨call, none⟩ => w.serve id c call
      | _ => w
  | .deliver _ =>
      match c.pending with
      | some ⟨_, some answer⟩ => w.tell id c c.standing (.answered answer)
      | _ => w
  | .fail _ cause =>
      if c.pending.isSome then w.tell id c c.standing (.answered (.failed cause)) else w
  | .due _ =>
      if c.elector.phase.due?.any (· ≤ w.now) then w.tell id c c.standing .due else w
  | .ask _ =>
      if c.standing = .running then (w.put id { c with standing := .asked }).note [.asked id]
      else w
  | .notice _ => if c.standing = .asked then w.tell id c .stopping .stop else w
  | .drop _ =>
      if c.standing = .running then (w.put id { c with standing := .dropped }).note [.dropped id]
      else w
  | .abort _ => if c.standing = .dropped then w.tell id c .gone .abandon else w
  | _ => w

/-- What a move does that is about a contender; nothing if there is none. -/
def stepOf (w : Contest) (id : Nat) (move : Move) : Contest :=
  match w.contender? id with
  | some c => w.stepAt id c move
  | none => w

/-- One move. -/
def step (w : Contest) (move : Move) : Contest :=
  match move with
  | .start id config =>
      match w.contender? id, Elector.keyOf config with
      | none, .ok key => w.react id .running (.started id) (Elector.start config key w.now)
      | _, _ => w
  | .advance millis => { w with now := w.now + millis }
  | .sever key => { w.noteRemoved key with table := w.table.sever key }
  | .steal key => { w.noteRemoved key with table := w.table.steal Rehearsal.thief key }
  | .serve id | .deliver id | .fail id _ | .due id | .ask id | .notice id | .drop id | .abort id =>
      w.stepOf id move

/-- Moves one after the other. -/
def run (w : Contest) (moves : List Move) : Contest := moves.foldl step w

end Contest

/-! ## What a move can do -/

/-- What a contender can learn, and how it stands with its owner then. -/
inductive Contender.Learns (c : Contender) (now : Nat) : Standing → Event → Prop where
  | answer {call : LockCall} {answer : LockAnswer} (h : c.pending = some ⟨call, some answer⟩) :
      Learns c now c.standing (.answered answer)
  | failure {pending : Pending} (h : c.pending = some pending) (cause : StoreError) :
      Learns c now c.standing (.answered (.failed cause))
  | due {time : Nat} (h : c.elector.phase.due? = some time) (hle : time ≤ now) :
      Learns c now c.standing .due
  | stop (h : c.standing = .asked) : Learns c now .stopping .stop
  | abandon (h : c.standing = .dropped) : Learns c now .gone .abandon

namespace Contest

/-- The outcomes of a move. -/
inductive Change (w : Contest) (move : Move) : Contest → Prop where
  | stay : Change w move w
  | start {id : Nat} {config : ElectionConfig} {key : LockKey} (hfree : w.contender? id = none)
      (hkey : Elector.keyOf config = .ok key) :
      Change w move (w.react id .running (.started id) (Elector.start config key w.now))
  | tell {id : Nat} {c : Contender} {standing : Standing} {event : Event}
      (hid : w.contender? id = some c) (h : c.Learns w.now standing event) :
      Change w move (w.tell id c standing event)
  | serve {id : Nat} {c : Contender} {call : LockCall} (hid : w.contender? id = some c)
      (hpending : c.pending = some ⟨call, none⟩) : Change w move (w.serve id c call)
  | restand {id : Nat} {c : Contender} {standing : Standing} {mark : Mark}
      (hid : w.contender? id = some c) (hrunning : c.standing = .running)
      (hmark : mark = .asked id ∨ mark = .dropped id) (hcompetes : standing.competes = true) :
      Change w move ((w.put id { c with standing }).note [mark])
  | advance (millis : Nat) : Change w move { w with now := w.now + millis }
  | interfere {key : LockKey} {table : LockTable} (hmove : move.isOutside = true)
      (htable : table = w.table.sever key ∨ table = w.table.steal Rehearsal.thief key) :
      Change w move { w.noteRemoved key with table }

theorem change_stepAt {w : Contest} {id : Nat} {c : Contender} (hid : w.contender? id = some c)
    (move : Move) : w.Change move (w.stepAt id c move) := by
  cases move with
  | serve i =>
    rw [stepAt]
    split
    · rename_i call hpending
      exact .serve hid hpending
    · exact .stay
  | deliver i =>
    rw [stepAt]
    split
    · rename_i call answer hpending
      exact .tell hid (.answer hpending)
    · exact .stay
  | fail i cause =>
    rw [stepAt]
    split
    · rename_i hsome
      obtain ⟨pending, hpending⟩ := Option.isSome_iff_exists.1 hsome
      exact .tell hid (.failure hpending cause)
    · exact .stay
  | due i =>
    rw [stepAt]
    split
    · rename_i hdue
      obtain ⟨time, htime, hle⟩ := (Option.any_eq_true _ _).1 hdue
      exact .tell hid (.due htime (of_decide_eq_true hle))
    · exact .stay
  | ask i =>
    rw [stepAt]
    split
    · rename_i hrunning
      exact .restand hid hrunning (Or.inl rfl) rfl
    · exact .stay
  | notice i =>
    rw [stepAt]
    split
    · rename_i hasked
      exact .tell hid (.stop hasked)
    · exact .stay
  | drop i =>
    rw [stepAt]
    split
    · rename_i hrunning
      exact .restand hid hrunning (Or.inr rfl) rfl
    · exact .stay
  | abort i =>
    rw [stepAt]
    split
    · rename_i hdropped
      exact .tell hid (.abandon hdropped)
    · exact .stay
  | _ => exact .stay

/-- Everything that a move can do. -/
theorem change_step (w : Contest) (move : Move) : w.Change move (w.step move) := by
  have hof : ∀ id, w.Change move (w.stepOf id move) := by
    intro id
    unfold stepOf
    cases hid : w.contender? id with
    | none => exact .stay
    | some c => exact change_stepAt hid move
  cases move with
  | start id config =>
    rw [step]
    split
    · rename_i key hfree hkey
      exact .start hfree hkey
    · exact .stay
  | advance millis => exact .advance millis
  | sever key => exact .interfere rfl (Or.inl rfl)
  | steal key => exact .interfere rfl (Or.inr rfl)
  | serve id => exact hof id
  | deliver id => exact hof id
  | fail id cause => exact hof id
  | due id => exact hof id
  | ask id => exact hof id
  | notice id => exact hof id
  | drop id => exact hof id
  | abort id => exact hof id

/-- What holds before and is kept by every change holds after a run. -/
theorem run_induction {P : Contest → Prop} {w : Contest} {moves : List Move} (h : P w)
    (hchange : ∀ {w w' move}, move ∈ moves → P w → w.Change move w' → P w') :
    P (w.run moves) := by
  induction moves generalizing w with
  | nil => exact h
  | cons move rest ih =>
    exact ih (hchange List.mem_cons_self h (change_step w move))
      fun hmem => hchange (List.mem_cons_of_mem move hmem)

end Contest

end DocStore.Election

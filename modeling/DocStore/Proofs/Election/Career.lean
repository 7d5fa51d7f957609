import DocStore.Proofs.Election.Conduct

/-!
# Careers

One elector by itself, for as long as it runs.  The lock service answers what it
likes, or not at all; time passes, and the owner asks the elector to stop or drops it.
What happens comes in any order, and what is not possible changes nothing.

A career keeps its turns: what the elector learned, and what it did about it.
`change_step` says once what can happen to a career, and `Career.IsSound` how the
elector, its call and its owner fit together at all times.
-/

namespace DocStore.Election

/-! ## Turns -/

/-- One reaction of an elector. -/
structure Turn where
  time : Nat
  /-- The call under way before. -/
  awaited : Option LockCall
  /-- What happened; nothing at the start. -/
  event : Option Event
  effects : List Effect
  /-- The call under way from now on. -/
  call : Option LockCall
  deriving DecidableEq

namespace Turn

/-- What the event amounts to. -/
def outcome? (turn : Turn) : Option Outcome :=
  turn.event.bind (Election.outcome? turn.awaited)

def reports (turn : Turn) : List Bool := Election.reports turn.effects

/-- The session that is told that it has the lock, and when. -/
def yes? (turn : Turn) : Option (SessionId × Nat) :=
  match turn.awaited, turn.event with
  | some (.tryLock s), some (.answered (.said true))
  | some (.isHeld s), some (.answered (.said true)) => some (s, turn.time)
  | _, _ => none

end Turn

/-- All that was done, in order. -/
def effectsOf (turns : List Turn) : List Effect := turns.flatMap Turn.effects

/-- All that was reported, in order. -/
def reportsOf (turns : List Turn) : List Bool := turns.flatMap Turn.reports

/-- The role that shows after some turns. -/
def shownRole (turns : List Turn) : Role := Role.follower.after (effectsOf turns)

/-! ## Careers -/

/-- An elector and what it has been through. -/
structure Career where
  now : Nat
  elector : Elector
  standing : Standing
  /-- The call under way. -/
  pending : Option LockCall
  turns : List Turn
  /-- When its owner asked it to stop. -/
  askedAt : Option Nat
  deriving DecidableEq

/-- What can happen. -/
inductive Happening where
  | pass (millis : Nat)
  /-- A call is answered, or fails. -/
  | hear (answer : LockAnswer)
  /-- The time has come that the elector waits for. -/
  | due
  /-- The owner asks the elector to stop. -/
  | ask
  /-- The elector notices that it was asked to stop. -/
  | notice
  /-- The owner drops the handle. -/
  | drop
  /-- The elector is gone, as its handle was dropped. -/
  | abort
  deriving DecidableEq

namespace Career

/-- A new elector. -/
def begin (config : ElectionConfig) (key : LockKey) (now : Nat) : Career :=
  let r := Elector.start config key now
  ⟨now, r.elector, .running, r.call, [⟨now, none, none, r.effects, r.call⟩], none⟩

/-- The elector learns of an event. -/
def meet (w : Career) (standing : Standing) (event : Event) : Career :=
  let r := w.elector.step w.now event
  { w with
    elector := r.elector, standing, pending := r.call
    turns := w.turns ++ [⟨w.now, w.pending, some event, r.effects, r.call⟩] }

def step (w : Career) : Happening → Career
  | .pass millis => { w with now := w.now + millis }
  | .hear answer =>
      if w.pending.any (·.admits answer) then w.meet w.standing (.answered answer) else w
  | .due => if w.elector.phase.due?.any (· ≤ w.now) then w.meet w.standing .due else w
  | .ask =>
      if w.standing = .running then { w with standing := .asked, askedAt := some w.now } else w
  | .notice => if w.standing = .asked then w.meet .stopping .stop else w
  | .drop => if w.standing = .running then { w with standing := .dropped } else w
  | .abort => if w.standing = .dropped then w.meet .gone .abandon else w

def run (w : Career) (happenings : List Happening) : Career := happenings.foldl step w

/-! ## What can happen to a career -/

/-- What the elector can learn, and how it stands with its owner then. -/
inductive Learns (w : Career) : Standing → Event → Prop where
  | answer {call : LockCall} {answer : LockAnswer} (h : w.pending = some call)
      (hadmits : call.admits answer = true) : Learns w w.standing (.answered answer)
  | due {time : Nat} (h : w.elector.phase.due? = some time) (hle : time ≤ w.now) :
      Learns w w.standing .due
  | stop (h : w.standing = .asked) : Learns w .stopping .stop
  | abandon (h : w.standing = .dropped) : Learns w .gone .abandon

/-- The outcomes of a happening. -/
inductive Change (w : Career) (happening : Happening) : Career → Prop where
  | stay : Change w happening w
  | pass {millis : Nat} (h : happening = .pass millis) :
      Change w happening { w with now := w.now + millis }
  | meet {standing : Standing} {event : Event} (h : w.Learns standing event) :
      Change w happening (w.meet standing event)
  | ask (h : w.standing = .running) :
      Change w happening { w with standing := .asked, askedAt := some w.now }
  | drop (h : w.standing = .running) : Change w happening { w with standing := .dropped }

theorem change_step (w : Career) (happening : Happening) :
    w.Change happening (w.step happening) := by
  cases happening with
  | pass millis => exact .pass rfl
  | hear answer =>
    rw [step]
    split
    · rename_i hany
      obtain ⟨call, hcall, hadmits⟩ := (Option.any_eq_true _ _).1 hany
      exact .meet (.answer hcall hadmits)
    · exact .stay
  | due =>
    rw [step]
    split
    · rename_i hany
      obtain ⟨time, htime, hle⟩ := (Option.any_eq_true _ _).1 hany
      exact .meet (.due htime (of_decide_eq_true hle))
    · exact .stay
  | ask =>
    rw [step]
    split
    · rename_i hrunning
      exact .ask hrunning
    · exact .stay
  | notice =>
    rw [step]
    split
    · rename_i hasked
      exact .meet (.stop hasked)
    · exact .stay
  | drop =>
    rw [step]
    split
    · rename_i hrunning
      exact .drop hrunning
    · exact .stay
  | abort =>
    rw [step]
    split
    · rename_i hdropped
      exact .meet (.abandon hdropped)
    · exact .stay

/-- What holds at the start and is kept by every change holds after any run. -/
theorem run_induction {P : Career → Prop} {w : Career} (h : P w)
    (hchange : ∀ {w w' happening}, P w → w.Change happening w' → P w')
    (happenings : List Happening) : P (w.run happenings) := by
  induction happenings generalizing w with
  | nil => exact h
  | cons happening rest ih => exact ih (hchange h (change_step w happening))

/-! ## How a career fits together -/

/-- What holds of a career at all times. -/
structure IsSound (w : Career) : Prop where
  fits : w.elector.Fits w.standing
  /-- The call under way is the one that the phase waits for. -/
  pending : w.pending = w.elector.phase.call?

variable {w w' : Career} {standing : Standing} {event : Event}

theorem isSound_begin (config : ElectionConfig) (key : LockKey) (now : Nat) :
    (begin config key now).IsSound :=
  ⟨Elector.fits_start config key now, rfl⟩

/-- An elector learns only what it expects. -/
theorem Learns.expects (h : w.Learns standing event) (hw : w.IsSound) :
    w.elector.Expects event := by
  cases h with
  | @answer call answer hpending hadmits =>
    exact ⟨call, by rw [← hw.pending, hpending], hadmits⟩
  | @due time hdue hle => exact ⟨time, hdue⟩
  | stop hasked =>
    apply hw.fits.competes
    rw [hasked]
    rfl
  | abandon hdropped => trivial

/-- Its turn is a reaction of the elector. -/
theorem Learns.reacts (h : w.Learns standing event) (hw : w.IsSound) :
    w.elector.Reacts w.now event (w.elector.step w.now event) :=
  Elector.reacts_step w.now (h.expects hw)

theorem Learns.goes (h : w.Learns standing event) : Elector.Goes w.standing event standing := by
  cases h with
  | answer hpending hadmits => exact .on (by simp)
  | due hdue hle => exact .on (by simp)
  | stop hasked => exact .stop hasked
  | abandon hdropped => exact .abandon hdropped

theorem IsSound.meet (hw : w.IsSound) (h : w.Learns standing event) :
    (w.meet standing event).IsSound :=
  ⟨hw.fits.step w.now (h.expects hw) h.goes,
    (Elector.follows_step w.now hw.fits.plain.isFrank (h.expects hw)).call⟩

theorem IsSound.of_change (hw : w.IsSound) {happening : Happening}
    (h : w.Change happening w') : w'.IsSound := by
  cases h with
  | stay => exact hw
  | pass hpass => exact ⟨hw.fits, hw.pending⟩
  | meet hlearns => exact hw.meet hlearns
  | ask hrunning => exact ⟨hw.fits.want (by rw [hrunning]; rfl) rfl, hw.pending⟩
  | drop hrunning => exact ⟨hw.fits.want (by rw [hrunning]; rfl) rfl, hw.pending⟩

end Career

end DocStore.Election

import DocStore.Proofs.Election.Callbacks
import DocStore.Proofs.Election.Freshness

/-!
# Round trips

The calls that one elector makes of the lock service.  Which session it has is read off
the record (`sessionAfter`): a session is there from the answer that opens it until the
elector ends it.

* `Turn.IsDisciplined` says of a turn, by what stands before it, that the call it makes is
  in order: its kind, its session, its time, and what becomes of the session.
* `Career.IsRegular` is the invariant that carries it.  For every phase it says what the
  record holds: the lock that was won, the last yes, the setback that is rested from.
* `round_trips` reads off what holds of whole runs.
-/

namespace DocStore.Election

/-! ## What a turn does to the session -/

/-- The session that the service opened. -/
def Event.opened? : Event → Option SessionId
  | .answered (.opened s) => some s
  | _ => none

namespace Turn

/-- The session that the service opened. -/
def opened? (turn : Turn) : Option SessionId := turn.event.bind Event.opened?

/-- The session after the turn, if it was `held` before. -/
def sessionFrom (held : Option SessionId) (turn : Turn) : Option SessionId :=
  (turn.opened?.or held).filter fun s => .endSession s ∉ turn.effects

/-- The session of the call that is made. -/
def callSession? (turn : Turn) : Option SessionId := turn.call.bind LockCall.session?

/-- The session that can no longer be relied on: trying for the lock failed or took too long, or
a check failed, took too long or was answered with no. -/
def breaks? (turn : Turn) : Option SessionId :=
  match turn.awaited, turn.event with
  | some (.tryLock s), some event => if event.isFailure then some s else none
  | some (.isHeld s), some event =>
      if event.isFailure || event = .answered (.said false) then some s else none
  | _, _ => none

/-- The session for which the lock was refused. -/
def refused? (turn : Turn) : Option SessionId :=
  match turn.awaited, turn.event with
  | some (.tryLock s), some (.answered (.said false)) => some s
  | _, _ => none

/-- The session that was given the lock. -/
def won? (turn : Turn) : Option SessionId :=
  match turn.awaited, turn.event with
  | some (.tryLock s), some (.answered (.said true)) => some s
  | _, _ => none

/-- An attempt failed, or leadership was lost. -/
def isSetback (turn : Turn) : Bool :=
  turn.outcome? = some (.attempt false) || turn.outcome? = some .loss

/-- An attempt starts: with a new session, or with one that was there already. -/
def isAttempt (turn : Turn) : Bool :=
  match turn.call with
  | some .connect => true
  | some (.tryLock _) => turn.opened?.isNone
  | _ => false

/-- The lock is given back. -/
def isRelease (turn : Turn) : Bool :=
  match turn.call with
  | some (.release _) => true
  | _ => false

end Turn

/-- The session after some turns. -/
def sessionAfter (turns : List Turn) : Option SessionId := turns.foldl Turn.sessionFrom none

theorem sessionAfter_concat (turns : List Turn) (turn : Turn) :
    sessionAfter (turns ++ [turn]) = turn.sessionFrom (sessionAfter turns) := by
  rw [sessionAfter, List.foldl_concat]
  rfl

/-- A session that is not there has to be opened before it is. -/
theorem exists_opened {held : Option SessionId} {turns : List Turn} {s : SessionId}
    (hheld : held ≠ some s) (h : turns.foldl Turn.sessionFrom held = some s) :
    ∃ turn ∈ turns, turn.opened? = some s := by
  induction turns generalizing held with
  | nil => exact absurd h hheld
  | cons turn rest ih =>
    by_cases hnext : turn.sessionFrom held = some s
    · have hor : turn.opened?.or held = some s := (Option.filter_eq_some_iff.1 hnext).1
      refine ⟨turn, List.mem_cons_self, ?_⟩
      cases hopened : turn.opened? with
      | none =>
        rw [hopened, Option.none_or] at hor
        exact absurd hor hheld
      | some s' =>
        rw [hopened, Option.some_or] at hor
        exact hor
    · obtain ⟨turn', hmem, hopened⟩ := ih hnext h
      exact ⟨turn', List.mem_cons_of_mem turn hmem, hopened⟩

/-- The session was given the lock, and since then nothing was done with it but to check. -/
def HasWon (turns : List Turn) (s : SessionId) : Prop :=
  ∃ before turn later, turns = before ++ turn :: later ∧ turn.won? = some s ∧
    ∀ t ∈ later, .endSession s ∉ t.effects ∧ (t.call = none ∨ t.call = some (.isHeld s))

theorem hasWon_concat {turns : List Turn} {turn : Turn} {s : SessionId}
    (h : turn.won? = some s) : HasWon (turns ++ [turn]) s :=
  ⟨turns, turn, [], rfl, h, fun _ ht => absurd ht List.not_mem_nil⟩

theorem HasWon.concat {turns : List Turn} {turn : Turn} {s : SessionId} (h : HasWon turns s)
    (hends : .endSession s ∉ turn.effects)
    (hcall : turn.call = none ∨ turn.call = some (.isHeld s)) : HasWon (turns ++ [turn]) s := by
  obtain ⟨before, won, later, rfl, hwon, hlater⟩ := h
  refine ⟨before, won, later ++ [turn], by simp, hwon, ?_⟩
  intro t ht
  rcases List.mem_append.1 ht with ht | ht
  · exact hlater t ht
  · rw [List.mem_singleton.1 ht]
    exact ⟨hends, hcall⟩

theorem Turn.isRelease_iff {turn : Turn} :
    turn.isRelease = true ↔ ∃ s, turn.call = some (.release s) := by
  rw [isRelease]
  split
  · rename_i s hcall
    exact ⟨fun _ => ⟨s, hcall⟩, fun _ => rfl⟩
  · rename_i hcall
    exact ⟨fun h => absurd h Bool.false_ne_true, fun ⟨s, h⟩ => absurd h (hcall s)⟩

/-! ## Order in calls -/

/-- The call of a turn is in order, by what stands before it. -/
structure Turn.IsDisciplined (config : ElectionConfig) (before : List Turn) (turn : Turn) :
    Prop where
  /-- It connects only while it has no session. -/
  connect : turn.call = some .connect → sessionAfter (before ++ [turn]) = none
  /-- All other calls are made with the session it has. -/
  session : ∀ s, turn.callSession? = some s → sessionAfter (before ++ [turn]) = some s
  tryLock : ∀ s, turn.call = some (.tryLock s) → shownRole (before ++ [turn]) = .candidate
  /-- It checks as a leader, the session that won, and not before it is time. -/
  isHeld : ∀ s, turn.call = some (.isHeld s) →
    shownRole (before ++ [turn]) = .leader ∧ HasWon before s ∧
      ∃ time, lastYes? before = some (s, time) ∧
        time + config.checkInterval.toMillisUp ≤ turn.time
  /-- It gives the lock back when it notices that it has to stop, if it leads. -/
  release : turn.isRelease = true →
    turn.event = some .stop ∧ shownRole before = .leader ∧
      ∀ earlier ∈ before, earlier.isRelease = false
  broken : ∀ s, turn.breaks? = some s →
    .endSession s ∈ turn.effects ∧ sessionAfter (before ++ [turn]) = none
  refused : ∀ s, turn.refused? = some s → sessionAfter (before ++ [turn]) = some s
  /-- Every attempt but the first rests from a setback, and goes on with the session if that was
  a refusal. -/
  attempt : turn.isAttempt = true → before = [] ∨
    ∃ earlier setback, before = earlier ++ [setback] ∧ setback.isSetback = true ∧
      setback.time + config.retryInterval.toMillisUp ≤ turn.time ∧
      turn.call = match setback.refused? with
        | some s => some (.tryLock s)
        | none => some .connect

/-- Something holds of every turn and what stands before it. -/
def OnRecord (P : List Turn → Turn → Prop) (turns : List Turn) : Prop :=
  ∀ before turn later, turns = before ++ turn :: later → P before turn

theorem onRecord_nil {P : List Turn → Turn → Prop} : OnRecord P [] :=
  fun before turn later h => by simp at h

theorem OnRecord.concat {P : List Turn → Turn → Prop} {turns : List Turn} {turn : Turn}
    (h : OnRecord P turns) (hturn : P turns turn) : OnRecord P (turns ++ [turn]) := by
  intro before turn' later heq
  rcases List.eq_nil_or_concat later with rfl | ⟨later, last, rfl⟩
  · obtain ⟨rfl, hlast⟩ := List.append_inj' heq rfl
    rwa [← List.singleton_inj.1 hlast]
  · have hfront : turns ++ [turn] = (before ++ turn' :: later) ++ [last] := by
      rw [heq, List.concat_eq_append, List.append_assoc, List.cons_append]
    exact h before turn' later (List.append_inj' hfront rfl).1

theorem OnRecord.of_concat {P : List Turn → Turn → Prop} {turns : List Turn} {turn : Turn}
    (h : OnRecord P (turns ++ [turn])) : OnRecord P turns ∧ P turns turn := by
  refine ⟨?_, h turns turn [] rfl⟩
  rintro before turn' later rfl
  exact h before turn' (later ++ [turn]) (by simp)

/-- A turn that gives the lock back is the first one that does. -/
theorem OnRecord.length_releases_le {config : ElectionConfig} {turns : List Turn}
    (h : OnRecord (Turn.IsDisciplined config) turns) :
    (turns.filter Turn.isRelease).length ≤ 1 := by
  induction turns using List.reverseRecOn with
  | nil => exact Nat.zero_le 1
  | append_singleton turns turn ih =>
    obtain ⟨hturns, hturn⟩ := h.of_concat
    rw [List.filter_append, List.length_append]
    cases hrelease : turn.isRelease with
    | false =>
      rw [List.filter_cons_of_neg (by simp [hrelease]), List.filter_nil]
      exact ih hturns
    | true =>
      have hfirst : turns.filter Turn.isRelease = [] :=
        List.filter_eq_nil_iff.2 fun earlier hmem => by
          simp [(hturn.release hrelease).2.2 earlier hmem]
      rw [hfirst, List.filter_cons_of_pos hrelease, List.filter_nil]
      exact Nat.le_refl 1

/-! ## What reactions tell -/

/-- Only a leader checks. -/
theorem Phase.eq_checking {p : Phase} {s : SessionId} (h : p.call? = some (.isHeld s)) :
    ∃ deadline, p = .checking s deadline := by
  cases p with
  | checking s' deadline =>
    obtain rfl : s' = s := LockCall.isHeld.inj (Option.some.inj h)
    exact ⟨deadline, rfl⟩
  | _ => simp [call?] at h

namespace Elector

variable {e : Elector} {now : Nat} {event : Event} {r : Reaction}

theorem Event.opened?_of_isFailure (h : event.isFailure = true) : event.opened? = none := by
  cases event with
  | answered answer =>
    cases answer with
    | opened s => simp [Event.isFailure] at h
    | _ => rfl
  | _ => rfl

/-- The elector has the session that was opened, or the one it had, or ends it. -/
theorem Reacts.keeps_or_ends (h : e.Reacts now event r) :
    (r.elector.phase.session? = event.opened?.or e.phase.session? ∧
        ∀ s, .endSession s ∉ r.effects) ∨
      (r.elector.phase.session? = none ∧ event.opened? = none ∧
        ∀ s, e.phase.session? = some s → .endSession s ∈ r.effects) := by
  cases h with
  | opened hphase s => exact Or.inl ⟨rfl, by simp⟩
  | unreachable hphase hevent log =>
    refine Or.inr ⟨rfl, Event.opened?_of_isFailure hevent, fun s hs => ?_⟩
    simp [hphase, Phase.session?] at hs
  | won hphase log => exact Or.inl ⟨by rw [hphase]; rfl, by simp⟩
  | refused hphase log => exact Or.inl ⟨by rw [hphase]; rfl, by simp [rest]⟩
  | failed hphase hevent log =>
    refine Or.inr ⟨rfl, Event.opened?_of_isFailure hevent, fun s hs => ?_⟩
    rw [hphase] at hs
    obtain rfl := Option.some.inj hs
    simp [rest]
  | confirmed hphase => exact Or.inl ⟨by rw [hphase]; rfl, by simp⟩
  | lost hphase hevent log =>
    refine Or.inr ⟨rfl, ?_, fun s hs => ?_⟩
    · rcases hevent with rfl | hfailure
      · rfl
      · exact Event.opened?_of_isFailure hfailure
    · rw [hphase] at hs
      obtain rfl := Option.some.inj hs
      simp [rest]
  | check hphase => exact Or.inl ⟨by rw [hphase]; rfl, by simp⟩
  | @again session wake hphase =>
    rw [hphase]
    cases session with
    | none => exact Or.inl ⟨rfl, by simp [attempt]⟩
    | some s => exact Or.inl ⟨rfl, by simp [attempt]⟩
  | giveBack hleads => exact Or.inl ⟨(Phase.session?_of_leads? hleads).symm, by simp⟩
  | givenBack hphase hevent logs =>
    refine Or.inr ⟨rfl, ?_, fun s hs => endSession_mem_finish hs _⟩
    rcases hevent with ⟨yes, rfl⟩ | hfailure
    · rfl
    · exact Event.opened?_of_isFailure hfailure
  | cutOff hending hleads => exact Or.inr ⟨rfl, rfl, fun s hs => endSession_mem_finish hs _⟩
  | gone => exact Or.inr ⟨rfl, rfl, fun s hs => endSession_mem_onAbandon hs⟩

/-- The session of the record is that of the phase. -/
theorem Reacts.sessionFrom (h : e.Reacts now event r) (time : Nat) (awaited call : Option LockCall) :
    Turn.sessionFrom e.phase.session? ⟨time, awaited, some event, r.effects, call⟩ =
      r.elector.phase.session? := by
  have heq : Turn.sessionFrom e.phase.session? ⟨time, awaited, some event, r.effects, call⟩ =
      (event.opened?.or e.phase.session?).filter fun s => .endSession s ∉ r.effects := rfl
  rw [heq]
  rcases h.keeps_or_ends with ⟨hkeeps, heffects⟩ | ⟨hnone, hopened, hends⟩
  · rw [hkeeps]
    cases event.opened?.or e.phase.session? with
    | none => rfl
    | some s => simp [heffects s]
  · rw [hnone, hopened, Option.none_or, Option.filter_eq_none_iff]
    intro s hs
    simpa using hends s hs

/-- Who is ending goes on ending. -/
theorem Reacts.isEnding (h : e.Reacts now event r) (hending : e.phase.isEnding = true) :
    r.elector.phase.isEnding = true := by
  cases h with
  | givenBack hphase hevent logs => rfl
  | giveBack hleads => rfl
  | cutOff hending' hleads => rfl
  | gone => rfl
  | opened hphase s => simp [hphase, Phase.isEnding] at hending
  | unreachable hphase hevent log => simp [hphase, Phase.isEnding] at hending
  | won hphase log => simp [hphase, Phase.isEnding] at hending
  | refused hphase log => simp [hphase, Phase.isEnding] at hending
  | failed hphase hevent log => simp [hphase, Phase.isEnding] at hending
  | confirmed hphase => simp [hphase, Phase.isEnding] at hending
  | lost hphase hevent log => simp [hphase, Phase.isEnding] at hending
  | check hphase => simp [hphase, Phase.isEnding] at hending
  | again hphase => simp [hphase, Phase.isEnding] at hending

/-- The turn of a reaction. -/
abbrev turnOf (e : Elector) (now : Nat) (event : Event) (r : Reaction) : Turn :=
  ⟨now, e.phase.call?, some event, r.effects, r.call⟩

/-- A failure of any call but a release is a setback, and no refusal. -/
theorem isSetback_of_isFailure {call : LockCall} (hcall : e.phase.call? = some call)
    (hrelease : ∀ s, call ≠ .release s) (hevent : event.isFailure = true) (r : Reaction) :
    (e.turnOf now event r).isSetback = true ∧ (e.turnOf now event r).refused? = none := by
  rw [turnOf, hcall]
  cases event with
  | answered answer =>
    cases answer with
    | failed cause =>
      cases call with
      | release s => exact absurd rfl (hrelease s)
      | _ => exact ⟨rfl, rfl⟩
    | _ => simp [Event.isFailure] at hevent
  | due =>
    cases call with
    | release s => exact absurd rfl (hrelease s)
    | _ => exact ⟨rfl, rfl⟩
  | _ => simp [Event.isFailure] at hevent

/-- Who rests has just met a setback, and keeps its session only if that was a refusal. -/
theorem Reacts.of_resting (h : e.Reacts now event r) {session : Option SessionId} {wake : Nat}
    (hresting : r.elector.phase = .resting session wake) :
    (e.turnOf now event r).isSetback = true ∧ (e.turnOf now event r).refused? = session ∧
      wake = now + e.config.retryInterval.toMillisUp := by
  cases h with
  | unreachable hphase hevent log =>
    obtain ⟨rfl, rfl⟩ := Phase.resting.inj hresting
    have hcall : e.phase.call? = some .connect := by rw [hphase]; rfl
    obtain ⟨hsetback, hrefused⟩ := isSetback_of_isFailure hcall (by simp) hevent _
    exact ⟨hsetback, hrefused, rfl⟩
  | refused hphase log =>
    obtain ⟨rfl, rfl⟩ := Phase.resting.inj hresting
    simp [Turn.isSetback, Turn.refused?, Turn.outcome?, outcome?, hphase, Phase.call?,
      LockCall.outcome?]
  | @failed s deadline event hphase hevent log =>
    obtain ⟨rfl, rfl⟩ := Phase.resting.inj hresting
    have hcall : e.phase.call? = some (.tryLock s) := by rw [hphase]; rfl
    obtain ⟨hsetback, hrefused⟩ := isSetback_of_isFailure hcall (by simp) hevent _
    exact ⟨hsetback, hrefused, rfl⟩
  | @lost s deadline event hphase hevent log =>
    obtain ⟨rfl, rfl⟩ := Phase.resting.inj hresting
    rcases hevent with rfl | hevent
    · simp [Turn.isSetback, Turn.refused?, Turn.outcome?, outcome?, hphase, Phase.call?,
        LockCall.outcome?]
    · have hcall : e.phase.call? = some (.isHeld s) := by rw [hphase]; rfl
      obtain ⟨hsetback, hrefused⟩ := isSetback_of_isFailure hcall (by simp) hevent _
      exact ⟨hsetback, hrefused, rfl⟩
  | @again session wake hphase =>
    cases session <;> simp [attempt, become] at hresting
  | _ => simp [finish, become, lead, onAbandon] at hresting

/-- A stop says nothing about the session, and neither does being given up. -/
theorem breaks?_turnOf_of_isEnd (h : event = .stop ∨ event = .abandon) :
    (e.turnOf now event r).breaks? = none := by
  rw [turnOf]
  rcases h with rfl | rfl
  · cases e.phase <;> rfl
  · cases e.phase <;> rfl

/-- What can no longer be relied on is ended. -/
theorem Reacts.ends_broken (h : e.Reacts now event r) {s : SessionId}
    (hbreaks : (e.turnOf now event r).breaks? = some s) : .endSession s ∈ r.effects := by
  cases h with
  | @failed s' deadline event hphase hevent log =>
    have hs : s' = s := by simpa [Turn.breaks?, hphase, Phase.call?, hevent] using hbreaks
    simp [rest, hs]
  | @lost s' deadline event hphase hevent log =>
    have hs : s' = s := by
      rcases hevent with rfl | hevent
      · simpa [Turn.breaks?, hphase, Phase.call?] using hbreaks
      · simpa [Turn.breaks?, hphase, Phase.call?, hevent] using hbreaks
    simp [rest, hs]
  | giveBack hleads => simp [breaks?_turnOf_of_isEnd (Or.inl rfl)] at hbreaks
  | cutOff hending hleads => simp [breaks?_turnOf_of_isEnd (Or.inl rfl)] at hbreaks
  | gone => simp [breaks?_turnOf_of_isEnd (Or.inr rfl)] at hbreaks
  | opened hphase s' => simp [Turn.breaks?, hphase, Phase.call?] at hbreaks
  | unreachable hphase hevent log => simp [Turn.breaks?, hphase, Phase.call?] at hbreaks
  | won hphase log => simp [Turn.breaks?, hphase, Phase.call?, Event.isFailure] at hbreaks
  | refused hphase log => simp [Turn.breaks?, hphase, Phase.call?, Event.isFailure] at hbreaks
  | confirmed hphase => simp [Turn.breaks?, hphase, Phase.call?, Event.isFailure] at hbreaks
  | check hphase => simp [Turn.breaks?, hphase, Phase.call?] at hbreaks
  | again hphase => simp [Turn.breaks?, hphase, Phase.call?] at hbreaks
  | givenBack hphase hevent logs => simp [Turn.breaks?, hphase, Phase.call?] at hbreaks

/-- A refusal leaves the session. -/
theorem Reacts.keeps_refused (h : e.Reacts now event r) {s : SessionId}
    (hrefused : (e.turnOf now event r).refused? = some s) :
    r.elector.phase.session? = some s := by
  obtain ⟨hcall, rfl⟩ : e.phase.call? = some (.tryLock s) ∧ event = .answered (.said false) := by
    rw [Turn.refused?] at hrefused
    split at hrefused
    · rename_i hcall hevent
      exact ⟨hcall.trans (congrArg (some ∘ LockCall.tryLock) (Option.some.inj hrefused)),
        Option.some.inj hevent⟩
    · simp at hrefused
  obtain ⟨deadline, htrying⟩ := Phase.eq_trying hcall
  cases h with
  | refused hphase log =>
    rw [htrying] at hphase
    obtain ⟨rfl, -⟩ := Phase.trying.inj hphase
    rfl
  | unreachable hphase hevent log => simp [Event.isFailure] at hevent
  | failed hphase hevent log => simp [Event.isFailure] at hevent
  | lost hphase hevent log => simp [htrying] at hphase
  | givenBack hphase hevent logs => simp [htrying] at hphase

/-- An attempt starts when the rest is over, with the session that was kept. -/
theorem Reacts.of_isAttempt (h : e.Reacts now event r)
    (hattempt : (e.turnOf now event r).isAttempt = true) :
    event = .due ∧ ∃ session wake, e.phase = .resting session wake ∧
      r.call = match session with
        | some s => some (.tryLock s)
        | none => some .connect := by
  cases h with
  | @again session wake hphase =>
    refine ⟨rfl, session, wake, hphase, ?_⟩
    cases session <;> rfl
  | opened hphase s => simp [Turn.isAttempt, Turn.opened?, Event.opened?] at hattempt
  | _ => simp [Turn.isAttempt, rest, finish, onAbandon] at hattempt

end Elector

/-! ## The calls of a run -/

namespace Career

variable {w w' : Career} {standing : Standing} {event : Event} {config : ElectionConfig}

/-- The calls of a career are in order, and the record tells what its elector relies on. -/
structure IsRegular (config : ElectionConfig) (w : Career) : Prop where
  same : w.elector.config = config
  session : sessionAfter w.turns = w.elector.phase.session?
  leads : ∀ s, w.elector.phase.leads? = some s → HasWon w.turns s
  leading : ∀ s wake, w.elector.phase = .leading s wake →
    ∃ time, lastYes? w.turns = some (s, time) ∧ wake = time + config.checkInterval.toMillisUp
  resting : ∀ session wake, w.elector.phase = .resting session wake →
    ∃ earlier setback, w.turns = earlier ++ [setback] ∧ setback.isSetback = true ∧
      setback.refused? = session ∧ wake = setback.time + config.retryInterval.toMillisUp
  releases : w.elector.phase.isEnding = false → ∀ turn ∈ w.turns, turn.isRelease = false
  turns : OnRecord (Turn.IsDisciplined config) w.turns

theorem isRegular_begin (config : ElectionConfig) (key : LockKey) (now : Nat) :
    (begin config key now).IsRegular config where
  same := rfl
  session := rfl
  leads := fun s hs => by simp [begin, Elector.start, Elector.attempt, Elector.become,
    Phase.leads?] at hs
  leading := fun s wake h => by simp [begin, Elector.start, Elector.attempt, Elector.become] at h
  resting := fun session wake h => by
    simp [begin, Elector.start, Elector.attempt, Elector.become] at h
  releases := fun _ turn hturn => by
    rw [List.mem_singleton.1 hturn]
    rfl
  turns := by
    refine onRecord_nil.concat ?_
    exact ⟨fun _ => rfl, fun s hs => by simp [Turn.callSession?, LockCall.session?,
        Elector.start, Elector.attempt] at hs,
      fun s hs => by simp [Elector.start, Elector.attempt] at hs,
      fun s hs => by simp [Elector.start, Elector.attempt] at hs,
      fun h => by simp [Turn.isRelease, Elector.start, Elector.attempt] at h,
      fun s hs => by simp [Turn.breaks?] at hs, fun s hs => by simp [Turn.refused?] at hs,
      fun _ => Or.inl rfl⟩

/-- What a career puts on record. -/
theorem turns_meet (hw : w.IsSound) (standing : Standing) (event : Event) :
    (w.meet standing event).turns =
      w.turns ++ [w.elector.turnOf w.now event (w.elector.step w.now event)] := by
  rw [Career.meet, hw.pending]

/-- The turn that an elector takes is in order. -/
theorem IsRegular.isDisciplined (h : w.IsRegular config) (hw : w.IsSound) (hcandid : w.IsCandid)
    (hlearns : w.Learns standing event) :
    (w.elector.turnOf w.now event (w.elector.step w.now event)).IsDisciplined config w.turns := by
  have hreacts := hlearns.reacts hw
  have hfollows := Elector.follows_step w.now hw.fits.plain.isFrank (hlearns.expects hw)
  have hturns := turns_meet hw standing event
  have hsound := hw.meet hlearns
  have hsession : sessionAfter (w.turns ++ [w.elector.turnOf w.now event
      (w.elector.step w.now event)]) = (w.elector.step w.now event).elector.phase.session? := by
    rw [sessionAfter_concat, h.session]
    exact hreacts.sessionFrom _ _ _
  have hshown := (hcandid.meet hw hlearns).shown
  rw [hturns] at hshown
  -- the call made is the one that the new phase waits for
  have hphase : ∀ {call}, (w.elector.step w.now event).call = some call →
      (w.elector.step w.now event).elector.phase.call? = some call :=
    fun hcall => hfollows.call.symm.trans hcall
  -- who waits for a time has waited until it came
  have hwaited : event = .due → ∀ time, w.elector.phase.due? = some time → time ≤ w.now := by
    rintro rfl time hdue
    cases hlearns with
    | due hdue' hle => rwa [Option.some.inj (hdue.symm.trans hdue')]
  refine ⟨?_, ?_, ?_, ?_, ?_, ?_, ?_, ?_⟩
  · intro hcall
    rw [hsession, Phase.session?_of_call? (hphase hcall)]
    rfl
  · intro s hs
    obtain ⟨call, hcall, hcallSession⟩ := Option.bind_eq_some_iff.1 hs
    rw [hsession, Phase.session?_of_call? (hphase hcall), hcallSession]
  · intro s hcall
    obtain ⟨deadline, htrying⟩ := Phase.eq_trying (hphase hcall)
    rw [hshown]
    exact hsound.fits.plain .candidate (congrArg Phase.role? htrying)
  · intro s hcall
    obtain ⟨deadline, hchecking⟩ := Phase.eq_checking (hphase hcall)
    obtain ⟨rfl, ⟨wake, hleading⟩, -⟩ := hreacts.of_checking hchecking
    obtain ⟨time, hyes, hwake⟩ := h.leading s wake hleading
    have hle : wake ≤ w.now := hwaited rfl wake (by rw [hleading]; rfl)
    refine ⟨?_, h.leads s (by rw [hleading]; rfl), time, hyes, hwake ▸ hle⟩
    rw [hshown]
    exact hsound.fits.plain .leader (congrArg Phase.role? hchecking)
  · intro hrelease
    obtain ⟨s, hcall⟩ := Turn.isRelease_iff.1 hrelease
    obtain ⟨deadline, hreleasing⟩ := Phase.eq_releasing (hphase hcall)
    obtain ⟨rfl, hleads, -, -⟩ := hreacts.of_releasing hreleasing
    refine ⟨rfl, ?_, h.releases (hlearns.expects hw)⟩
    rw [hcandid.shown]
    exact of_decide_eq_true (hw.fits.plain.isLeader_of_holds? (Phase.holds?_of_leads? hleads))
  · intro s hbreaks
    have hends := hreacts.ends_broken hbreaks
    exact ⟨hends, by rw [hsession, (hfollows.ends s hends).2]⟩
  · intro s hrefused
    rw [hsession, hreacts.keeps_refused hrefused]
  · intro hattempt
    obtain ⟨rfl, session, wake, hresting, hcall⟩ := hreacts.of_isAttempt hattempt
    obtain ⟨earlier, setback, hbefore, hsetback, rfl, hwake⟩ := h.resting session wake hresting
    have hle : wake ≤ w.now := hwaited rfl wake (by rw [hresting]; rfl)
    exact Or.inr ⟨earlier, setback, hbefore, hsetback, hwake ▸ hle, hcall⟩

theorem IsRegular.meet (h : w.IsRegular config) (hw : w.IsSound) (hcandid : w.IsCandid)
    (hlearns : w.Learns standing event) : (w.meet standing event).IsRegular config := by
  have hreacts := hlearns.reacts hw
  have hfollows := Elector.follows_step w.now hw.fits.plain.isFrank (hlearns.expects hw)
  have hturns := turns_meet hw standing event
  refine ⟨hfollows.config.trans h.same, ?_, ?_, ?_, ?_, ?_, ?_⟩
  · rw [hturns, sessionAfter_concat, h.session]
    exact hreacts.sessionFrom _ _ _
  · intro s hleads
    rw [hturns]
    rcases hfollows.leads s hleads with hled | ⟨hcall, rfl⟩
    · refine (h.leads s hled).concat ?_ ?_
      · intro hends
        have hnone := (hfollows.ends s hends).2
        exact absurd ((Phase.session?_of_leads? hleads).symm.trans hnone) (Option.some_ne_none s)
      · cases hcall : (w.elector.step w.now event).call with
        | none => exact Or.inl hcall
        | some call =>
          obtain rfl := Phase.call?_of_leads? hleads (hfollows.call.symm.trans hcall)
          exact Or.inr hcall
    · apply hasWon_concat
      rw [Elector.turnOf, hcall]
      rfl
  · intro s wake hleading
    obtain ⟨rfl, hcall, hwake⟩ := hreacts.of_leading hleading
    exact ⟨w.now, lastYes?_concat_some (yes?_of_pending hw hcall _ _), by rw [hwake, h.same]⟩
  · intro session wake hresting
    obtain ⟨hsetback, hrefused, hwake⟩ := hreacts.of_resting hresting
    exact ⟨w.turns, _, hturns, hsetback, hrefused, by rw [hwake, h.same]⟩
  · intro hending turn hturn
    rw [hturns] at hturn
    rcases List.mem_append.1 hturn with hold | hnew
    · apply h.releases _ turn hold
      rw [← Bool.not_eq_true]
      intro hbefore
      exact absurd ((hreacts.isEnding hbefore).symm.trans hending) (by decide)
    · rw [List.mem_singleton.1 hnew, ← Bool.not_eq_true]
      intro hrelease
      obtain ⟨s, hcall⟩ := Turn.isRelease_iff.1 hrelease
      obtain ⟨deadline, hreleasing⟩ := Phase.eq_releasing (hfollows.call.symm.trans hcall)
      rw [Career.meet, hreleasing] at hending
      simp [Phase.isEnding] at hending
  · rw [hturns]
    exact h.turns.concat (h.isDisciplined hw hcandid hlearns)

theorem IsRegular.of_change (h : w.IsRegular config) (hw : w.IsSound) (hcandid : w.IsCandid)
    {happening : Happening} (hchange : w.Change happening w') : w'.IsRegular config := by
  cases hchange with
  | meet hlearns => exact h.meet hw hcandid hlearns
  | _ => exact ⟨h.same, h.session, h.leads, h.leading, h.resting, h.releases, h.turns⟩

theorem isRegular_run (config : ElectionConfig) (key : LockKey) (start : Nat)
    (happenings : List Happening) :
    ((begin config key start).run happenings).IsRegular config := by
  refine And.right (run_induction (P := fun w => (w.IsSound ∧ w.IsCandid) ∧ w.IsRegular config)
    ⟨⟨isSound_begin config key start, isCandid_begin config key start⟩,
      isRegular_begin config key start⟩ ?_ happenings)
  rintro w w' happening ⟨⟨hw, hcandid⟩, h⟩ hchange
  exact ⟨⟨hw.of_change hchange, hcandid.of_change hw hchange⟩, h.of_change hw hcandid hchange⟩

/-- The calls of an elector in any run.  Each is in order when it is made; a session that can no
longer be relied on is ended and used no more, unless the service opens one under its number; and
the lock is given back at most once. -/
theorem round_trips (config : ElectionConfig) (key : LockKey) (start : Nat)
    (happenings : List Happening) :
    let w := (begin config key start).run happenings
    (∀ before turn later, w.turns = before ++ turn :: later →
        turn.IsDisciplined config before) ∧
      (∀ before turn between next later s,
        w.turns = before ++ turn :: (between ++ next :: later) → turn.breaks? = some s →
          next.callSession? = some s →
            ∃ opening ∈ between ++ [next], opening.opened? = some s) ∧
      (w.turns.filter Turn.isRelease).length ≤ 1 := by
  intro w
  have hrecord := (isRegular_run config key start happenings).turns
  refine ⟨hrecord, ?_, ?_⟩
  · intro before turn between next later s hturns hbreaks hnext
    have hbroken := ((hrecord before turn _ hturns).broken s hbreaks).2
    have hused := (hrecord (before ++ turn :: between) next later (by rw [hturns]; simp)).session s
      hnext
    rw [List.append_assoc, List.cons_append, ← List.singleton_append, ← List.append_assoc,
      sessionAfter, List.foldl_append, ← sessionAfter, hbroken] at hused
    exact exists_opened (by simp) hused
  · exact hrecord.length_releases_le

/-- An elector is refused, tries again with its session and leads; its second check fails, so it
connects anew, is given the same number, and leads until it is stopped. -/
def reconnection : List Happening :=
  [.hear (.opened 1), .hear (.said false), .pass 60000, .due, .hear (.said true), .pass 60000,
    .due, .hear (.said true), .pass 60000, .due, .hear (.failed .poolTimeout), .pass 60000, .due,
    .hear (.opened 1), .hear (.said true), .ask, .notice, .hear (.said true)]

theorem round_trips_reconnection :
    let w := (begin .default (.ofName "bastion_leader") 0).run reconnection
    w.turns.filterMap Turn.call =
        [.connect, .tryLock 1, .tryLock 1, .isHeld 1, .isHeld 1, .connect, .tryLock 1,
          .release 1] ∧
      (∃ opening ∈ (w.turns.drop 9).take 2, opening.opened? = some 1) ∧
      (w.turns[7]?.map Turn.call = some (some (.isHeld 1)) ∧
        shownRole (w.turns.take 8) = .leader ∧ HasWon (w.turns.take 7) 1) ∧
      (w.turns.filter Turn.isRelease).length = 1 := by
  intro w
  obtain ⟨hrecord, hbroken, hreleases⟩ :=
    round_trips .default (.ofName "bastion_leader") 0 reconnection
  -- the failed check and the call that is made with the session of its number
  have hfailure : ∃ turn next, w.turns =
      w.turns.take 8 ++ turn :: ((w.turns.drop 9).take 1 ++ next :: w.turns.drop 11) ∧
      turn.breaks? = some 1 ∧ next.callSession? = some 1 ∧
      (w.turns.drop 9).take 1 ++ [next] = (w.turns.drop 9).take 2 := by
    refine ⟨w.turns.get ⟨8, by decide +kernel⟩, w.turns.get ⟨10, by decide +kernel⟩, ?_⟩
    decide +kernel
  have hcheck : ∃ turn, w.turns = w.turns.take 7 ++ turn :: w.turns.drop 8 ∧
      turn.call = some (.isHeld 1) ∧ w.turns.take 7 ++ [turn] = w.turns.take 8 := by
    refine ⟨w.turns.get ⟨7, by decide +kernel⟩, ?_⟩
    decide +kernel
  obtain ⟨turn, next, hturns, hbreaks, hnext, htake⟩ := hfailure
  obtain ⟨check, hturns', hcall, htake'⟩ := hcheck
  obtain ⟨hleader, hwon, -⟩ := (hrecord _ check _ hturns').isHeld 1 hcall
  refine ⟨by decide +kernel, ?_, ⟨by decide +kernel, htake' ▸ hleader, hwon⟩, ?_⟩
  · rw [← htake]
    exact hbroken _ turn _ next _ 1 hturns hbreaks hnext
  · exact Nat.le_antisymm hreleases (by decide +kernel)

end Career

end DocStore.Election

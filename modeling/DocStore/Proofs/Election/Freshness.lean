import DocStore.Proofs.Election.Career

/-!
# Freshness

How long ago a leader last heard that it has its lock.  The clock counts whole
milliseconds, and it waits for who has something to do: no time passes while an elector
is due or has not noticed what its owner wants (`Career.isPunctual`).

A wait that ends within a millisecond ends for the clock at the end of it.  So a time
that is not a whole number of milliseconds counts as the next larger one, and the bounds
are those of the times as they count, and not as they are (`not_isBounded_sliver`).

`Career.IsTimely` says for every phase of a leader how far its next deadline lies
behind the last yes, or behind the stop; `leader_fresh` reads the bounds off.
-/

namespace DocStore.Election

/-- The session that heard a yes last, and when: it was given the lock, or it still held it. -/
def lastYes? (turns : List Turn) : Option (SessionId × Nat) :=
  (turns.filterMap Turn.yes?).getLast?

theorem lastYes?_concat_some {turns : List Turn} {turn : Turn} {yes : SessionId × Nat}
    (h : turn.yes? = some yes) : lastYes? (turns ++ [turn]) = some yes := by
  rw [lastYes?, List.filterMap_append, List.filterMap_cons_some h]
  exact List.getLast?_concat

theorem lastYes?_concat_none {turns : List Turn} {turn : Turn} (h : turn.yes? = none) :
    lastYes? (turns ++ [turn]) = lastYes? turns := by
  rw [lastYes?, List.filterMap_append, List.filterMap_cons_none h, List.filterMap_nil,
    List.append_nil]
  rfl

namespace Career

variable {w w' : Career} {standing : Standing} {event : Event}

/-! ## A punctual clock -/

/-- So much time can pass before anything has to happen. -/
def canPass (w : Career) (millis : Nat) : Bool :=
  w.standing ≠ .asked && w.standing ≠ .dropped &&
    w.elector.phase.due?.all (w.now + millis ≤ ·)

/-- Time passes only when nothing is left to be done before. -/
def isPunctual : Career → List Happening → Bool
  | _, [] => true
  | w, .pass millis :: rest => w.canPass millis && (w.step (.pass millis)).isPunctual rest
  | w, happening :: rest => (w.step happening).isPunctual rest

theorem isPunctual_cons {happening : Happening} {rest : List Happening}
    (h : w.isPunctual (happening :: rest) = true) :
    (∀ millis, happening = .pass millis → w.canPass millis = true) ∧
      (w.step happening).isPunctual rest = true := by
  cases happening with
  | pass millis =>
    obtain ⟨hpass, hrest⟩ := Bool.and_eq_true_iff.1 h
    refine ⟨?_, hrest⟩
    rintro millis' heq
    rw [← Happening.pass.inj heq]
    exact hpass
  | _ => exact ⟨fun millis heq => by simp at heq, h⟩

/-! ## Deadlines -/

/-- The next deadline of a leader lies a known time behind the last yes, and that of one that
gives its lock back behind the stop. -/
structure IsTimely (config : ElectionConfig) (w : Career) : Prop where
  same : w.elector.config = config
  due : ∀ time, w.elector.phase.due? = some time → w.now ≤ time
  leading : ∀ s wake, w.elector.phase = .leading s wake →
    ∃ time, lastYes? w.turns = some (s, time) ∧ wake = time + config.checkInterval.toMillisUp
  checking : ∀ s deadline, w.elector.phase = .checking s deadline →
    ∃ time, lastYes? w.turns = some (s, time) ∧
      deadline = time + config.checkInterval.toMillisUp + config.checkTimeout.toMillisUp
  releasing : ∀ s deadline, w.elector.phase = .releasing s deadline →
    ∃ time, w.askedAt = some time ∧ deadline = time + config.checkTimeout.toMillisUp
  asked : w.standing = .asked → w.askedAt = some w.now
  wanted : ∀ time, w.askedAt = some time → w.standing = .asked ∨ w.standing = .stopping

variable {config : ElectionConfig}

theorem isTimely_begin (config : ElectionConfig) (key : LockKey) (now : Nat) :
    (begin config key now).IsTimely config where
  same := rfl
  due := by
    intro time htime
    rw [← Option.some.inj htime]
    exact Nat.le_add_right now _
  leading := fun s wake h => by simp [begin, Elector.start, Elector.attempt, Elector.become] at h
  checking := fun s deadline h => by
    simp [begin, Elector.start, Elector.attempt, Elector.become] at h
  releasing := fun s deadline h => by
    simp [begin, Elector.start, Elector.attempt, Elector.become] at h
  asked := fun h => by simp [begin] at h
  wanted := fun time h => by simp [begin] at h

/-- The session that is told yes is on record with its turn. -/
theorem yes?_of_pending (hw : w.IsSound) {s : SessionId}
    (h : w.elector.phase.call? = some (.tryLock s) ∨ w.elector.phase.call? = some (.isHeld s))
    (effects : List Effect) (call : Option LockCall) :
    (Turn.mk w.now w.pending (some (.answered (.said true))) effects call).yes? =
      some (s, w.now) := by
  rcases h with h | h
  · rw [hw.pending, h]
    rfl
  · rw [hw.pending, h]
    rfl

theorem IsTimely.meet (h : w.IsTimely config) (hw : w.IsSound)
    (hlearns : w.Learns standing event) : (w.meet standing event).IsTimely config := by
  have hreacts := hlearns.reacts hw
  have hfollows := Elector.follows_step w.now hw.fits.plain.isFrank (hlearns.expects hw)
  refine ⟨hfollows.config.trans h.same, fun time => hreacts.le_due, ?_, ?_, ?_, ?_, ?_⟩
  · intro s wake hphase
    obtain ⟨rfl, hcall, hwake⟩ := hreacts.of_leading hphase
    refine ⟨w.now, lastYes?_concat_some (yes?_of_pending hw hcall _ _), ?_⟩
    rw [hwake, h.same]
  · intro s deadline hphase
    obtain ⟨rfl, ⟨wake, hleading⟩, hdeadline⟩ := hreacts.of_checking hphase
    obtain ⟨time, hyes, hwake⟩ := h.leading s wake hleading
    -- the clock has not gone past the wake, so that the check starts then
    have hnow : w.now = wake := by
      have hdue : w.elector.phase.due? = some wake := by
        rw [hleading]
        rfl
      apply Nat.le_antisymm (h.due wake hdue)
      cases hlearns with
      | @due time' hdue' hle =>
        rw [hdue] at hdue'
        rwa [Option.some.inj hdue']
    refine ⟨time, ?_, ?_⟩
    · rw [← hyes]
      exact lastYes?_concat_none (by simp [Turn.yes?])
    · rw [hdeadline, Elector.deadline, hnow, hwake, h.same]
  · intro s deadline hphase
    obtain ⟨rfl, -, hdeadline, -⟩ := hreacts.of_releasing hphase
    cases hlearns with
    | stop hasked => exact ⟨w.now, h.asked hasked, by rw [hdeadline, Elector.deadline, h.same]⟩
  · intro hasked
    cases hlearns.goes with
    | on hgoes => exact h.asked hasked
    | stop hbefore => simp [Career.meet] at hasked
    | abandon hdropped => simp [Career.meet] at hasked
  · intro time htime
    cases hlearns.goes with
    | on hgoes => exact h.wanted time htime
    | stop hasked => exact Or.inr rfl
    | abandon hdropped =>
      rcases h.wanted time htime with hstanding | hstanding
      · simp [hdropped] at hstanding
      · simp [hdropped] at hstanding

theorem IsTimely.of_change (h : w.IsTimely config) (hw : w.IsSound) {happening : Happening}
    (hpass : ∀ millis, happening = .pass millis → w.canPass millis = true)
    (hchange : w.Change happening w') : w'.IsTimely config := by
  cases hchange with
  | stay => exact h
  | @pass millis heq =>
    have hcan := hpass millis heq
    rw [canPass, Bool.and_eq_true, Bool.and_eq_true] at hcan
    obtain ⟨⟨hasked, -⟩, hdue⟩ := hcan
    refine ⟨h.same, ?_, h.leading, h.checking, h.releasing, ?_, h.wanted⟩
    · intro time htime
      exact of_decide_eq_true ((Option.all_eq_true _ _).1 hdue time htime)
    · intro hstanding
      exact absurd hstanding (of_decide_eq_true hasked)
  | meet hlearns => exact h.meet hw hlearns
  | ask hrunning =>
    refine ⟨h.same, h.due, h.leading, h.checking, ?_, fun _ => rfl, fun _ _ => Or.inl rfl⟩
    -- nobody gives a lock back before it was asked to stop
    intro s deadline hphase
    have hending := hw.fits.competes (by rw [hrunning]; rfl)
    rw [show w.elector.phase = .releasing s deadline from hphase] at hending
    simp [Phase.isEnding] at hending
  | drop hrunning =>
    refine ⟨h.same, h.due, h.leading, h.checking, h.releasing, fun hasked => ?_, ?_⟩
    · simp at hasked
    · intro time htime
      rcases h.wanted time htime with hstanding | hstanding
      · simp [hrunning] at hstanding
      · simp [hrunning] at hstanding

/-- A punctual run keeps the deadlines. -/
theorem isTimely_run (h : w.IsTimely config) (hw : w.IsSound) {happenings : List Happening}
    (hpunctual : w.isPunctual happenings = true) :
    (w.run happenings).IsTimely config ∧ (w.run happenings).IsSound := by
  induction happenings generalizing w with
  | nil => exact ⟨h, hw⟩
  | cons happening rest ih =>
    obtain ⟨hpass, hrest⟩ := isPunctual_cons hpunctual
    have hchange := change_step w happening
    exact ih (h.of_change hw hpass hchange) (hw.of_change hchange) hrest

/-! ## Bounds -/

/-- A leader on a punctual clock has heard a yes not longer ago than a check and its timeout take,
on the session that it has; and one that was asked to stop leads no longer than the release may
take. -/
theorem leader_fresh (config : ElectionConfig) (key : LockKey) (start : Nat)
    (happenings : List Happening)
    (hpunctual : (begin config key start).isPunctual happenings = true) :
    let w := (begin config key start).run happenings
    (w.standing = .running ∨ w.standing = .dropped → w.elector.isLeader = true →
        ∃ s time, w.elector.phase.session? = some s ∧ lastYes? w.turns = some (s, time) ∧
          w.now ≤ time + (config.checkInterval.toMillisUp + config.checkTimeout.toMillisUp)) ∧
      (∀ time, w.askedAt = some time → w.elector.isLeader = true →
        w.now ≤ time + config.checkTimeout.toMillisUp) := by
  intro w
  obtain ⟨htimely, hsound⟩ : w.IsTimely config ∧ w.IsSound :=
    isTimely_run (isTimely_begin config key start) (isSound_begin config key start) hpunctual
  refine ⟨?_, ?_⟩
  · intro hstanding hleader
    have hcompetes : w.standing.competes = true := by
      rcases hstanding with hstanding | hstanding
      · rw [hstanding]
        rfl
      · rw [hstanding]
        rfl
    obtain ⟨s, hs⟩ := hsound.fits.plain.isFrank hleader (hsound.fits.competes hcompetes)
    have hsession := Phase.session?_of_leads? hs
    cases hphase : w.elector.phase with
    | leading s' wake =>
      obtain ⟨time, hyes, hwake⟩ := htimely.leading s' wake hphase
      have hnow : w.now ≤ wake := htimely.due wake (by rw [hphase]; rfl)
      exact ⟨s', time, rfl, hyes, by omega⟩
    | checking s' deadline =>
      obtain ⟨time, hyes, hdeadline⟩ := htimely.checking s' deadline hphase
      have hnow : w.now ≤ deadline := htimely.due deadline (by rw [hphase]; rfl)
      exact ⟨s', time, rfl, hyes, by omega⟩
    | _ => simp [hphase, Phase.leads?] at hs
  · intro time hasked hleader
    rcases htimely.wanted time hasked with hstanding | hstanding
    · have hnow : w.now = time := Option.some.inj ((htimely.asked hstanding).symm.trans hasked)
      omega
    · rcases hsound.fits.stopping hstanding with ⟨s, deadline, hphase⟩ | ⟨-, hrole⟩
      · obtain ⟨time', hasked', hdeadline⟩ := htimely.releasing s deadline hphase
        obtain rfl : time = time' := Option.some.inj (hasked.symm.trans hasked')
        have hnow : w.now ≤ deadline := htimely.due deadline (by rw [hphase]; rfl)
        omega
      · rw [Elector.isLeader, hrole] at hleader
        simp at hleader

/-- Times of an election that are whole milliseconds. -/
def brisk : ElectionConfig := ⟨"scheduler", .ofMillis 1500, .ofMillis 700, .ofMillis 250⟩

/-- A leader hears nothing of its check until the last moment. -/
def longCheck : List Happening :=
  [.hear (.opened 1), .hear (.said true), .pass 1500, .due, .pass 250]

/-- A leader that was asked to stop hears nothing of the release until the last moment. -/
def longRelease : List Happening :=
  [.hear (.opened 1), .hear (.said true), .pass 400, .ask, .notice, .pass 250]

/-- Both bounds are met exactly. -/
theorem leader_fresh_brisk :
    let checked := (begin brisk (.ofName "scheduler") 0).run longCheck
    let released := (begin brisk (.ofName "scheduler") 0).run longRelease
    (checked.now = 1750 ∧ ∃ s time, checked.elector.phase.session? = some s ∧
        lastYes? checked.turns = some (s, time) ∧ checked.now ≤ time + (1500 + 250)) ∧
      released.now = 650 ∧ released.now ≤ 400 + 250 := by
  intro checked released
  obtain ⟨hfresh, -⟩ := leader_fresh brisk (.ofName "scheduler") 0 longCheck (by decide +kernel)
  obtain ⟨-, hbrief⟩ := leader_fresh brisk (.ofName "scheduler") 0 longRelease (by decide +kernel)
  have hrunning : checked.standing = .running := by decide +kernel
  obtain ⟨s, time, hs, hyes, hnow⟩ := hfresh (Or.inl hrunning) (by decide +kernel)
  have hreleased := hbrief 400 (by decide +kernel) (by decide +kernel)
  simp only [brisk, Duration.toMillisUp_ofMillis] at hnow hreleased
  exact ⟨⟨by decide +kernel, s, time, hs, hyes, hnow⟩, by decide +kernel, hreleased⟩

/-! ## Parts of milliseconds -/

/-- The bounds for the times as they are, to the nanosecond. -/
structure IsBounded (w : Career) : Prop where
  fresh : w.standing = .running ∨ w.standing = .dropped → w.elector.isLeader = true →
    ∃ s time, w.elector.phase.session? = some s ∧ lastYes? w.turns = some (s, time) ∧
      w.now * 1000000 ≤ time * 1000000 +
        (w.elector.config.checkInterval.inNanos + w.elector.config.checkTimeout.inNanos)
  brief : ∀ time, w.askedAt = some time → w.elector.isLeader = true →
    w.now * 1000000 ≤ time * 1000000 + w.elector.config.checkTimeout.inNanos

/-- Times of an election that are half a millisecond. -/
def sliver : ElectionConfig := ⟨"scheduler", ⟨0, 500000⟩, .ofMillis 700, ⟨0, 500000⟩⟩

/-- A leader waits for its check and then for the answer, each to the end of a millisecond: it
leads two milliseconds after its last yes.  One that was asked to stop waits for the release as
long, and leads one millisecond after it was asked. -/
theorem not_isBounded_sliver :
    let start := begin sliver (.ofName "scheduler") 0
    let long := [.hear (.opened 1), .hear (.said true), .pass 1, .due, .pass 1]
    let stopped := [.hear (.opened 1), .hear (.said true), .ask, .notice, .pass 1]
    sliver.validate = .ok () ∧
      start.isPunctual long = true ∧ (start.run long).now = 2 ∧
      lastYes? (start.run long).turns = some (1, 0) ∧ ¬ (start.run long).IsBounded ∧
      start.isPunctual stopped = true ∧ (start.run stopped).now = 1 ∧
      (start.run stopped).askedAt = some 0 ∧ ¬ (start.run stopped).IsBounded := by
  intro start long stopped
  have hyes : lastYes? (start.run long).turns = some (1, 0) := by decide +kernel
  have hasked : (start.run stopped).askedAt = some 0 := by decide +kernel
  refine ⟨rfl, by decide +kernel, by decide +kernel, hyes, fun h => ?_,
    by decide +kernel, by decide +kernel, hasked, fun h => ?_⟩
  · obtain ⟨s, time, -, htime, hnow⟩ := h.fresh (Or.inl (by decide +kernel)) (by decide +kernel)
    obtain ⟨rfl, rfl⟩ := Prod.mk.inj (Option.some.inj (hyes.symm.trans htime))
    exact absurd hnow (by decide +kernel)
  · exact absurd (h.brief 0 hasked (by decide +kernel)) (by decide +kernel)

end Career

end DocStore.Election

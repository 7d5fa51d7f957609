import Mathlib.Data.List.Chain
import DocStore.Proofs.Election.Career

/-!
# Callbacks

What the owner of an elector is told.  `Career.IsCandid` is the invariant of the
reports: each turn makes the reports that its outcome calls for, none of them is a
surprise to who looks at the role, and the last one says whether the elector leads.
`Career.StopsWith` follows the reports from the turn that stops the elector on.

`callbacks` puts the two together for any run.
-/

namespace DocStore.Election

theorem effectsOf_append (first second : List Turn) :
    effectsOf (first ++ second) = effectsOf first ++ effectsOf second :=
  List.flatMap_append

theorem reportsOf_append (first second : List Turn) :
    reportsOf (first ++ second) = reportsOf first ++ reportsOf second :=
  List.flatMap_append

theorem effectsOf_singleton (turn : Turn) : effectsOf [turn] = turn.effects :=
  List.flatMap_singleton ..

theorem reportsOf_singleton (turn : Turn) : reportsOf [turn] = turn.reports :=
  List.flatMap_singleton ..

/-- Two reports that the elector leads do not follow each other. -/
def Alternate (reports : List Bool) : Prop :=
  reports.IsChain fun first second => ¬ (first = true ∧ second = true)

/-- One more report, if it is no second yes. -/
theorem Alternate.concat {reports : List Bool} (h : Alternate reports) {leads : Bool}
    (hleads : leads = true → reports.getLast?.getD false = false) :
    Alternate (reports ++ [leads]) := by
  refine List.isChain_append.2 ⟨h, List.isChain_singleton _, ?_⟩
  rintro first hfirst second hsecond ⟨rfl, rfl⟩
  obtain rfl : leads = true := Option.some.inj hsecond
  rw [Option.mem_def.1 hfirst] at hleads
  exact absurd (hleads rfl) (by decide)

namespace Career

variable {w w' : Career} {standing : Standing} {event : Event}

/-! ## The reports of a run -/

/-- The reports of a career are what they should be. -/
structure IsCandid (w : Career) : Prop where
  shown : shownRole w.turns = w.elector.role
  agree : Agree .follower (effectsOf w.turns)
  turns : ∀ turn ∈ w.turns, turn.reports = (turn.outcome?.map Outcome.leads).toList
  last : w.elector.isLeader = (reportsOf w.turns).getLast?.getD false
  alternate : Alternate (reportsOf w.turns)

theorem isCandid_begin (config : ElectionConfig) (key : LockKey) (now : Nat) :
    (begin config key now).IsCandid where
  shown := rfl
  agree := by simp [begin, effectsOf, Elector.start, Elector.attempt, Elector.event, Agree]
  turns := by
    intro turn hturn
    rw [List.mem_singleton.1 hturn]
    rfl
  last := rfl
  alternate := List.isChain_nil

/-- One more turn. -/
theorem IsCandid.meet (h : w.IsCandid) (hw : w.IsSound) (hlearns : w.Learns standing event) :
    (w.meet standing event).IsCandid := by
  have hcandid := (hlearns.reacts hw).isCandid hw.fits.plain
  have houtcome := hcandid.reports
  have hleader := hcandid.leader
  refine ⟨?_, ?_, ?_, ?_, ?_⟩
  · rw [shownRole, Career.meet, effectsOf_append, effectsOf_singleton, after_append, ← shownRole,
      h.shown]
    exact hcandid.after
  · rw [Career.meet, effectsOf_append, effectsOf_singleton, agree_append, ← shownRole, h.shown]
    exact ⟨h.agree, hcandid.agree⟩
  · intro turn hturn
    rcases List.mem_append.1 hturn with hold | hnew
    · exact h.turns turn hold
    · rw [List.mem_singleton.1 hnew, Turn.reports, Turn.outcome?, Option.bind_some, hw.pending]
      exact houtcome
  · rw [Career.meet, reportsOf_append, reportsOf_singleton, Turn.reports, houtcome]
    cases ho : outcome? w.elector.phase.call? event with
    | none =>
      rw [ho] at hleader
      rw [hleader, h.last]
      simp
    | some o =>
      rw [ho] at hleader
      rw [hleader]
      simp
  · rw [Career.meet, reportsOf_append, reportsOf_singleton, Turn.reports, houtcome]
    cases ho : outcome? w.elector.phase.call? event with
    | none => simpa using h.alternate
    | some o =>
      apply h.alternate.concat
      intro hleads
      rw [← h.last]
      exact hw.fits.plain.isLeader_of_leads ho hleads

theorem IsCandid.of_change (h : w.IsCandid) (hw : w.IsSound) {happening : Happening}
    (hchange : w.Change happening w') : w'.IsCandid := by
  cases hchange with
  | meet hlearns => exact h.meet hw hlearns
  | _ => exact ⟨h.shown, h.agree, h.turns, h.last, h.alternate⟩

/-! ## The reports of a stop -/

/-- The turn at which the elector noticed that it has to stop, and what it reported from then
on. -/
structure StopsWith (w : Career) (before : List Turn) (turn : Turn) (later : List Turn) :
    Prop where
  turns : w.turns = before ++ turn :: later
  event : turn.event = some .stop
  /-- Only a leader has something left to do. -/
  led : w.elector.phase ≠ .finished → shownRole before = .leader
  reports : reportsOf (turn :: later) =
    if shownRole before = .leader ∧ w.elector.phase = .finished then [false] else []

/-- The stop is noticed. -/
theorem IsCandid.stopsWith (h : w.IsCandid) (hw : w.IsSound) (hlearns : w.Learns .stopping .stop) :
    ∃ turn, (w.meet .stopping .stop).StopsWith w.turns turn [] := by
  have hreacts := hlearns.reacts hw
  have hreports := (hreacts.isCandid hw.fits.plain).reports
  rw [outcome?_of_isEnd _ (Or.inl rfl)] at hreports
  refine ⟨_, rfl, rfl, ?_, ?_⟩
  · intro hphase
    rw [h.shown]
    rcases hreacts.stops with ⟨s, hleads, -, -⟩ | heq
    · exact of_decide_eq_true (hw.fits.plain.isLeader_of_holds? (Phase.holds?_of_leads? hleads))
    · exact absurd (congrArg (fun r => r.elector.phase) heq) hphase
  · rw [reportsOf_singleton, Turn.reports, hreports, h.shown, if_neg]
    · rfl
    · rintro ⟨hrole, hphase⟩
      rcases hreacts.stops with ⟨s, -, hreleasing, -⟩ | heq
      · exact absurd (hreleasing.symm.trans hphase) (by simp)
      · -- who led would have reported at once
        have hfinish := (Elector.announces_finish w.elector []).reports
        have hleader : w.elector.isLeader = true := decide_eq_true hrole
        rw [List.map_nil, ← heq, hreports, hleader, if_pos rfl] at hfinish
        simp at hfinish

/-- A leader that gives its lock back finishes, and reports it. -/
theorem StopsWith.finish {before later : List Turn} {turn : Turn}
    (h : w.StopsWith before turn later) (hw : w.IsSound) (hlearns : w.Learns standing event)
    (hgoes : ¬ (event = .stop ∨ event = .abandon)) {s : SessionId} {deadline : Nat}
    (hphase : w.elector.phase = .releasing s deadline) :
    ∃ last, (w.meet standing event).StopsWith before turn (later ++ [last]) := by
  have hleader : w.elector.isLeader = true :=
    hw.fits.plain.isLeader_of_holds? (s := s) (by rw [hphase]; rfl)
  have hled : shownRole before = .leader := h.led (by simp [hphase])
  obtain ⟨logs, heq⟩ := (hlearns.reacts hw).finishes hphase hgoes
  have hreports := (Elector.announces_finish w.elector logs).reports
  rw [hleader, if_pos rfl, ← heq] at hreports
  have hfinished : (w.meet standing event).elector.phase = .finished := by
    show (w.elector.step w.now event).elector.phase = .finished
    rw [heq]
    rfl
  have hbefore : reportsOf (turn :: later) = [] := by
    rw [h.reports, if_neg]
    rintro ⟨-, hphase'⟩
    exact absurd (hphase.symm.trans hphase') (by simp)
  refine ⟨⟨w.now, w.pending, some event, (w.elector.step w.now event).effects,
    (w.elector.step w.now event).call⟩, ?_, h.event, fun _ => hled, ?_⟩
  · rw [Career.meet, h.turns, List.append_assoc]
    rfl
  · rw [← List.cons_append, reportsOf_append, hbefore, reportsOf_singleton, Turn.reports,
      hreports, if_pos ⟨hled, hfinished⟩]
    rfl

/-- What holds of a career and of what it reports. -/
structure IsFaithful (w : Career) : Prop where
  sound : w.IsSound
  candid : w.IsCandid
  stops : w.standing = .stopping → ∃ before turn later, w.StopsWith before turn later

theorem IsFaithful.of_change (h : w.IsFaithful) {happening : Happening}
    (hchange : w.Change happening w') : w'.IsFaithful := by
  refine ⟨h.sound.of_change hchange, h.candid.of_change h.sound hchange, ?_⟩
  intro hstopping
  cases hchange with
  | stay => exact h.stops hstopping
  | pass hpass =>
    obtain ⟨before, turn, later, hstops⟩ := h.stops hstopping
    exact ⟨before, turn, later, hstops.turns, hstops.event, hstops.led, hstops.reports⟩
  | meet hlearns =>
    cases hlearns.goes with
    | on hgoes =>
      obtain ⟨before, turn, later, hstops⟩ := h.stops hstopping
      rcases h.sound.fits.stopping hstopping with ⟨s, deadline, hphase⟩ | ⟨hphase, -⟩
      · obtain ⟨last, hlast⟩ := hstops.finish h.sound hlearns hgoes hphase
        exact ⟨before, turn, later ++ [last], hlast⟩
      · exact absurd hphase
          ((hlearns.expects h.sound).phase_ne_finished fun heq => hgoes (Or.inr heq))
    | stop hasked =>
      obtain ⟨turn, hturn⟩ := h.candid.stopsWith h.sound hlearns
      exact ⟨w.turns, turn, [], hturn⟩
    | abandon hdropped => simp [Career.meet] at hstopping
  | ask hrunning => simp at hstopping
  | drop hrunning => simp at hstopping

theorem isFaithful_run (config : ElectionConfig) (key : LockKey) (start : Nat)
    (happenings : List Happening) : ((begin config key start).run happenings).IsFaithful :=
  run_induction
    ⟨isSound_begin config key start, isCandid_begin config key start,
      fun h => by simp [begin] at h⟩
    (fun h hchange => h.of_change hchange) happenings

/-- What an elector reports in any run.  The role that goes with a report is published already;
each turn reports its outcome, once, and nothing else; no two reports in a row say that it leads;
and one that has noticed a stop reports only what remains of its leadership, so that in the end
it follows and has said so. -/
theorem callbacks (config : ElectionConfig) (key : LockKey) (start : Nat)
    (happenings : List Happening) :
    let w := (begin config key start).run happenings
    (∀ before leads later, effectsOf w.turns = before ++ .report leads :: later →
        Role.follower.after before = .ofReport leads) ∧
      (∀ turn ∈ w.turns, turn.reports = (turn.outcome?.map Outcome.leads).toList) ∧
      (reportsOf w.turns).IsChain (fun first second => ¬ (first = true ∧ second = true)) ∧
      (w.standing = .stopping → ∃ before turn later, w.turns = before ++ turn :: later ∧
        turn.event = some .stop ∧ reportsOf (turn :: later) =
          if shownRole before = .leader ∧ w.elector.phase = .finished then [false] else []) ∧
      (w.standing = .stopping → w.elector.phase = .finished →
        w.elector.role = .follower ∧ shownRole w.turns = .follower ∧
          (true ∈ reportsOf w.turns → (reportsOf w.turns).getLast? = some false)) := by
  intro w
  have hw : w.IsFaithful := isFaithful_run config key start happenings
  refine ⟨?_, hw.candid.turns, hw.candid.alternate, ?_, ?_⟩
  · intro before leads later heffects
    have hagree := hw.candid.agree
    rw [heffects] at hagree
    exact hagree.after_eq
  · intro hstopping
    obtain ⟨before, turn, later, hstops⟩ := hw.stops hstopping
    exact ⟨before, turn, later, hstops.turns, hstops.event, hstops.reports⟩
  · intro hstopping hfinished
    have hfollower : w.elector.role = .follower := by
      rcases hw.sound.fits.stopping hstopping with ⟨s, deadline, hphase⟩ | ⟨-, hrole⟩
      · exact absurd (hphase.symm.trans hfinished) (by simp)
      · exact hrole
    refine ⟨hfollower, by rw [hw.candid.shown, hfollower], ?_⟩
    intro hled
    have hlast := hw.candid.last
    rw [Elector.isLeader, hfollower] at hlast
    cases hreports : (reportsOf w.turns).getLast? with
    | none =>
      rw [List.getLast?_eq_none_iff.1 hreports] at hled
      simp at hled
    | some leads =>
      rw [hreports] at hlast
      exact congrArg some hlast.symm

/-- An elector is refused once, leads, loses its lock, leads again, and is stopped while the
release hangs. -/
def comeback : List Happening :=
  [.hear (.opened 1), .hear (.said false), .pass 60000, .due, .hear (.said true), .pass 60000,
    .due, .hear (.said false), .pass 60000, .due, .hear (.opened 2), .hear (.said true), .ask,
    .notice, .pass 5000, .due]

theorem callbacks_comeback :
    let w := (begin .default (.ofName "bastion_leader") 0).run comeback
    reportsOf w.turns = [false, true, false, true, false] ∧
      Role.follower.after ((effectsOf w.turns).take 8) = .leader ∧
      (∃ turn ∈ w.turns, turn.outcome? = some .loss ∧ turn.reports = [false]) ∧
      (∃ before turn later, w.turns = before ++ turn :: later ∧ turn.event = some .stop ∧
        reportsOf (turn :: later) =
          if shownRole before = .leader ∧ w.elector.phase = .finished then [false] else []) ∧
      w.elector.role = .follower ∧ (reportsOf w.turns).getLast? = some false := by
  intro w
  have hreports : reportsOf w.turns = [false, true, false, true, false] := by decide +kernel
  have hsplit : effectsOf w.turns =
      (effectsOf w.turns).take 8 ++ .report true :: (effectsOf w.turns).drop 9 := by
    decide +kernel
  have hloss : w.turns.any (fun turn => turn.outcome? = some .loss) = true := by decide +kernel
  have hstopping : w.standing = .stopping := by decide +kernel
  have hfinished : w.elector.phase = .finished := by decide +kernel
  obtain ⟨hagree, hturns, -, hstops, hend⟩ :=
    callbacks .default (.ofName "bastion_leader") 0 comeback
  obtain ⟨turn, hturn, hlost⟩ := List.any_eq_true.1 hloss
  have hlost' : turn.outcome? = some .loss := of_decide_eq_true hlost
  obtain ⟨hfollower, -, hlast⟩ := hend hstopping hfinished
  refine ⟨hreports, hagree _ true _ hsplit, ⟨turn, hturn, hlost', ?_⟩, hstops hstopping, hfollower,
    hlast ?_⟩
  · rw [hturns turn hturn, hlost']
    rfl
  · rw [hreports]
    decide

end Career

end DocStore.Election

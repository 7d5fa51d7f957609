import DocStore.Proofs.Election.Conduct
import DocStore.Proofs.Election.Leadership

/-!
# Custody

No lock is left behind.  There are two groups.

* Who has a lock.  A contender that holds one (`Contender.Holds`) goes on to hold it or
  ends the session that has it (`Holds.step`), and nobody else is given a lock.  So every
  owner in the table is the session of a contender that holds the lock, or a stranger
  (`Contest.IsKept`).
* Whose a session is.  A session is opened for one contender and for no other
  (`Contest.IsBooked`).

`no_orphan` reads both off: what a contender's phase and standing are while it owns a
lock, and that one which rests or is gone owns nothing with any session it ever had.
-/

namespace DocStore.Election

/-! ## Contenders that hold a lock -/

namespace Contender

/-- It leads with the session or gives its lock back, or the service has just given the session
the lock. -/
def Holds (c : Contender) (s : SessionId) : Prop :=
  c.elector.phase.holds? = some s ∨ c.pending = some ⟨.tryLock s, some (.said true)⟩

variable {c : Contender} {s : SessionId} {now : Nat} {standing : Standing} {event : Event}

/-- A lock is held with the session that the contender has. -/
theorem session?_of_holds (hc : c.IsSound) (h : c.Holds s) :
    c.elector.phase.session? = some s := by
  rcases h with h | h
  · exact Phase.session?_of_holds? h
  · exact Phase.session?_of_call? (call?_of_pending hc h)

/-- A lock is held on to, or the session that has it ends. -/
theorem Holds.step (h : c.Holds s) (hc : c.IsSound) (hlearns : c.Learns now standing event) :
    (c.elector.step now event).elector.phase.holds? = some s ∨
      .endSession s ∈ (c.elector.step now event).effects := by
  have hreacts := Elector.reacts_step now (hlearns.expects hc)
  rcases h with h | h
  · exact hreacts.holds_or_ends h
  · have hyes : event ≠ .answered (.said false) := by
      rintro rfl
      cases hlearns with
      | answer hpending => simp [h] at hpending
    exact (hreacts.leads_or_ends (call?_of_pending hc h) hyes).imp_left Phase.holds?_of_leads?

/-- How it stands with its owner when it learns of something. -/
theorem Learns.goes (h : c.Learns now standing event) :
    Elector.Goes c.standing event standing := by
  cases h with
  | answer hpending => exact .on (by simp)
  | failure hpending cause => exact .on (by simp)
  | due hdue hle => exact .on (by simp)
  | stop hasked => exact .stop hasked
  | abandon hdropped => exact .abandon hdropped

/-- A contender that holds a lock leads or is about to learn that it does, or it gives its lock
back. -/
theorem Holds.cases (h : c.Holds s) (hc : c.IsSound) (hfits : c.elector.Fits c.standing) :
    (c.standing.competes = true ∧ c.elector.role = .leader) ∨
      (c.standing.competes = true ∧ c.elector.role = .candidate ∧
        c.pending.map Pending.call = some (.tryLock s)) ∨
      (c.standing = .stopping ∧ c.elector.phase ≠ .finished) := by
  have hphase : c.elector.phase ≠ .finished := by
    intro hfinished
    have hsession := session?_of_holds hc h
    simp [hfinished, Phase.session?] at hsession
  by_cases hcompetes : c.standing.competes = true
  · rcases h with h | h
    · exact Or.inl ⟨hcompetes, of_decide_eq_true (hfits.plain.isLeader_of_holds? h)⟩
    · obtain ⟨deadline, htrying⟩ := Phase.eq_trying (call?_of_pending hc h)
      refine Or.inr (Or.inl ⟨hcompetes, hfits.plain .candidate ?_, ?_⟩)
      · rw [htrying]
        rfl
      · rw [h]
        rfl
  · refine Or.inr (Or.inr ⟨?_, hphase⟩)
    cases hstanding : c.standing with
    | stopping => rfl
    | gone => exact absurd (hfits.gone hstanding) hphase
    | running => exact absurd (by rw [hstanding]; rfl) hcompetes
    | asked => exact absurd (by rw [hstanding]; rfl) hcompetes
    | dropped => exact absurd (by rw [hstanding]; rfl) hcompetes

/-- Who rests or has finished holds nothing. -/
theorem not_holds (hc : c.IsSound)
    (h : (∃ session wake, c.elector.phase = .resting session wake) ∨
      c.elector.phase = .finished) : ¬ c.Holds s := by
  rintro (hs | hs)
  · rcases h with ⟨session, wake, h⟩ | h
    · simp [h, Phase.holds?] at hs
    · simp [h, Phase.holds?] at hs
  · have hcall := call?_of_pending hc hs
    rcases h with ⟨session, wake, h⟩ | h
    · simp [h, Phase.call?] at hcall
    · simp [h, Phase.call?] at hcall

end Contender

namespace Contest

variable {w w' : Contest} {key : LockKey} {s : SessionId} {strangers : Prop}

/-- A contender is the one that was put in, or another one that was there before. -/
theorem of_contender?_put {id i : Nat} {c d : Contender}
    (h : (w.put id c).contender? i = some d) :
    i = id ∧ c = d ∨ i ≠ id ∧ w.contender? i = some d := by
  by_cases hi : i = id
  · subst hi
    exact Or.inl ⟨rfl, Option.some.inj ((contender?_put_self w i c).symm.trans h)⟩
  · exact Or.inr ⟨hi, (contender?_put_ne w hi c).symm.trans h⟩

/-- What holds of all contenders holds of them when one has changed. -/
theorem forall_put {P : Contender → Prop} (h : ∀ i d, w.contender? i = some d → P d) {id : Nat}
    {c : Contender} (hc : P c) : ∀ i d, (w.put id c).contender? i = some d → P d := by
  intro i d hd
  rcases of_contender?_put hd with ⟨-, rfl⟩ | ⟨-, hold⟩
  · exact hc
  · exact h i d hold

/-! ## Who has a lock -/

/-- A contender holds the lock with the session. -/
def Keeps (w : Contest) (key : LockKey) (s : SessionId) : Prop :=
  ∃ id c, w.contender? id = some c ∧ c.elector.key = key ∧ c.Holds s

/-- Every owner of a lock is the session of a contender that holds it, or a stranger if there are
any. -/
structure IsKept (strangers : Prop) (w : Contest) : Prop where
  fits : ∀ id c, w.contender? id = some c → c.elector.Fits c.standing
  kept : ∀ key s, (key, s) ∈ w.table.owners →
    w.Keeps key s ∨ s = Rehearsal.thief ∧ strangers

/-- One contender changes and still holds what it held. -/
theorem Keeps.put (h : w.Keeps key s) {id : Nat} {c : Contender}
    (hself : ∀ d, w.contender? id = some d → d.elector.key = key → d.Holds s →
      c.elector.key = key ∧ c.Holds s) : (w.put id c).Keeps key s := by
  obtain ⟨i, d, hd, hkey, hs⟩ := h
  by_cases hi : i = id
  · subst hi
    exact ⟨i, c, contender?_put_self w i c, hself d hd hkey hs⟩
  · exact ⟨i, d, (contender?_put_ne w hi c).trans hd, hkey, hs⟩

/-- Carrying out a reaction, after which the contender holds what it held or has ended its
session. -/
theorem IsKept.react (h : w.IsKept strangers) {id : Nat} {standing : Standing} {cause : Mark}
    {r : Reaction} (hfits : r.elector.Fits standing)
    (hself : ∀ d key s, w.contender? id = some d → d.elector.key = key → d.Holds s →
      r.elector.key = key ∧ (r.elector.phase.holds? = some s ∨ .endSession s ∈ r.effects)) :
    (w.react id standing cause r).IsKept strangers := by
  refine ⟨forall_put h.fits hfits, ?_⟩
  intro key s hmem
  obtain ⟨hold, hends⟩ := LockTable.mem_owners_foldl_undergo hmem
  refine (h.kept key s hold).imp_left fun hkeeps => ?_
  refine Keeps.put hkeeps fun d hd hkey hs => ?_
  obtain ⟨hkey', hholds | hend⟩ := hself d key s hd hkey hs
  · exact ⟨hkey', Or.inl hholds⟩
  · exact absurd hend hends

/-- The service carries out a call. -/
theorem IsKept.serve (h : w.IsKept strangers) {id : Nat} {c : Contender} {call : LockCall}
    (hid : w.contender? id = some c) (hpending : c.pending = some ⟨call, none⟩) :
    (w.serve id c call).IsKept strangers := by
  refine ⟨forall_put h.fits (h.fits id c hid), ?_⟩
  intro key s hmem
  rcases LockTable.mem_owners_serve hmem with hold | ⟨rfl, rfl, hyes⟩
  · refine (h.kept key s hold).imp_left fun hkeeps => ?_
    refine Keeps.put hkeeps fun d hd hkey hs => ?_
    obtain rfl : c = d := Option.some.inj (hid.symm.trans hd)
    refine ⟨hkey, hs.imp_right fun hanswered => ?_⟩
    simp [hpending] at hanswered
  · exact Or.inl ⟨id, _, contender?_put_self w id _, rfl,
      Or.inr (congrArg (fun answer => some (Pending.mk (.tryLock s) (some answer))) hyes)⟩

theorem IsKept.of_change (h : w.IsKept strangers) (hw : w.IsSound) {move : Move}
    (hchange : w.Change move w') (hmove : move.isOutside = true → strangers) :
    w'.IsKept strangers := by
  cases hchange with
  | stay => exact h
  | @start id config key hfree hkey =>
    refine h.react (Elector.fits_start config key w.now) fun d key' s hd => ?_
    rw [hfree] at hd
    exact absurd hd.symm (Option.some_ne_none d)
  | @tell id c standing event hid hlearns =>
    have hc := hw.contender id c hid
    have hexpects := hlearns.expects hc
    refine h.react ((h.fits id c hid).step w.now hexpects hlearns.goes) ?_
    rintro d _ s hd rfl hs
    obtain rfl : c = d := Option.some.inj (hid.symm.trans hd)
    exact ⟨(Elector.follows_step w.now hc.frank hexpects).key, hs.step hc hlearns⟩
  | serve hid hpending => exact h.serve hid hpending
  | @restand id c standing mark hid hrunning hmark hcompetes =>
    have hbefore : c.standing.competes = true := by
      rw [hrunning]
      rfl
    refine ⟨forall_put h.fits ((h.fits id c hid).want hbefore hcompetes), fun key s hmem => ?_⟩
    refine (h.kept key s hmem).imp_left fun hkeeps => Keeps.put hkeeps fun d hd hkey hs => ?_
    obtain rfl : c = d := Option.some.inj (hid.symm.trans hd)
    exact ⟨hkey, hs⟩
  | advance millis => exact ⟨h.fits, h.kept⟩
  | @interfere key' table houtside htable =>
    refine ⟨h.fits, fun key s hmem => ?_⟩
    rcases htable with rfl | rfl
    · exact h.kept key s (LockTable.mem_owners_sever hmem)
    · rcases LockTable.mem_owners_steal hmem with hold | hthief
      · exact h.kept key s hold
      · exact Or.inr ⟨hthief, hmove houtside⟩

/-! ## Whose a session is -/

/-- The service has opened the session for the contender. -/
def HasOpened (w : Contest) (id : Nat) (s : SessionId) : Prop :=
  ∃ entry ∈ w.history, entry.mark = .served id .connect (.opened s)

/-- A session belongs to the contender that it was opened for, and none is a stranger's. -/
structure IsBooked (w : Contest) : Prop where
  opened : ∀ id s, w.HasOpened id s → Rehearsal.thief < s ∧ s ≤ w.table.opened
  apart : ∀ id id' s, w.HasOpened id s → w.HasOpened id' s → id = id'
  session : ∀ id s, w.session? id = some s → w.HasOpened id s

theorem HasOpened.mono {id : Nat} (h : w.HasOpened id s) {more : List Entry}
    (hhistory : w'.history = w.history ++ more) : w'.HasOpened id s := by
  obtain ⟨entry, hentry, hmark⟩ := h
  refine ⟨entry, ?_, hmark⟩
  rw [hhistory]
  exact List.mem_append_left more hentry

/-- The sessions opened by a move are for one contender, and they are new. -/
theorem IsBooked.extend (h : w.IsBooked) (id : Nat) {more : List Entry}
    (hhistory : w'.history = w.history ++ more) (hopened : w.table.opened ≤ w'.table.opened)
    (hmore : ∀ entry ∈ more, ∀ i s, entry.mark = .served i .connect (.opened s) →
      i = id ∧ w.table.opened < s ∧ s ≤ w'.table.opened)
    (hsession : ∀ i s, w'.session? i = some s → w.session? i = some s ∨ w'.HasOpened i s) :
    w'.IsBooked := by
  -- a session on record was there before, or it is new
  have hcases : ∀ {i s}, w'.HasOpened i s →
      w.HasOpened i s ∨ i = id ∧ w.table.opened < s ∧ s ≤ w'.table.opened := by
    rintro i s ⟨entry, hentry, hmark⟩
    rw [hhistory] at hentry
    rcases List.mem_append.1 hentry with hold | hnew
    · exact Or.inl ⟨entry, hold, hmark⟩
    · exact Or.inr (hmore entry hnew i s hmark)
  refine ⟨?_, ?_, ?_⟩
  · intro i s hs
    rcases hcases hs with hold | ⟨-, hlt, hle⟩
    · exact ⟨(h.opened i s hold).1, Nat.le_trans (h.opened i s hold).2 hopened⟩
    · exact ⟨Nat.lt_of_le_of_lt (Nat.zero_le _) hlt, hle⟩
  · intro i j s hi hj
    rcases hcases hi with hi | ⟨hi, hlt, -⟩
    · rcases hcases hj with hj | ⟨-, hlt, -⟩
      · exact h.apart i j s hi hj
      · exact absurd hlt (Nat.not_lt.2 (h.opened i s hi).2)
    · rcases hcases hj with hj | ⟨hj, -, -⟩
      · exact absurd hlt (Nat.not_lt.2 (h.opened j s hj).2)
      · rw [hi, hj]
  · intro i s hs
    rcases hsession i s hs with hold | hnew
    · exact (h.session i s hold).mono hhistory
    · exact hnew

/-- Marks of another kind open no session. -/
theorem IsBooked.note (h : w.IsBooked) (marks : List Mark)
    (hhistory : w'.history = (w.note marks).history) (hopened : w'.table.opened = w.table.opened)
    (hmarks : ∀ mark ∈ marks, ∀ i call answer, mark ≠ .served i call answer)
    (hsession : ∀ i s, w'.session? i = some s → w.session? i = some s) : w'.IsBooked := by
  refine h.extend 0 hhistory (Nat.le_of_eq hopened.symm) ?_
    fun i s hs => Or.inl (hsession i s hs)
  intro entry hentry i s hmark
  obtain ⟨mark, hmem, rfl⟩ := List.mem_map.1 hentry
  exact absurd hmark (hmarks mark hmem i _ _)

/-- A session is that of the contender that has changed, or it was there before. -/
theorem session?_put {id i : Nat} {c : Contender} (h : (w.put id c).session? i = some s) :
    i = id ∧ c.session? = some s ∨ w.session? i = some s := by
  by_cases hi : i = id
  · subst hi
    rw [session?_of_contender (contender?_put_self w i c)] at h
    exact Or.inl ⟨rfl, h⟩
  · rw [session?, contender?_put_ne w hi c, ← session?] at h
    exact Or.inr h

theorem IsBooked.react (h : w.IsBooked) {id : Nat} {standing : Standing} {cause : Mark}
    {r : Reaction} (hcause : ∀ i call answer, cause ≠ .served i call answer)
    (hsession : ∀ s, r.elector.phase.session? = some s → w.session? id = some s) :
    (w.react id standing cause r).IsBooked := by
  refine h.note (cause :: r.marks id) rfl
    (LockTable.opened_foldl_undergo w.table r.effects) ?_ fun i s hs => ?_
  · intro mark hmark
    rw [Reaction.marks, List.mem_cons, List.mem_append] at hmark
    rcases hmark with rfl | hmark | hmark
    · exact hcause
    · obtain ⟨effect, -, rfl⟩ := List.mem_map.1 hmark
      simp
    · obtain ⟨call, -, rfl⟩ := List.mem_map.1 hmark
      simp
  · rcases session?_put (w := w) hs with ⟨rfl, hnew⟩ | hold
    · apply hsession s
      cases hcall : r.call <;> simpa [Contender.session?, hcall] using hnew
    · exact hold

/-- The service opens a session when asked to, and at no other time. -/
theorem IsBooked.serve (h : w.IsBooked) {id : Nat} {c : Contender} {call : LockCall}
    (hid : w.contender? id = some c) (hpending : c.pending = some ⟨call, none⟩) :
    (w.serve id c call).IsBooked := by
  have hbefore : w.session? id = c.elector.phase.session? := by
    rw [session?_of_contender hid, Contender.session?, hpending]
  refine h.extend id rfl (LockTable.opened_serve w.table c.elector.key call) ?_ ?_
  · intro entry hentry i s hmark
    rw [List.mem_singleton.1 hentry] at hmark
    obtain ⟨rfl, rfl, hanswer⟩ := Mark.served.inj hmark
    obtain rfl : w.table.opened + 1 = s := LockAnswer.opened.inj hanswer
    exact ⟨rfl, Nat.lt_succ_self _, Nat.le_refl _⟩
  · intro i s hs
    rcases session?_put (w := w) hs with ⟨rfl, hnew⟩ | hold
    · cases call with
      | connect =>
        obtain rfl : w.table.opened + 1 = s := Option.some.inj hnew
        exact Or.inr ⟨_, List.mem_append_right _ (List.mem_singleton.2 rfl), rfl⟩
      | _ => exact Or.inl (hbefore.trans hnew)
    · exact Or.inl hold

theorem IsBooked.of_change (h : w.IsBooked) (hw : w.IsSound) {move : Move}
    (hchange : w.Change move w') : w'.IsBooked := by
  cases hchange with
  | stay => exact h
  | @start id config key hfree hkey =>
    refine h.react (by simp) fun s hs => ?_
    simp [Elector.start, Elector.attempt, Elector.become, Phase.session?] at hs
  | @tell id c standing event hid hlearns =>
    refine h.react (by simp) fun s hs => ?_
    rw [session?_of_contender hid]
    exact hlearns.session?_of_step (hw.contender id c hid) hs
  | serve hid hpending => exact h.serve hid hpending
  | @restand id c standing mark hid hrunning hmark hcompetes =>
    refine h.note [mark] rfl rfl ?_ fun i s hs => ?_
    · intro mark' hmem
      rw [List.mem_singleton.1 hmem]
      rcases hmark with rfl | rfl
      · simp
      · simp
    · rcases session?_put (w := w) hs with ⟨rfl, hnew⟩ | hold
      · rw [session?_of_contender hid]
        exact hnew
      · exact hold
  | advance millis => exact ⟨h.opened, h.apart, h.session⟩
  | @interfere key table houtside htable =>
    refine h.note ((w.table.owner? key).toList.map (.removed key)) rfl ?_ ?_
      fun i s hs => hs
    · rcases htable with rfl | rfl
      · rfl
      · rfl
    · intro mark hmark
      obtain ⟨owner, -, rfl⟩ := List.mem_map.1 hmark
      simp

/-! ## No lock is left behind -/

/-- What holds of the locks of a contest at all times. -/
structure InCustody (strangers : Prop) (w : Contest) : Prop where
  sound : w.IsSound
  kept : w.IsKept strangers
  booked : w.IsBooked

theorem inCustody_empty (strangers : Prop) : empty.InCustody strangers := by
  refine ⟨isSound_empty, ⟨?_, ?_⟩, ⟨?_, ?_, ?_⟩⟩
  · intro id c hc
    simp [empty] at hc
  · intro key s hs
    simp [empty, LockTable.empty] at hs
  · rintro id s ⟨entry, hentry, -⟩
    simp [empty] at hentry
  · rintro id id' s ⟨entry, hentry, -⟩
    simp [empty] at hentry
  · intro id s hs
    simp [session?, empty] at hs

theorem InCustody.of_change (h : w.InCustody strangers) {move : Move}
    (hchange : w.Change move w') (hmove : move.isOutside = true → strangers) :
    w'.InCustody strangers :=
  ⟨h.sound.of_change hchange, h.kept.of_change h.sound hchange hmove,
    h.booked.of_change h.sound hchange⟩

theorem inCustody_run (moves : List Move) :
    (empty.run moves).InCustody (∃ move ∈ moves, move.isOutside = true) :=
  run_induction (inCustody_empty _) fun hmem h hchange =>
    h.of_change hchange fun houtside => ⟨_, hmem, houtside⟩

/-- No lock is left behind.  After any run, whoever owns a lock is the current session of a
contender that competes and leads, or competes as a candidate whose call for the lock is under
way, or has not finished its stop; or it is a stranger that has taken the lock.  And a contender
that rests, has finished its stop or is gone owns nothing, neither with a session that it has nor
with one that it ever had. -/
theorem no_orphan (moves : List Move) :
    let w := empty.run moves
    (∀ key s, (key, s) ∈ w.table.owners →
        (∃ id c, w.contender? id = some c ∧ c.elector.key = key ∧
          c.elector.phase.session? = some s ∧
          ((c.standing.competes = true ∧ c.elector.role = .leader) ∨
            (c.standing.competes = true ∧ c.elector.role = .candidate ∧
              c.pending.map Pending.call = some (.tryLock s)) ∨
            (c.standing = .stopping ∧ c.elector.phase ≠ .finished))) ∨
          s = Rehearsal.thief ∧ ∃ move ∈ moves, move.isOutside = true) ∧
      ∀ id c s, w.contender? id = some c →
        ((∃ session wake, c.elector.phase = .resting session wake) ∨
          c.elector.phase = .finished ∨ c.standing = .gone) →
        (c.elector.phase.session? = some s ∨ w.HasOpened id s) →
        ∀ key, (key, s) ∉ w.table.owners := by
  intro w
  have hw : w.InCustody (∃ move ∈ moves, move.isOutside = true) := inCustody_run moves
  refine ⟨?_, ?_⟩
  · intro key s hmem
    refine (hw.kept.kept key s hmem).imp_left ?_
    rintro ⟨id, c, hid, hkey, hs⟩
    have hc := hw.sound.contender id c hid
    exact ⟨id, c, hid, hkey, Contender.session?_of_holds hc hs,
      hs.cases hc (hw.kept.fits id c hid)⟩
  · intro id c s hid hrests hs key hmem
    have hc := hw.sound.contender id c hid
    have hopened : w.HasOpened id s := by
      rcases hs with hs | hs
      · exact hw.booked.session id s (hw.sound.session?_of_phase hid hs)
      · exact hs
    rcases hw.kept.kept key s hmem with ⟨id', c', hid', -, hholds⟩ | ⟨hthief, -⟩
    · -- the contender that holds the lock is the one the session was opened for
      have hc' := hw.sound.contender id' c' hid'
      have hopened' : w.HasOpened id' s := hw.booked.session id' s
        (hw.sound.session?_of_phase hid' (Contender.session?_of_holds hc' hholds))
      obtain rfl := hw.booked.apart id id' s hopened hopened'
      obtain rfl : c = c' := Option.some.inj (hid.symm.trans hid')
      refine Contender.not_holds hc (hrests.imp_right fun hends => ?_) hholds
      rcases hends with hfinished | hgone
      · exact hfinished
      · exact (hw.kept.fits id c hid).gone hgone
    · exact absurd (hw.booked.opened id s hopened).1 (by rw [hthief]; exact Nat.lt_irrefl _)

/-- The first elector is given the lock and does not hear of it in time; the second one leads and
is stopped while the release is under way. -/
def lateGrant : List Move :=
  [.start 0 .default, .start 1 .default, .serve 0, .deliver 0, .serve 0, .advance 5000, .due 0,
    .serve 1, .deliver 1, .serve 1, .deliver 1, .ask 1, .notice 1]

theorem no_orphan_lateGrant :
    let w := empty.run lateGrant
    w.table.owner? (.ofName "bastion_leader") = some 2 ∧ w.HasOpened 0 1 ∧
      (∀ key, (key, 1) ∉ w.table.owners) ∧
      ∃ id c, w.contender? id = some c ∧ c.elector.phase.session? = some 2 ∧
        ((c.standing.competes = true ∧ c.elector.role = .leader) ∨
          (c.standing.competes = true ∧ c.elector.role = .candidate ∧
            c.pending.map Pending.call = some (.tryLock 2)) ∨
          (c.standing = .stopping ∧ c.elector.phase ≠ .finished)) := by
  intro w
  obtain ⟨howners, hnothing⟩ := no_orphan lateGrant
  have howner : (.ofName "bastion_leader", 2) ∈ w.table.owners := by decide +kernel
  have hresting : (w.contender? 0).map (fun c => c.elector.phase) = some (.resting none 65000) := by
    decide +kernel
  have hopened : w.HasOpened 0 1 := by
    show ∃ entry ∈ w.history, entry.mark = .served 0 .connect (.opened 1)
    decide +kernel
  obtain ⟨c, hid, hphase⟩ := Option.map_eq_some_iff.1 hresting
  refine ⟨by decide +kernel, hopened,
    hnothing 0 c 1 hid (Or.inl ⟨none, 65000, hphase⟩) (Or.inr hopened), ?_⟩
  rcases howners _ 2 howner with ⟨id, c, hid, -, hsession, hcases⟩ | ⟨hthief, -⟩
  · exact ⟨id, c, hid, hsession, hcases⟩
  · exact absurd hthief (by decide)

end Contest

end DocStore.Election

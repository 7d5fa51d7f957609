import DocStore.Proofs.Election.Custody

/-!
# Handover

A leader that is asked to stop gives its lock back first, and shows and tells that it no longer
leads only when that is answered, has failed or has timed out.  Once the service has carried the
release out another contender can be given the lock, and until the answer is there both lead at
once: `not_isOrderly_gap`.

What is orderly about a stop is `orderly_stop`.  It needs two invariants.

* The lock stays with the session until the service carries out the release, if no
  stranger takes it away (`Contest.IsBound`).
* What the owner of a contender was told last is whether the contender leads
  (`Contest.IsTold`).
-/

namespace DocStore.Election

/-! ## What owners are told -/

/-- What a mark says that the owner of a contender is told. -/
def Mark.report? (id : Nat) : Mark → Option Bool
  | .did i effect => if i = id then effect.report? else none
  | _ => none

/-- What the owner of a contender was told, in order. -/
def told (id : Nat) (history : List Entry) : List Bool :=
  history.filterMap fun entry => entry.mark.report? id

namespace Contest

variable {w w' : Contest} {id : Nat} {c : Contender} {s : SessionId}

/-- Marks with more to tell. -/
theorem told_note (i : Nat) (w : Contest) (marks : List Mark) :
    told i (w.note marks).history = told i w.history ++ marks.filterMap (Mark.report? i) := by
  rw [told, note, List.filterMap_append, List.filterMap_map]
  rfl

/-- A reaction tells what it reports, and that to one owner. -/
theorem told_react (i : Nat) (w : Contest) (id : Nat) (standing : Standing) {cause : Mark}
    (r : Reaction) (hcause : ∀ i, cause.report? i = none) :
    told i (w.react id standing cause r).history =
      told i w.history ++ if i = id then reports r.effects else [] := by
  have hcalls : (r.call.toList.map (Mark.called id)).filterMap (Mark.report? i) = [] := by
    cases r.call <;> rfl
  have hmarks : (cause :: r.marks id).filterMap (Mark.report? i) =
      if i = id then reports r.effects else [] := by
    rw [List.filterMap_cons_none (hcause i), Reaction.marks, List.filterMap_append, hcalls,
      List.append_nil, List.filterMap_map]
    split
    · rename_i heq
      subst heq
      have hself : Mark.report? i ∘ Mark.did i = Effect.report? := funext fun effect => if_pos rfl
      rw [hself, reports]
    · rename_i hne
      exact List.filterMap_eq_nil_iff.2 fun effect heffect => if_neg (Ne.symm hne)
  rw [← hmarks]
  exact told_note i (w.put id _) (cause :: r.marks id)

/-- What an owner was told last is whether the contender leads. -/
structure IsTold (w : Contest) : Prop where
  last : ∀ id c, w.contender? id = some c →
    c.elector.isLeader = (told id w.history).getLast?.getD false
  fresh : ∀ id, w.contender? id = none → told id w.history = []

/-- Where no elector changes and nobody is told anything. -/
theorem IsTold.keep (h : w.IsTold) (htold : ∀ i, told i w'.history = told i w.history)
    (hsame : ∀ i, (w'.contender? i).map Contender.elector =
      (w.contender? i).map Contender.elector) : w'.IsTold := by
  refine ⟨?_, ?_⟩
  · intro i d hd
    have hi := hsame i
    rw [hd] at hi
    obtain ⟨d', hd', helector⟩ := Option.map_eq_some_iff.1 hi.symm
    rw [htold, ← helector]
    exact h.last i d' hd'
  · intro i hi
    rw [htold]
    apply h.fresh
    have hi' := hsame i
    rw [hi] at hi'
    exact Option.map_eq_none_iff.1 hi'.symm

/-- Where one contender reacts, and its owner is told what it should be. -/
theorem IsTold.react (h : w.IsTold) {standing : Standing} {cause : Mark} {r : Reaction}
    (hcause : ∀ i, cause.report? i = none)
    (hleader : r.elector.isLeader =
      (told id w.history ++ reports r.effects).getLast?.getD false) :
    (w.react id standing cause r).IsTold := by
  refine ⟨?_, ?_⟩
  · intro i d hd
    rw [told_react i w id standing r hcause]
    rcases of_contender?_put (w := w) hd with ⟨rfl, rfl⟩ | ⟨hi, hold⟩
    · rw [if_pos rfl]
      exact hleader
    · rw [if_neg hi, List.append_nil]
      exact h.last i d hold
  · intro i hnone
    rw [told_react i w id standing r hcause]
    by_cases hi : i = id
    · subst hi
      rw [react, note, contender?_put_self] at hnone
      exact absurd hnone (Option.some_ne_none _)
    · rw [if_neg hi, List.append_nil]
      exact h.fresh i ((contender?_put_ne w hi _).symm.trans hnone)

/-- A contender tells its owner all that changes about its leadership. -/
theorem IsTold.tell (h : w.IsTold) {standing : Standing} {event : Event} (hc : c.IsSound)
    (hplain : c.elector.IsPlain) (hid : w.contender? id = some c)
    (hlearns : c.Learns w.now standing event) : (w.tell id c standing event).IsTold := by
  have hcandid := (Elector.reacts_step w.now (hlearns.expects hc)).isCandid hplain
  refine h.react (fun _ => rfl) ?_
  rw [hcandid.leader, hcandid.reports, h.last id c hid]
  cases outcome? c.elector.phase.call? event with
  | none => simp
  | some o => simp

theorem IsTold.of_change (h : w.IsTold) (hw : w.IsSound)
    (hplain : ∀ id c, w.contender? id = some c → c.elector.IsPlain) {move : Move}
    (hchange : w.Change move w') : w'.IsTold := by
  -- a contender that keeps its elector
  have hsame : ∀ {id c d}, w.contender? id = some c → d.elector = c.elector → ∀ i,
      ((w.put id d).contender? i).map Contender.elector =
        (w.contender? i).map Contender.elector := by
    intro id c d hid helector i
    by_cases hi : i = id
    · subst hi
      rw [contender?_put_self, hid, Option.map_some, Option.map_some, helector]
    · rw [contender?_put_ne w hi]
  cases hchange with
  | stay => exact h
  | @start id config key hfree hkey =>
    refine h.react (fun _ => rfl) ?_
    rw [h.fresh id hfree]
    rfl
  | tell hid hlearns => exact h.tell (hw.contender _ _ hid) (hplain _ _ hid) hid hlearns
  | @serve id c call hid hpending =>
    refine h.keep (fun i => ?_) (hsame hid rfl)
    exact (told_note i (w.put id _) _).trans (List.append_nil _)
  | @restand id c standing mark hid hrunning hmark hcompetes =>
    refine h.keep (fun i => ?_) (hsame hid rfl)
    rw [told_note]
    rcases hmark with rfl | rfl
    · exact List.append_nil _
    · exact List.append_nil _
  | advance millis => exact ⟨h.last, h.fresh⟩
  | @interfere key table houtside htable =>
    refine h.keep (fun i => ?_) fun i => rfl
    refine (told_note i w _).trans ?_
    cases w.table.owner? key with
    | none => exact List.append_nil _
    | some owner => exact List.append_nil _

/-! ## Locks that are given back -/

/-- Until the service carries out the release, the lock stays with the session. -/
def IsBound (w : Contest) : Prop :=
  ∀ id c s, w.contender? id = some c → c.pending = some ⟨.release s, none⟩ →
    w.Backs id c.elector.key s

/-- Who calls with a session has it. -/
theorem session?_of_pending (hw : w.IsSound) (hid : w.contender? id = some c) {pending : Pending}
    (hpending : c.pending = some pending) (hs : pending.call.session? = some s) :
    w.session? id = some s := by
  apply hw.session?_of_phase hid
  rw [Phase.session?_of_call? (Contender.call?_of_pending (hw.contender id c hid) hpending), hs]

/-- A contender that reacts leaves the locks of the others, and it has led if it gives back its
own. -/
theorem IsBound.tell (h : w.IsBound) (hw : w.IsSound) {standing : Standing} {event : Event}
    (hid : w.contender? id = some c) (hlearns : c.Learns w.now standing event) :
    (w.tell id c standing event).IsBound := by
  have hc := hw.contender id c hid
  have hexpects := hlearns.expects hc
  have hfollows := Elector.follows_step w.now hc.frank hexpects
  intro i d s hd hpending
  rcases of_contender?_put (w := w) hd with ⟨rfl, rfl⟩ | ⟨hi, hold⟩
  · have hcall : (c.elector.step w.now event).elector.phase.call? = some (.release s) := by
      rw [← hfollows.call]
      obtain ⟨call, hcall, heq⟩ := Option.map_eq_some_iff.1 hpending
      rw [hcall, (Pending.mk.inj heq).1]
    obtain ⟨deadline, hphase⟩ := Phase.eq_releasing hcall
    obtain ⟨-, hleads, -, heffects⟩ := (Elector.reacts_step w.now hexpects).of_releasing hphase
    rw [hfollows.key]
    refine (hw.backed i c s hid (Or.inl hleads)).react (fun _ => rfl) ?_
    simp [heffects]
  · refine (h i d s hold hpending).react (fun _ => rfl) fun hmem => ?_
    have hsession := hw.session?_of_phase hid (hfollows.ends s hmem).1
    exact hi (hw.apart i id s (session?_of_pending hw hold hpending rfl) hsession)

/-- Another one's call is carried out, or the release itself. -/
theorem IsBound.serve (h : w.IsBound) (hw : w.IsSound) {call : LockCall}
    (hid : w.contender? id = some c) (hpending : c.pending = some ⟨call, none⟩) :
    (w.serve id c call).IsBound := by
  intro i d s hd hrelease
  rcases of_contender?_put (w := w) hd with ⟨rfl, rfl⟩ | ⟨hi, hold⟩
  · simp at hrelease
  · refine (h i d s hold hrelease).mono (fun howner => LockTable.owner?_serve howner _ ?_) rfl ?_
    · rintro rfl
      exact hi (hw.apart i id s (session?_of_pending hw hold hrelease rfl)
        (session?_of_pending hw hid hpending rfl))
    · intro entry hentry
      rw [List.mem_singleton.1 hentry]
      exact isYes_served hi call _

theorem IsBound.of_change (h : w.IsBound) (hw : w.IsSound) {move : Move}
    (hchange : w.Change move w') : w'.IsBound := by
  cases hchange with
  | stay => exact h
  | @start id config key hfree hkey =>
    intro i d s hd hpending
    rcases of_contender?_put (w := w) hd with ⟨rfl, rfl⟩ | ⟨hi, hold⟩
    · simp [Elector.start, Elector.attempt] at hpending
    · refine (h i d s hold hpending).react (fun _ => rfl) ?_
      simp [Elector.start, Elector.attempt, Elector.event]
  | tell hid hlearns => exact h.tell hw hid hlearns
  | serve hid hpending => exact h.serve hw hid hpending
  | @restand id c standing mark hid hrunning hmark hcompetes =>
    have hbefore : ∀ i d s, w.contender? i = some d → d.pending = some ⟨.release s, none⟩ →
        ((w.put id { c with standing }).note [mark]).Backs i d.elector.key s := by
      intro i d s hd hpending
      refine (h i d s hd hpending).mono (fun howner => howner) rfl ?_
      intro entry hentry
      rw [List.mem_singleton.1 hentry]
      rcases hmark with rfl | rfl
      · rfl
      · rfl
    intro i d s hd hpending
    rcases of_contender?_put (w := w) hd with ⟨rfl, rfl⟩ | ⟨-, hold⟩
    · exact hbefore i c s hid hpending
    · exact hbefore i d s hold hpending
  | advance millis => exact h
  | @interfere key table houtside htable =>
    intro i d s hd hpending
    refine (h i d s hd hpending).interfere key fun hne howner => ?_
    rcases htable with rfl | rfl
    · exact LockTable.owner?_sever howner hne
    · exact LockTable.owner?_steal howner hne _

/-! ## Leaving -/

/-- What holds of owners, their locks and what they were told at all times. -/
structure IsSettled (w : Contest) : Prop where
  custody : w.InCustody True
  told : w.IsTold
  bound : w.IsBound

theorem isSettled_run (moves : List Move) : (empty.run moves).IsSettled := by
  refine run_induction ⟨inCustody_empty True, ⟨?_, ?_⟩, ?_⟩ ?_
  · intro id c hid
    simp [empty] at hid
  · intro id hid
    rfl
  · intro id c s hid
    simp [empty] at hid
  · intro w w' move hmem h hchange
    have hw := h.custody.sound
    exact ⟨h.custody.of_change hchange fun _ => trivial,
      h.told.of_change hw (fun id c hid => (h.custody.kept.fits id c hid).plain) hchange,
      h.bound.of_change hw hchange⟩

/-- Its owner has asked a contender to stop, and the contender leads: it shows that it does, or
its owner was told so last. -/
structure IsLeaving (w : Contest) (id : Nat) (c : Contender) : Prop where
  here : w.contender? id = some c
  stops : c.standing = .asked ∨ c.standing = .stopping
  leads : c.elector.isLeader = true ∨ (told id w.history).getLast? = some true

/-- Another contender for the same lock. -/
structure IsRival (w : Contest) (id : Nat) (c : Contender) (id' : Nat) (c' : Contender) :
    Prop where
  here : w.contender? id' = some c'
  ne : id' ≠ id
  lock : c'.elector.config.lockName = c.elector.config.lockName

/-- With the move the service gives a contender its lock. -/
def Grants (w : Contest) (move : Move) (id : Nat) (s : SessionId) : Prop :=
  (w.step move).history = w.history ++ [⟨w.now, .served id (.tryLock s) (.said true)⟩]

/-- The lock of a contender is not its own any more: the service has carried out its release, or a
stranger has taken the lock away. -/
def HasYielded (w : Contest) (id : Nat) (c : Contender) : Prop :=
  ∃ s, c.elector.phase.session? = some s ∧
    ((∃ answer, c.pending = some ⟨.release s, some answer⟩) ∨
      isRemoved id c.elector.key s w.history = true)

/-- No rival of a contender that is leaving is given the lock. -/
def IsOrderly (moves : List Move) : Prop :=
  ∀ before move later, moves = before ++ move :: later → ∀ id c id' c' s,
    (empty.run before).IsLeaving id c → (empty.run before).IsRival id c id' c' →
    ¬ (empty.run before).Grants move id' s

/-- The service gives a lock to a contender that has asked for it and may have it. -/
theorem of_grants {move : Move} (h : w.Grants move id s) :
    ∃ c, w.contender? id = some c ∧ c.pending = some ⟨.tryLock s, none⟩ ∧
      (w.table.tryLock s c.elector.key).1 = true := by
  rw [Grants] at h
  generalize hnext : w.step move = next at h
  have hchange := change_step w move
  rw [hnext] at hchange
  have hnew : ∀ {marks : List Mark},
      w.history ++ marks.map (Entry.mk w.now) =
        w.history ++ [⟨w.now, .served id (.tryLock s) (.said true)⟩] →
      marks.map (Entry.mk w.now) = [⟨w.now, .served id (.tryLock s) (.said true)⟩] :=
    fun heq => List.append_cancel_left heq
  cases hchange with
  | stay => simp at h
  | start hfree hkey =>
    have hmarks := hnew h
    simp at hmarks
  | tell hid hlearns =>
    have hmarks := hnew h
    simp at hmarks
  | @serve i c call hid hpending =>
    obtain ⟨hentry, -⟩ := List.cons.inj (hnew h)
    obtain ⟨rfl, rfl, hanswer⟩ := Mark.served.inj (Entry.mk.inj hentry).2
    exact ⟨c, hid, hpending, LockAnswer.said.inj hanswer⟩
  | @restand i c standing mark hid hrunning hmark hcompetes =>
    have hmarks := hnew h
    rcases hmark with rfl | rfl
    · simp at hmarks
    · simp at hmarks
  | advance millis => simp at h
  | @interfere key table houtside htable =>
    have hmarks := hnew h
    cases howner : w.table.owner? key <;> simp [howner] at hmarks

/-- What shows of a contender is what its owner was told. -/
theorem IsTold.isLeader (h : w.IsTold) (hid : w.contender? id = some c)
    (hleads : c.elector.isLeader = true ∨ (told id w.history).getLast? = some true) :
    c.elector.isLeader = true := by
  rcases hleads with hleader | htold
  · exact hleader
  · rw [h.last id c hid, htold]
    rfl

/-- A leader that has noticed that it has to stop gives its lock back. -/
theorem IsLeaving.phase_eq_releasing (h : w.IsLeaving id c) (hw : w.IsSettled)
    (hstopping : c.standing = .stopping) :
    ∃ s deadline, c.elector.phase = .releasing s deadline := by
  rcases (hw.custody.kept.fits id c h.here).stopping hstopping with hreleasing | ⟨-, hrole⟩
  · exact hreleasing
  · have hleader := hw.told.isLeader h.here h.leads
    rw [Elector.isLeader, hrole] at hleader
    exact absurd hleader (by decide)

/-- A contender that is leaving has yielded its lock, or it owns it. -/
theorem IsLeaving.yields_or_owns (h : w.IsLeaving id c) (hw : w.IsSettled) :
    w.HasYielded id c ∨
      ∃ s, w.session? id = some s ∧ w.table.owner? c.elector.key = some s := by
  have hc := hw.custody.sound.contender id c h.here
  have hcases : ∀ {s}, c.elector.phase.session? = some s → w.Backs id c.elector.key s →
      w.HasYielded id c ∨
        ∃ s, w.session? id = some s ∧ w.table.owner? c.elector.key = some s := by
    intro s hs hbacks
    rcases hbacks with howner | hremoved
    · exact Or.inr ⟨s, hw.custody.sound.session?_of_phase h.here hs, howner⟩
    · exact Or.inl ⟨s, hs, Or.inr hremoved⟩
  rcases h.stops with hasked | hstopping
  · have hleader := hw.told.isLeader h.here h.leads
    obtain ⟨s, hs⟩ := hc.frank hleader (hc.competes (by rw [hasked]; rfl))
    exact hcases (Phase.session?_of_leads? hs) (hw.custody.sound.backed id c s h.here (Or.inl hs))
  · obtain ⟨s, deadline, hphase⟩ := h.phase_eq_releasing hw hstopping
    have hs : c.elector.phase.session? = some s := by
      rw [hphase]
      rfl
    have hcall := hc.call
    rw [hphase, Phase.call?] at hcall
    obtain ⟨⟨call, answer⟩, hpending, rfl⟩ := Option.map_eq_some_iff.1 hcall
    cases answer with
    | none => exact hcases hs (hw.bound id c s h.here hpending)
    | some answer => exact Or.inl ⟨s, hs, Or.inl ⟨answer, hpending⟩⟩

/-- Rivals compete for one key. -/
theorem IsRival.key_eq {id' : Nat} {c' : Contender} (h : w.IsRival id c id' c') (hw : w.IsSound)
    (hid : w.contender? id = some c) : c'.elector.key = c.elector.key := by
  rw [(hw.contender id' c' h.here).key, (hw.contender id c hid).key, h.lock]

/-- Nobody is given a lock that a rival owns. -/
theorem not_grants_of_owns (hw : w.IsSound) {id' : Nat} {c' : Contender}
    (hrival : w.IsRival id c id' c') (hid : w.contender? id = some c)
    (hs : w.session? id = some s) (howner : w.table.owner? c.elector.key = some s) {move : Move}
    {s' : SessionId} : ¬ w.Grants move id' s' := by
  intro hgrants
  obtain ⟨d, hd, hpending, hyes⟩ := of_grants hgrants
  obtain rfl : c' = d := Option.some.inj (hrival.here.symm.trans hd)
  rw [hrival.key_eq hw hid] at hyes
  obtain rfl := LockTable.eq_of_tryLock howner hyes
  exact hrival.ne (hw.apart id' id s (session?_of_pending hw hd hpending rfl) hs)

/-- A first part of a list in which a value does not occur comes before the value. -/
theorem prefix_of_notMem {α : Type} {first rest before later : List α} {a : α}
    (h : first ++ rest = before ++ a :: later) (ha : a ∉ first) : first <+: before := by
  rcases List.append_eq_append_iff.1 h with ⟨more, hbefore, -⟩ | ⟨more, hfirst, hlater⟩
  · exact ⟨more, hbefore.symm⟩
  · cases more with
    | nil => exact ⟨[], hfirst.symm ▸ by simp⟩
    | cons b more =>
      obtain ⟨rfl, -⟩ := List.cons.inj hlater
      exact absurd (by rw [hfirst]; simp) ha

/-- A leader that has noticed that it has to stop shows and tells that it no longer leads before
it ends its session. -/
theorem IsLeaving.shows_before_end (h : w.IsLeaving id c) (hw : w.IsSettled)
    (hstopping : c.standing = .stopping) {standing : Standing} {event : Event}
    (hlearns : c.Learns w.now standing event) {before later : List Effect}
    (heffects : (c.elector.step w.now event).effects = before ++ .endSession s :: later) :
    .publish .follower ∈ before ∧ .report false ∈ before := by
  have hexpects := hlearns.expects (hw.custody.sound.contender id c h.here)
  obtain ⟨s', deadline, hphase⟩ := h.phase_eq_releasing hw hstopping
  have hgoes : ¬ (event = .stop ∨ event = .abandon) := by
    cases hlearns.goes with
    | on hgoes => exact hgoes
    | stop hasked => simp [hstopping] at hasked
    | abandon hdropped => simp [hstopping] at hdropped
  obtain ⟨logs, heq⟩ := (Elector.reacts_step w.now hexpects).finishes hphase hgoes
  have hsplit : (c.elector.finish (logs.map .log)).effects =
      (logs.map .log ++ [.publish .follower, .report false]) ++
        c.elector.event .info "Stopped leader election" [] ::
          c.elector.phase.session?.toList.map Effect.endSession := by
    simp [Elector.finish, hw.told.isLeader h.here h.leads]
  rw [heq, hsplit] at heffects
  have hbefore := (prefix_of_notMem heffects (by simp)).subset
  exact ⟨hbefore (by simp), hbefore (by simp)⟩

/-- What is orderly about a stop.  While a leader that was asked to stop still shows that it
leads, or its owner was told so last, no rival is given the lock, unless the service has carried
out the leader's release or a stranger has taken the lock away.  No rival has told its owner that
it leads then, unless the release was carried out or a stranger has taken the lock away from one
of the two.  And a leader that has noticed the stop ends its session only after it has shown and
told that it no longer leads. -/
theorem orderly_stop (moves : List Move) {id : Nat} {c : Contender}
    (hleaving : (empty.run moves).IsLeaving id c) :
    let w := empty.run moves
    (∀ id' c', w.IsRival id c id' c' →
        (∀ move s, w.Grants move id' s → w.HasYielded id c) ∧
          (c'.standing.competes = true →
            (c'.elector.isLeader = true ∨ (told id' w.history).getLast? = some true) →
            w.HasYielded id c ∨ ∃ s, c'.elector.phase.session? = some s ∧
              isRemoved id' c'.elector.key s w.history = true)) ∧
      ∀ standing event before s later, c.standing = .stopping → c.Learns w.now standing event →
        (c.elector.step w.now event).effects = before ++ .endSession s :: later →
        .publish .follower ∈ before ∧ .report false ∈ before := by
  intro w
  have hw : w.IsSettled := isSettled_run moves
  have hsound := hw.custody.sound
  refine ⟨?_, fun _ _ _ _ _ hstopping hlearns => hleaving.shows_before_end hw hstopping hlearns⟩
  intro id' c' hrival
  rcases hleaving.yields_or_owns hw with hyielded | ⟨s, hs, howner⟩
  · exact ⟨fun _ _ _ => hyielded, fun _ _ => Or.inl hyielded⟩
  refine ⟨?_, ?_⟩
  · intro move s' hgrants
    exact absurd hgrants (not_grants_of_owns hsound hrival hleaving.here hs howner)
  · intro hcompetes hleads
    have hleader := hw.told.isLeader hrival.here hleads
    obtain ⟨s', hs', hbacks⟩ := hsound.backs_of_isLeader hrival.here hcompetes hleader
    rw [← (hsound.contender id' c' hrival.here).key] at hbacks
    rcases hbacks with howner' | hremoved
    · -- both own the lock, so they have one session
      rw [hrival.key_eq hsound hleaving.here, howner] at howner'
      obtain rfl : s = s' := Option.some.inj howner'
      exact absurd (hsound.apart id' id s (hsound.session?_of_phase hrival.here hs') hs) hrival.ne
    · exact Or.inr ⟨s', hs', hremoved⟩

/-! ## The gap -/

/-- The first elector leads and is stopped.  The service carries out its release, and the answer
is still under way when the second one is given the lock and hears of it. -/
def gap : List Move :=
  [.start 0 .default, .serve 0, .deliver 0, .serve 0, .deliver 0, .start 1 .default, .serve 1,
    .deliver 1, .ask 0, .notice 0, .serve 0, .serve 1, .deliver 1]

/-- The same, but the release hangs, and a stranger has taken the lock away. -/
def robbed : List Move :=
  [.start 0 .default, .serve 0, .deliver 0, .serve 0, .deliver 0, .start 1 .default, .serve 1,
    .deliver 1, .sever (.ofName "bastion_leader"), .ask 0, .notice 0, .serve 1, .deliver 1]

/-- A leader that gives its lock back and a rival, where that can be computed. -/
theorem exists_leaving {w : Contest} {id id' : Nat} (hne : id' ≠ id)
    (hleaving : (w.contender? id).any (fun c => c.standing = .stopping && c.elector.isLeader &&
      c.elector.config.lockName = "bastion_leader") = true)
    (hrival : (w.contender? id').any (fun c =>
      c.elector.config.lockName = "bastion_leader") = true) :
    ∃ c c', w.IsLeaving id c ∧ w.IsRival id c id' c' := by
  obtain ⟨c, hid, hc⟩ := (Option.any_eq_true _ _).1 hleaving
  obtain ⟨c', hid', hlock'⟩ := (Option.any_eq_true _ _).1 hrival
  simp only [Bool.and_eq_true, decide_eq_true_eq] at hc hlock'
  obtain ⟨⟨hstopping, hleader⟩, hlock⟩ := hc
  exact ⟨c, c', ⟨hid, Or.inr hstopping, Or.inl hleader⟩, hid', hne, hlock'.trans hlock.symm⟩

theorem gap_grants :
    ∃ c c', (empty.run (gap.take 11)).IsLeaving 0 c ∧
      (empty.run (gap.take 11)).IsRival 0 c 1 c' ∧
      (empty.run (gap.take 11)).Grants (.serve 1) 1 2 := by
  obtain ⟨c, c', hleaving, hrival⟩ := exists_leaving (w := empty.run (gap.take 11))
    (show 1 ≠ 0 by decide) (by decide +kernel) (by decide +kernel)
  refine ⟨c, c', hleaving, hrival, ?_⟩
  show (Contest.step _ _).history = _
  decide +kernel

theorem robbed_grants :
    ∃ c c', (empty.run (robbed.take 11)).IsLeaving 0 c ∧
      (empty.run (robbed.take 11)).IsRival 0 c 1 c' ∧
      (empty.run (robbed.take 11)).Grants (.serve 1) 1 2 := by
  obtain ⟨c, c', hleaving, hrival⟩ := exists_leaving (w := empty.run (robbed.take 11))
    (show 1 ≠ 0 by decide) (by decide +kernel) (by decide +kernel)
  refine ⟨c, c', hleaving, hrival, ?_⟩
  show (Contest.step _ _).history = _
  decide +kernel

/-- A stop is not always orderly.  In the gap, without any stranger, the second elector is given
the lock and tells its owner that it leads while the owner of the first one has been told nothing
else either. -/
theorem not_isOrderly_gap :
    ¬ IsOrderly gap ∧ (∀ move ∈ gap, move.isOutside = false) ∧
      told 0 (empty.run gap).history = [true] ∧ told 1 (empty.run gap).history = [true] ∧
      ¬ IsOrderly robbed := by
  refine ⟨?_, by decide +kernel, by decide +kernel, by decide +kernel, ?_⟩
  · intro horderly
    obtain ⟨c, c', hleaving, hrival, hgrants⟩ := gap_grants
    exact horderly (gap.take 11) (.serve 1) (gap.drop 12) rfl 0 c 1 c' 2 hleaving hrival hgrants
  · intro horderly
    obtain ⟨c, c', hleaving, hrival, hgrants⟩ := robbed_grants
    exact horderly (robbed.take 11) (.serve 1) (robbed.drop 12) rfl 0 c 1 c' 2 hleaving hrival
      hgrants

theorem orderly_stop_gap :
    ∃ c c', (empty.run (gap.take 11)).IsLeaving 0 c ∧
      (empty.run (gap.take 11)).IsRival 0 c 1 c' ∧
      (empty.run (gap.take 11)).Grants (.serve 1) 1 2 ∧
      (empty.run (gap.take 11)).HasYielded 0 c ∧
      ∃ before, (c.elector.step (empty.run (gap.take 11)).now (.answered (.said true))).effects =
        before ++ [.endSession 1] ∧ .publish .follower ∈ before ∧ .report false ∈ before := by
  obtain ⟨c, c', hleaving, hrival, hgrants⟩ := gap_grants
  obtain ⟨hrivals, hends⟩ := orderly_stop (gap.take 11) hleaving
  have hlast : ((empty.run (gap.take 11)).contender? 0).any (fun c => c.standing = .stopping &&
      c.pending = some ⟨.release 1, some (.said true)⟩ &&
      (c.elector.step (empty.run (gap.take 11)).now (.answered (.said true))).effects.drop 3 =
        [.endSession 1]) = true := by
    decide +kernel
  obtain ⟨d, hd, hall⟩ := (Option.any_eq_true _ _).1 hlast
  obtain rfl : c = d := Option.some.inj (hleaving.here.symm.trans hd)
  simp only [Bool.and_eq_true, decide_eq_true_eq] at hall
  obtain ⟨⟨hstopping, hpending⟩, hdrop⟩ := hall
  have hsplit := (List.take_append_drop 3
    (c.elector.step (empty.run (gap.take 11)).now (.answered (.said true))).effects).symm
  rw [hdrop] at hsplit
  exact ⟨c, c', hleaving, hrival, hgrants, (hrivals 1 c' hrival).1 (.serve 1) 2 hgrants, _, hsplit,
    hends _ _ _ 1 [] hstopping (.answer hpending) hsplit⟩

end Contest

end DocStore.Election

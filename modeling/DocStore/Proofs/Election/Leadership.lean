import DocStore.Proofs.Election.Owner

/-!
# Leadership

A contender that says that it leads owns its lock.  The invariant is `Contest.IsSound`:

* a contender waits for the answer to the call that its phase has made
  (`Contender.IsSound`),
* no two contenders have one session, and
* whoever leads, or is about to learn that it does, owns its lock with its session,
  unless a stranger has taken it away (`Contest.Backs`).

Every change keeps it (`IsSound.of_change`), so it holds after any run (`isSound_run`).  Where
no stranger interferes no lock is taken away (`isUndisturbed_run`), and as one lock has
one owner, `leader_unique` follows.
-/

namespace DocStore.Election

/-! ## The invariant -/

namespace Contender

/-- A contender that fits together. -/
structure IsSound (c : Contender) : Prop where
  key : c.elector.key = .ofName c.elector.config.lockName
  frank : c.elector.IsFrank
  competes : c.standing.competes = true → c.elector.phase.isEnding = false
  /-- It waits for the call of its phase. -/
  call : c.pending.map Pending.call = c.elector.phase.call?
  answer : ∀ call answer, c.pending = some ⟨call, some answer⟩ → call.admits answer = true

/-- The call under way is the one that the phase waits for. -/
theorem call?_of_pending {c : Contender} (h : c.IsSound) {pending : Pending}
    (hpending : c.pending = some pending) : c.elector.phase.call? = some pending.call := by
  rw [← h.call, hpending]
  rfl

/-- It leads with a session, or the service has just given the session the lock. -/
def Claims (c : Contender) (s : SessionId) : Prop :=
  c.elector.phase.leads? = some s ∨ c.pending = some ⟨.tryLock s, some (.said true)⟩

/-- A session on its way is one that the elector waits for, and it has none. -/
theorem session?_of_opened {c : Contender} (h : c.IsSound) {call : LockCall} {s : SessionId}
    (hpending : c.pending = some ⟨call, some (.opened s)⟩) :
    call = .connect ∧ c.session? = some s ∧ c.elector.phase.session? = none := by
  have hadmits := h.answer call _ hpending
  cases call with
  | connect =>
    refine ⟨rfl, ?_, Phase.session?_of_call? (call?_of_pending h hpending)⟩
    rw [session?, hpending]
  | tryLock s' => simp [LockCall.admits] at hadmits
  | isHeld s' => simp [LockCall.admits] at hadmits
  | release s' => simp [LockCall.admits] at hadmits

/-- The session that an elector has is that of the contender. -/
theorem session?_of_phase {c : Contender} (h : c.IsSound) {s : SessionId}
    (hs : c.elector.phase.session? = some s) : c.session? = some s := by
  rw [session?]
  split
  · rename_i call s' hpending
    obtain ⟨-, -, hnone⟩ := session?_of_opened h hpending
    rw [hs] at hnone
    simp at hnone
  · exact hs

/-- Who leads, or is about to, has a session. -/
theorem session?_of_claims {c : Contender} (h : c.IsSound) {s : SessionId} (hs : c.Claims s) :
    c.elector.phase.session? = some s := by
  rcases hs with hs | hs
  · exact Phase.session?_of_leads? hs
  · exact Phase.session?_of_call? (call?_of_pending h hs)

/-- A contender learns only what its elector expects. -/
theorem Learns.expects {c : Contender} {now : Nat} {standing : Standing} {event : Event}
    (h : c.Learns now standing event) (hc : c.IsSound) : c.elector.Expects event := by
  cases h with
  | @answer call answer hpending =>
    exact ⟨call, call?_of_pending hc hpending, hc.answer call answer hpending⟩
  | @failure pending hpending cause =>
    refine ⟨pending.call, call?_of_pending hc hpending, ?_⟩
    cases pending.call <;> rfl
  | @due time hdue hle => exact ⟨time, hdue⟩
  | stop hasked =>
    apply hc.competes
    rw [hasked]
    rfl
  | abandon hdropped => trivial

/-- Learning of something brings no other session than the one on its way. -/
theorem Learns.session?_of_step {c : Contender} {now : Nat} {standing : Standing} {event : Event}
    (h : c.Learns now standing event) (hc : c.IsSound) {s : SessionId}
    (hs : (c.elector.step now event).elector.phase.session? = some s) :
    c.session? = some s := by
  rcases (Elector.follows_step now hc.frank (h.expects hc)).session s hs with hold | hevent
  · exact session?_of_phase hc hold
  · subst hevent
    cases h with
    | answer hpending => exact (session?_of_opened hc hpending).2.1

/-- It goes on competing if it was competing and has learned of no end. -/
theorem Learns.competes {c : Contender} {now : Nat} {standing : Standing} {event : Event}
    (h : c.Learns now standing event) (hcompetes : standing.competes = true) :
    c.standing.competes = true ∧ ¬ (event = .stop ∨ event = .abandon) := by
  cases h with
  | answer hpending => exact ⟨hcompetes, by simp⟩
  | failure hpending cause => exact ⟨hcompetes, by simp⟩
  | due hdue hle => exact ⟨hcompetes, by simp⟩
  | stop hasked => simp [Standing.competes] at hcompetes
  | abandon hdropped => simp [Standing.competes] at hcompetes

end Contender

namespace Contest

/-- The session of a contender, if there are both. -/
def session? (w : Contest) (id : Nat) : Option SessionId :=
  (w.contender? id).bind Contender.session?

/-- A session owns a lock, unless a stranger has taken it away since the service last said yes
to the contender. -/
def Backs (w : Contest) (id : Nat) (key : LockKey) (s : SessionId) : Prop :=
  w.table.owner? key = some s ∨ isRemoved id key s w.history = true

/-- What holds of a contest at all times. -/
structure IsSound (w : Contest) : Prop where
  contender : ∀ id c, w.contender? id = some c → c.IsSound
  opened : ∀ id s, w.session? id = some s → s ≤ w.table.opened
  apart : ∀ id id' s, w.session? id = some s → w.session? id' = some s → id = id'
  backed : ∀ id c s, w.contender? id = some c → c.Claims s → w.Backs id c.elector.key s

/-! ## What changes with a move -/

variable {w : Contest}

theorem contender?_put_self (w : Contest) (id : Nat) (c : Contender) :
    (w.put id c).contender? id = some c := if_pos rfl

theorem contender?_put_ne (w : Contest) {id i : Nat} (h : i ≠ id) (c : Contender) :
    (w.put id c).contender? i = w.contender? i := if_neg h

end Contest

/-- Marks that say no yes leave a removal on record. -/
theorem isRemoved_append {id : Nat} {key : LockKey} {s : SessionId} {history : List Entry}
    (h : isRemoved id key s history = true) {more : List Entry}
    (hmore : ∀ entry ∈ more, entry.mark.isYes id = false) :
    isRemoved id key s (history ++ more) = true := by
  induction more generalizing history with
  | nil => rwa [List.append_nil]
  | cons entry more ih =>
    have hentry : isRemoved id key s (history ++ [entry]) = true := by
      rw [isRemoved, List.foldl_append]
      rw [isRemoved] at h
      simp [h, hmore entry List.mem_cons_self]
    have hrest := ih hentry fun entry' hmem => hmore entry' (List.mem_cons_of_mem entry hmem)
    rwa [List.append_assoc] at hrest

/-- A removal is on record at once. -/
theorem isRemoved_removed (id time : Nat) (key : LockKey) (s : SessionId)
    (history : List Entry) :
    isRemoved id key s (history ++ [⟨time, .removed key s⟩]) = true := by
  rw [isRemoved, List.foldl_append]
  simp

namespace Contest

variable {w w' : Contest}

/-- What does not touch a contender leaves its lock to it. -/
theorem Backs.mono {id : Nat} {key : LockKey} {s : SessionId} {more : List Entry}
    (h : w.Backs id key s)
    (howner : w.table.owner? key = some s → w'.table.owner? key = some s)
    (hhistory : w'.history = w.history ++ more)
    (hmore : ∀ entry ∈ more, entry.mark.isYes id = false) : w'.Backs id key s := by
  rcases h with h | h
  · exact Or.inl (howner h)
  · right
    rw [hhistory]
    exact isRemoved_append h hmore

theorem session?_of_contender {id : Nat} {c : Contender} (h : w.contender? id = some c) :
    w.session? id = c.session? := by
  rw [session?, h, Option.bind_some]

/-- The session of a contender is that of its elector. -/
theorem IsSound.session?_of_phase (h : w.IsSound) {id : Nat} {c : Contender}
    (hid : w.contender? id = some c) {s : SessionId} (hs : c.elector.phase.session? = some s) :
    w.session? id = some s := by
  rw [session?_of_contender hid]
  exact Contender.session?_of_phase (h.contender id c hid) hs

/-- One contender changes: what is to be shown about it, and about the others. -/
theorem IsSound.update (h : w.IsSound) {id : Nat} {c : Contender} {more : List Entry}
    (hself : w'.contender? id = some c)
    (hothers : ∀ i, i ≠ id → w'.contender? i = w.contender? i)
    (hhistory : w'.history = w.history ++ more)
    (hmore : ∀ i, i ≠ id → ∀ entry ∈ more, entry.mark.isYes i = false)
    (hopened : w.table.opened ≤ w'.table.opened)
    (howner : ∀ key s, w.session? id ≠ some s → w.table.owner? key = some s →
      w'.table.owner? key = some s)
    (hsound : c.IsSound)
    (hsession : ∀ s, c.session? = some s →
      s ≤ w'.table.opened ∧ (w.session? id = some s ∨ w.table.opened < s))
    (hbacked : ∀ s, c.Claims s → w'.Backs id c.elector.key s) : w'.IsSound := by
  have hsame : ∀ i, i ≠ id → w'.session? i = w.session? i := by
    intro i hi
    rw [session?, session?, hothers i hi]
  have hnew : w'.session? id = c.session? := session?_of_contender hself
  -- a session of the changed contender is no other one's
  have hfresh : ∀ i s, i ≠ id → c.session? = some s → w.session? i ≠ some s := by
    intro i s hi hs heq
    rcases (hsession s hs).2 with hold | hlarge
    · exact hi (h.apart i id s heq hold)
    · exact absurd hlarge (Nat.not_lt.2 (h.opened i s heq))
  refine ⟨?_, ?_, ?_, ?_⟩
  · intro i d hd
    by_cases hi : i = id
    · subst hi
      obtain rfl : c = d := Option.some.inj (hself.symm.trans hd)
      exact hsound
    · rw [hothers i hi] at hd
      exact h.contender i d hd
  · intro i s hs
    by_cases hi : i = id
    · subst hi
      rw [hnew] at hs
      exact (hsession s hs).1
    · rw [hsame i hi] at hs
      exact Nat.le_trans (h.opened i s hs) hopened
  · intro i j s hi hj
    by_cases hne : i = id
    · subst hne
      rcases Decidable.em (j = i) with rfl | hne'
      · rfl
      · rw [hnew] at hi
        rw [hsame j hne'] at hj
        exact absurd hj (hfresh j s hne' hi)
    · rw [hsame i hne] at hi
      by_cases hne' : j = id
      · subst hne'
        rw [hnew] at hj
        exact absurd hi (hfresh i s hne hj)
      · rw [hsame j hne'] at hj
        exact h.apart i j s hi hj
  · intro i d s hd hs
    by_cases hi : i = id
    · subst hi
      obtain rfl : c = d := Option.some.inj (hself.symm.trans hd)
      exact hbacked s hs
    · rw [hothers i hi] at hd
      have hown : w.session? i = some s :=
        h.session?_of_phase hd (Contender.session?_of_claims (h.contender i d hd) hs)
      refine (h.backed i d s hd hs).mono (howner _ s ?_) hhistory (hmore i hi)
      intro heq
      exact hi (h.apart i id s hown heq)

/-! ## Moves keep the invariant -/

/-- An elector does not say yes itself. -/
theorem isYes_marks {r : Reaction} {id : Nat} {mark : Mark} (h : mark ∈ r.marks id) (i : Nat) :
    mark.isYes i = false := by
  rw [Reaction.marks, List.mem_append] at h
  rcases h with h | h
  · obtain ⟨effect, -, rfl⟩ := List.mem_map.1 h
    rfl
  · obtain ⟨call, -, rfl⟩ := List.mem_map.1 h
    rfl

/-- What a reaction puts on record says no yes. -/
theorem isYes_react {r : Reaction} {id : Nat} {cause : Mark} (hcause : ∀ i, cause.isYes i = false)
    (i time : Nat) :
    ∀ entry ∈ (cause :: r.marks id).map (Entry.mk time), entry.mark.isYes i = false := by
  intro entry hentry
  obtain ⟨mark, hmark, rfl⟩ := List.mem_map.1 hentry
  rcases List.mem_cons.1 hmark with rfl | hmark
  · exact hcause i
  · exact isYes_marks hmark i

/-- A reaction that does not end the session leaves the lock to it. -/
theorem Backs.react {i : Nat} {key : LockKey} {s : SessionId} (h : w.Backs i key s) {id : Nat}
    {standing : Standing} {cause : Mark} {r : Reaction} (hcause : ∀ i, cause.isYes i = false)
    (hends : .endSession s ∉ r.effects) : (w.react id standing cause r).Backs i key s :=
  h.mono (fun howner => LockTable.owner?_foldl_undergo howner hends) rfl
    (isYes_react hcause i w.now)

/-- Carrying out a reaction. -/
theorem IsSound.react (h : w.IsSound) {id : Nat} {standing : Standing} {cause : Mark}
    {r : Reaction} (hcause : ∀ i, cause.isYes i = false)
    (hsound : (Contender.mk r.elector standing (r.call.map fun call => ⟨call, none⟩)).IsSound)
    (hends : ∀ s, .endSession s ∈ r.effects →
      w.session? id = some s ∧ r.elector.phase.session? = none)
    (hsession : ∀ s, r.elector.phase.session? = some s → w.session? id = some s)
    (hleads : ∀ s, r.elector.phase.leads? = some s → w.Backs id r.elector.key s) :
    (w.react id standing cause r).IsSound := by
  have hopened : (w.react id standing cause r).table.opened = w.table.opened :=
    LockTable.opened_foldl_undergo w.table r.effects
  have hphase : (Contender.mk r.elector standing (r.call.map fun call => ⟨call, none⟩)).session? =
      r.elector.phase.session? := by
    cases hcall : r.call <;> rfl
  refine h.update (contender?_put_self w id _) (fun i hi => contender?_put_ne w hi _) rfl
    (fun i _ => isYes_react hcause i w.now) (Nat.le_of_eq hopened.symm) ?_ hsound ?_ ?_
  · intro key s hne howner
    exact LockTable.owner?_foldl_undergo howner fun hmem => hne (hends s hmem).1
  · intro s hs
    rw [hphase] at hs
    rw [hopened]
    exact ⟨h.opened id s (hsession s hs), Or.inl (hsession s hs)⟩
  · intro s hs
    rcases hs with hs | hs
    · refine (hleads s hs).react hcause fun hmem => ?_
      -- the session of a leader does not end with the same reaction
      rw [Phase.session?_of_leads? hs] at hends
      exact absurd (hends s hmem).2 (Option.some_ne_none s)
    · cases hcall : r.call <;> simp [hcall] at hs

/-- A contender learns of something. -/
theorem IsSound.tell (h : w.IsSound) {id : Nat} {c : Contender} {standing : Standing}
    {event : Event} (hid : w.contender? id = some c) (hlearns : c.Learns w.now standing event) :
    (w.tell id c standing event).IsSound := by
  have hc := h.contender id c hid
  have hfollows := Elector.follows_step w.now hc.frank (hlearns.expects hc)
  refine h.react (fun _ => rfl) ?_ ?_ ?_ ?_
  · refine ⟨?_, hfollows.frank, ?_, ?_, ?_⟩
    · rw [hfollows.key, hfollows.config, hc.key]
    · intro hcompetes
      obtain ⟨hbefore, hgoes⟩ := hlearns.competes hcompetes
      rw [← Bool.not_eq_true]
      intro hending
      rcases hfollows.ending hending with hending | hevent
      · rw [hc.competes hbefore] at hending
        simp at hending
      · exact hgoes hevent
    · rw [hfollows.call]
      cases (c.elector.step w.now event).elector.phase.call? <;> rfl
    · intro call answer hpending
      cases hcall : (c.elector.step w.now event).call <;> simp [hcall] at hpending
  · intro s hs
    obtain ⟨hsession, hnone⟩ := hfollows.ends s hs
    exact ⟨h.session?_of_phase hid hsession, hnone⟩
  · intro s hs
    rw [session?_of_contender hid]
    exact hlearns.session?_of_step hc hs
  · intro s hs
    rw [hfollows.key]
    apply h.backed id c s hid
    rcases hfollows.leads s hs with hleads | ⟨htrying, hevent⟩
    · exact Or.inl hleads
    · subst hevent
      cases hlearns with
      | @answer call _ hpending =>
        have hcall := hc.call
        rw [hpending, htrying] at hcall
        obtain rfl : call = .tryLock s := Option.some.inj hcall
        exact Or.inr hpending

/-- The service says yes to the one whose call it carries out. -/
theorem isYes_served {id i : Nat} (h : i ≠ id) (call : LockCall) (answer : LockAnswer) :
    (Mark.served id call answer).isYes i = false := by
  rw [Mark.isYes.eq_def]
  split
  · rename_i heq
    rw [← (Mark.served.inj heq).1]
    exact decide_eq_false h.symm
  · rename_i heq
    rw [← (Mark.served.inj heq).1]
    exact decide_eq_false h.symm
  · rfl

/-- The service carries out a call. -/
theorem IsSound.serve (h : w.IsSound) {id : Nat} {c : Contender} {call : LockCall}
    (hid : w.contender? id = some c) (hpending : c.pending = some ⟨call, none⟩) :
    (w.serve id c call).IsSound := by
  have hc := h.contender id c hid
  have hcall := Contender.call?_of_pending hc hpending
  have hbefore : c.session? = c.elector.phase.session? := by
    rw [Contender.session?, hpending]
  have hown : ∀ s, c.elector.phase.session? = some s → w.session? id = some s := by
    intro s hs
    rw [session?_of_contender hid, hbefore, hs]
  have hopened := LockTable.opened_serve w.table c.elector.key call
  have hadmits := LockTable.admits_serve w.table c.elector.key call
  have hself : (w.serve id c call).contender? id = some { c with
      pending := some ⟨call, some (Rehearsal.serve c.elector.key w.table call).1⟩ } :=
    contender?_put_self w id _
  refine h.update hself (fun i hi => contender?_put_ne w hi _) rfl ?_ hopened ?_ ?_ ?_ ?_
  · intro i hi entry hentry
    rw [List.mem_singleton.1 hentry]
    exact isYes_served hi call _
  · intro key s hne howner
    apply LockTable.owner?_serve howner
    rintro rfl
    exact hne (hown s (Phase.session?_of_call? hcall))
  · refine ⟨hc.key, hc.frank, hc.competes, hcall.symm, ?_⟩
    intro call' answer heq
    obtain ⟨rfl, hanswer⟩ := Pending.mk.inj (Option.some.inj heq)
    rw [← Option.some.inj hanswer]
    exact hadmits
  · intro s hs
    have hold : c.elector.phase.session? = some s →
        s ≤ (w.serve id c call).table.opened ∧ (w.session? id = some s ∨ w.table.opened < s) := by
      intro hphase
      exact ⟨Nat.le_trans (h.opened id s (hown s hphase)) hopened, Or.inl (hown s hphase)⟩
    cases call with
    | connect =>
      obtain rfl : w.table.opened + 1 = s := Option.some.inj hs
      exact ⟨Nat.le_refl _, Or.inr (Nat.lt_succ_self _)⟩
    | _ => exact hold hs
  · intro s hs
    rcases hs with hs | hs
    · -- a leader calls only to be told whether it holds the lock
      obtain rfl := Phase.call?_of_leads? hs hcall
      cases hheld : w.table.isHeld s c.elector.key with
      | true => exact Or.inl (eq_of_beq hheld)
      | false =>
        refine (h.backed id c s hid (Or.inl hs)).mono (fun howner => howner) rfl ?_
        intro entry hentry
        rw [List.mem_singleton.1 hentry]
        show Mark.isYes id (.served id (.isHeld s) (.said (w.table.isHeld s c.elector.key))) = _
        rw [hheld]
        rfl
    · obtain ⟨rfl, hanswer⟩ := Pending.mk.inj (Option.some.inj hs)
      have hyes : (w.table.tryLock s c.elector.key).1 = true :=
        LockAnswer.said.inj (Option.some.inj hanswer)
      exact Or.inl (LockTable.owner?_of_tryLock hyes)

/-- The owner of a contender wants something of it, which it does not know yet. -/
theorem IsSound.restand (h : w.IsSound) {id : Nat} {c : Contender}
    (hid : w.contender? id = some c) (hcompetes : c.standing.competes = true)
    (standing : Standing) {mark : Mark} (hmark : ∀ i, mark.isYes i = false) :
    ((w.put id { c with standing }).note [mark]).IsSound := by
  have hc := h.contender id c hid
  have hself : ((w.put id { c with standing }).note [mark]).contender? id =
      some { c with standing } := contender?_put_self w id _
  have hmore : ∀ i, ∀ entry ∈ [(⟨w.now, mark⟩ : Entry)], entry.mark.isYes i = false := by
    intro i entry hentry
    rw [List.mem_singleton.1 hentry]
    exact hmark i
  refine h.update hself (fun i hi => contender?_put_ne w hi _) rfl (fun i _ => hmore i)
    (Nat.le_refl _) (fun _ _ _ howner => howner) ?_ ?_ ?_
  · exact ⟨hc.key, hc.frank, fun _ => hc.competes hcompetes, hc.call, hc.answer⟩
  · intro s hs
    have hsame : w.session? id = some s := (session?_of_contender hid).trans hs
    exact ⟨h.opened id s hsame, Or.inl hsame⟩
  · intro s hs
    exact (h.backed id c s hid hs).mono (fun howner => howner) rfl (hmore id)

/-- A lock that a stranger takes away is on record as removed. -/
theorem Backs.interfere {i : Nat} {key' : LockKey} {s : SessionId} (h : w.Backs i key' s)
    (key : LockKey) {table : LockTable}
    (howner : key ≠ key' → w.table.owner? key' = some s → table.owner? key' = some s) :
    ({ w.noteRemoved key with table } : Contest).Backs i key' s := by
  have hmore : ∀ entry ∈ ((w.table.owner? key).toList.map (.removed key)).map
      fun mark => (⟨w.now, mark⟩ : Entry), entry.mark.isYes i = false := by
    intro entry hentry
    obtain ⟨mark, hmark, rfl⟩ := List.mem_map.1 hentry
    obtain ⟨owner, -, rfl⟩ := List.mem_map.1 hmark
    rfl
  rcases h with hown | hremoved
  · by_cases heq : key = key'
    · right
      show isRemoved i key' s (w.history ++ ((w.table.owner? key).toList.map
        (.removed key)).map fun mark => ⟨w.now, mark⟩) = true
      rw [heq, hown]
      exact isRemoved_removed i w.now key' s w.history
    · exact Or.inl (howner heq hown)
  · exact Or.inr (isRemoved_append hremoved hmore)

/-- A stranger changes the owner of a lock, which is on record. -/
theorem IsSound.interfere (h : w.IsSound) (key : LockKey) {table : LockTable}
    (hopened : table.opened = w.table.opened)
    (howner : ∀ key' s, key ≠ key' → w.table.owner? key' = some s →
      table.owner? key' = some s) :
    ({ w.noteRemoved key with table } : Contest).IsSound := by
  refine ⟨h.contender, ?_, h.apart, ?_⟩
  · intro i s hs
    rw [hopened]
    exact h.opened i s hs
  · intro i c s hc hs
    exact (h.backed i c s hc hs).interfere key (howner c.elector.key s)

/-- Everything before the first move. -/
theorem isSound_empty : empty.IsSound := by
  refine ⟨?_, ?_, ?_, ?_⟩
  · intro id c hc
    simp [empty] at hc
  · intro id s hs
    simp [session?, empty] at hs
  · intro id id' s hs
    simp [session?, empty] at hs
  · intro id c s hc
    simp [empty] at hc

/-- A new contender. -/
theorem IsSound.start (h : w.IsSound) (id : Nat) {config : ElectionConfig} {key : LockKey}
    (hkey : Elector.keyOf config = .ok key) :
    (w.react id .running (.started id) (Elector.start config key w.now)).IsSound := by
  have hfollows := Elector.follows_start config key w.now
  have hname : key = .ofName config.lockName := by
    rw [Elector.keyOf] at hkey
    cases hvalid : config.validate with
    | error cause =>
      rw [hvalid] at hkey
      cases hkey
    | ok =>
      rw [hvalid] at hkey
      exact (Except.ok.inj hkey).symm
  refine h.react (fun _ => rfl) ?_ ?_ ?_ ?_
  · refine ⟨?_, hfollows.frank, fun _ => rfl, rfl, ?_⟩
    · rw [hfollows.key, hfollows.config]
      exact hname
    · intro call answer hpending
      simp [Elector.start, Elector.attempt] at hpending
  · intro s hs
    have hnone := (hfollows.ends s hs).1
    simp [Phase.session?] at hnone
  · intro s hs
    simp [Elector.start, Elector.attempt, Elector.become, Phase.session?] at hs
  · intro s hs
    simp [Elector.start, Elector.attempt, Elector.become, Phase.leads?] at hs

/-- Every move keeps the invariant. -/
theorem IsSound.of_change (h : w.IsSound) {move : Move} (hchange : w.Change move w') :
    w'.IsSound := by
  cases hchange with
  | stay => exact h
  | @start id config key hfree hkey => exact h.start id hkey
  | tell hid hlearns => exact h.tell hid hlearns
  | serve hid hpending => exact h.serve hid hpending
  | @restand id c standing mark hid hrunning hmark hcompetes =>
    refine h.restand hid ?_ standing ?_
    · rw [hrunning]
      rfl
    · intro i
      rcases hmark with rfl | rfl
      · rfl
      · rfl
  | advance millis => exact ⟨h.contender, h.opened, h.apart, h.backed⟩
  | @interfere key table hmove htable =>
    rcases htable with rfl | rfl
    · exact h.interfere key rfl fun key' s hne howner => LockTable.owner?_sever howner hne
    · exact h.interfere key rfl fun key' s hne howner => LockTable.owner?_steal howner hne _

theorem isSound_run (h : w.IsSound) (moves : List Move) : (w.run moves).IsSound :=
  run_induction h fun _ hw hchange => hw.of_change hchange

/-! ## Without strangers -/

/-- No stranger has taken a lock away. -/
def IsUndisturbed (w : Contest) : Prop :=
  ∀ entry ∈ w.history, ∀ key s, entry.mark ≠ .removed key s

theorem IsUndisturbed.note (h : w.IsUndisturbed) {marks : List Mark}
    (hmarks : ∀ mark ∈ marks, ∀ key s, mark ≠ .removed key s) :
    (w.note marks).IsUndisturbed := by
  intro entry hentry key s
  rcases List.mem_append.1 hentry with hold | hnew
  · exact h entry hold key s
  · obtain ⟨mark, hmark, rfl⟩ := List.mem_map.1 hnew
    exact hmarks mark hmark key s

theorem IsUndisturbed.react (h : w.IsUndisturbed) (id : Nat) (standing : Standing)
    {cause : Mark} (hcause : ∀ key s, cause ≠ .removed key s) (r : Reaction) :
    (w.react id standing cause r).IsUndisturbed := by
  refine IsUndisturbed.note (w := w) h ?_
  intro mark hmark key s
  rw [Reaction.marks, List.mem_cons, List.mem_append] at hmark
  rcases hmark with rfl | hmark | hmark
  · exact hcause key s
  · obtain ⟨effect, -, rfl⟩ := List.mem_map.1 hmark
    simp
  · obtain ⟨call, -, rfl⟩ := List.mem_map.1 hmark
    simp

theorem IsUndisturbed.of_change (h : w.IsUndisturbed) {move : Move} (hchange : w.Change move w')
    (hinside : move.isOutside = false) : w'.IsUndisturbed := by
  have hnote : ∀ id c mark, (∀ key s, mark ≠ .removed key s) →
      ((w.put id c).note [mark]).IsUndisturbed := by
    intro id c mark hmark
    refine IsUndisturbed.note (w := w.put id c) h ?_
    intro mark' hmem
    rw [List.mem_singleton.1 hmem]
    exact hmark
  cases hchange with
  | stay => exact h
  | start hfree hkey => exact h.react _ .running (by simp) _
  | tell hid hlearns => exact h.react _ _ (by simp) _
  | serve hid hpending => exact hnote _ _ _ (by simp)
  | restand hid hrunning hmark hcompetes =>
    apply hnote
    rcases hmark with rfl | rfl
    · simp
    · simp
  | advance millis => exact h
  | interfere hmove htable =>
    rw [hmove] at hinside
    simp at hinside

theorem isUndisturbed_run (h : w.IsUndisturbed) {moves : List Move}
    (hinside : ∀ move ∈ moves, move.isOutside = false) : (w.run moves).IsUndisturbed :=
  run_induction h fun hmem hw hchange => hw.of_change hchange (hinside _ hmem)

/-- Where nobody interferes no removal is remembered. -/
theorem IsUndisturbed.isRemoved_eq_false (h : w.IsUndisturbed) (id : Nat) (key : LockKey)
    (s : SessionId) : isRemoved id key s w.history = false := by
  have hnone : ∀ history : List Entry, (∀ entry ∈ history, ∀ key s, entry.mark ≠ .removed key s) →
      isRemoved id key s history = false := by
    intro history
    induction history with
    | nil => exact fun _ => rfl
    | cons entry rest ih =>
      intro hrest
      rw [isRemoved, List.foldl_cons, decide_eq_false (hrest entry List.mem_cons_self key s)]
      exact ih fun entry' hmem => hrest entry' (List.mem_cons_of_mem entry hmem)
  exact hnone w.history h

/-! ## Leaders -/

/-- A competing contender that says that it leads has a session, which owns its lock unless a
stranger has taken it away. -/
theorem IsSound.backs_of_isLeader (h : w.IsSound) {id : Nat} {c : Contender}
    (hid : w.contender? id = some c) (hcompetes : c.standing.competes = true)
    (hleader : c.elector.isLeader = true) :
    ∃ s, c.elector.phase.session? = some s ∧
      w.Backs id (.ofName c.elector.config.lockName) s := by
  have hc := h.contender id c hid
  obtain ⟨s, hs⟩ := hc.frank hleader (hc.competes hcompetes)
  refine ⟨s, Phase.session?_of_leads? hs, ?_⟩
  rw [← hc.key]
  exact h.backed id c s hid (Or.inl hs)

/-- Leaders are unique.  After any run, a contender that competes and says that it leads owns its
lock with its session, unless a stranger has taken it away since the service last said yes to
it; and without strangers two that lead for one lock are the same. -/
theorem leader_unique (moves : List Move) :
    (∀ id c, (empty.run moves).contender? id = some c → c.standing.competes = true →
      c.elector.isLeader = true → ∃ s, c.elector.phase.session? = some s ∧
        ((empty.run moves).table.owner? (.ofName c.elector.config.lockName) = some s ∨
          isRemoved id (.ofName c.elector.config.lockName) s (empty.run moves).history = true)) ∧
      ((∀ move ∈ moves, move.isOutside = false) → ∀ id id' c c',
        (empty.run moves).contender? id = some c → (empty.run moves).contender? id' = some c' →
        c.standing.competes = true → c'.standing.competes = true →
        c.elector.isLeader = true → c'.elector.isLeader = true →
        c.elector.config.lockName = c'.elector.config.lockName → id = id') := by
  have hsound := isSound_run isSound_empty moves
  refine ⟨fun id c hid hcompetes hleader => hsound.backs_of_isLeader hid hcompetes hleader, ?_⟩
  intro hinside id id' c c' hid hid' hcompetes hcompetes' hleader hleader' hname
  have hundisturbed : (empty.run moves).IsUndisturbed :=
    isUndisturbed_run (fun entry hentry => by simp [empty] at hentry) hinside
  have howns : ∀ {i d}, (empty.run moves).contender? i = some d → d.standing.competes = true →
      d.elector.isLeader = true → ∃ s, (empty.run moves).session? i = some s ∧
        (empty.run moves).table.owner? (.ofName d.elector.config.lockName) = some s := by
    intro i d hd hdcompetes hdleader
    obtain ⟨s, hs, hbacks⟩ := hsound.backs_of_isLeader hd hdcompetes hdleader
    refine ⟨s, ?_, ?_⟩
    · rw [session?_of_contender hd]
      exact Contender.session?_of_phase (hsound.contender i d hd) hs
    · rcases hbacks with howner | hremoved
      · exact howner
      · rw [hundisturbed.isRemoved_eq_false] at hremoved
        simp at hremoved
  obtain ⟨s, hs, howner⟩ := howns hid hcompetes hleader
  obtain ⟨s', hs', howner'⟩ := howns hid' hcompetes' hleader'
  rw [← hname, howner] at howner'
  obtain rfl : s = s' := Option.some.inj howner'
  exact hsound.apart id id' s hs hs'

/-- Two electors try for one lock; the first to be served gets it, and the other is refused. -/
def rivals : List Move :=
  [.start 0 .default, .start 1 .default, .serve 0, .deliver 0, .serve 1, .deliver 1, .serve 0,
    .deliver 0, .serve 1, .deliver 1]

theorem leader_unique_rivals :
    ((empty.run rivals).contender? 1).map (fun c => c.elector.isLeader) = some false ∧
      ∃ c s, (empty.run rivals).contender? 0 = some c ∧ c.elector.isLeader = true ∧
        c.elector.phase.session? = some s ∧
        ((empty.run rivals).table.owner? (.ofName c.elector.config.lockName) = some s ∨
          isRemoved 0 (.ofName c.elector.config.lockName) s (empty.run rivals).history = true) ∧
        ∀ id' c', (empty.run rivals).contender? id' = some c' → c'.standing.competes = true →
          c'.elector.isLeader = true → c.elector.config.lockName = c'.elector.config.lockName →
          0 = id' := by
  have hfirst : ((empty.run rivals).contender? 0).any
      (fun c => c.standing.competes && c.elector.isLeader) = true := by decide +kernel
  have hinside : ∀ move ∈ rivals, move.isOutside = false := by decide +kernel
  obtain ⟨c, hid, hboth⟩ := (Option.any_eq_true _ _).1 hfirst
  rw [Bool.and_eq_true] at hboth
  obtain ⟨hcompetes, hleader⟩ := hboth
  obtain ⟨howns, halone⟩ := leader_unique rivals
  obtain ⟨s, hs, howner⟩ := howns 0 c hid hcompetes hleader
  refine ⟨by decide +kernel, c, s, hid, hleader, hs, howner, ?_⟩
  intro id' c' hid' hcompetes' hleader' hname
  exact halone hinside 0 id' c c' hid hid' hcompetes hcompetes' hleader hleader' hname

end Contest

end DocStore.Election

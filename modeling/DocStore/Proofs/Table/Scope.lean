import DocStore.Proofs.Table.Evidence

/-!
# Sessions that may have made a table

A session knows what it has done in its transactions (`Scope`), and sees what it has made and
what is committed.

* What was made in a transaction was written in it: `Scope.IsFit`, kept by `Scope.carryOut`.
* A session that has made the table does not commit it but with its outermost transaction:
  `Scope.IsFit.of_hasMade`.
* What a script is certain of is so (`Evidence.Holds`), whatever others do (`Holds.mono`), and
  stays so with every reply on its own connection: `Holds.after_ok`, `Holds.after_error`.
-/

namespace DocStore

open Sql (Statement)

/-! ## Sessions -/

/-- What a session has done in its transactions. -/
structure Scope where
  /-- For every open transaction, the innermost first, whether the table was made in it. -/
  levels : List Bool
  /-- Something was written in the outermost transaction. -/
  hasWritten : Bool
  /-- The table was made in the outermost transaction, even if that was undone since. -/
  hasMade : Bool

namespace Scope

/-- No transaction is open. -/
def closed : Scope := ⟨[], false, false⟩

/-- Whether the session sees the table. -/
def sees (isCommitted : Bool) (scope : Scope) : Bool := isCommitted || scope.levels.contains true

/-- The innermost transaction is committed.  The flag says whether the table is committed
by it. -/
def commit (scope : Scope) : Scope × Bool :=
  match scope.levels with
  | [] => (scope, false)
  | [made] => (closed, made)
  | made :: made' :: rest => ({ scope with levels := (made || made') :: rest }, false)

/-- The innermost transaction is rolled back. -/
def rollBack (scope : Scope) : Scope :=
  match scope.levels with
  | [] => scope
  | [_] => closed
  | _ :: level :: rest => { scope with levels := level :: rest }

/-- The table is made, unless the session sees one. -/
def create (isCommitted : Bool) (scope : Scope) : Scope × Bool :=
  if scope.sees isCommitted then (scope, false)
  else
    match scope.levels with
    | [] => (scope, true)
    | _ :: rest => (⟨true :: rest, true, true⟩, false)

/-- A command is carried out; a statement of which nothing else is known may write. -/
def carryOut (t : DocumentTable) (isCommitted : Bool) (c : Command) (writes : Bool)
    (scope : Scope) : Scope × Bool :=
  match c with
  | .begin => ({ scope with levels := false :: scope.levels }, false)
  | .commit => scope.commit
  | .rollback => (scope.rollBack, false)
  | .execute s =>
      if s = t.createStatement then scope.create isCommitted
      else
        ({ scope with hasWritten := scope.hasWritten || writes && !scope.levels.isEmpty }, false)
  | .ping => (scope, false)

/-- Whether the session may reply this.  Only a table that it sees has columns, it tells
truthfully whether it has written anything, and making the table is refused as already done
only if the table is committed. -/
def permits (t : DocumentTable) (isCommitted : Bool) (scope : Scope) (c : Command) (r : Reply) :
    Bool :=
  match c, r with
  | .execute s, .ok a =>
      (!(s = t.columnsStatement) || a.rows.isEmpty || scope.sees isCommitted) &&
        (!(s = DocumentTable.unwrittenStatement) ||
          match DocumentTable.readUnwritten a with
          | .ok unwritten => unwritten == !scope.hasWritten
          | .error _ => true)
  | .execute s, .error fault =>
      !(s = t.createStatement) || !fault.toError.isAlreadyExists || isCommitted
  | _, _ => true

/-- What was made was written too, and nothing is outside of transactions. -/
structure IsFit (scope : Scope) : Prop where
  written : true ∈ scope.levels → scope.hasWritten = true
  closed : scope.levels = [] → scope.hasMade = false

theorem sees_iff {isCommitted : Bool} {scope : Scope} :
    scope.sees isCommitted = true ↔ isCommitted = true ∨ true ∈ scope.levels := by
  rw [sees, Bool.or_eq_true_iff, List.contains_iff_mem]

theorem isFit_closed : closed.IsFit := ⟨nofun, fun _ => rfl⟩

variable {t : DocumentTable} {isCommitted : Bool} {scope : Scope}

theorem IsFit.rollBack (h : scope.IsFit) : scope.rollBack.IsFit := by
  obtain ⟨levels, hasWritten, hasMade⟩ := scope
  match levels with
  | [] => exact h
  | [_] => exact isFit_closed
  | _ :: level :: rest => exact ⟨fun hmem => h.written (List.mem_cons_of_mem _ hmem), nofun⟩

theorem IsFit.commit (h : scope.IsFit) : scope.commit.1.IsFit := by
  obtain ⟨levels, hasWritten, hasMade⟩ := scope
  match levels with
  | [] => exact h
  | [_] => exact isFit_closed
  | made :: made' :: rest =>
    refine ⟨fun hmem => h.written ?_, nofun⟩
    replace hmem : true ∈ (made || made') :: rest := hmem
    simpa [or_assoc] using hmem

theorem IsFit.create (h : scope.IsFit) : (scope.create isCommitted).1.IsFit := by
  obtain ⟨levels, hasWritten, hasMade⟩ := scope
  rw [Scope.create]
  split
  · exact h
  · match levels with
    | [] => exact h
    | _ :: rest => exact ⟨fun _ => rfl, nofun⟩

theorem IsFit.carryOut (h : scope.IsFit) (c : Command) (writes : Bool) :
    (scope.carryOut t isCommitted c writes).1.IsFit := by
  cases c with
  | begin =>
    refine ⟨fun hmem => h.written ?_, nofun⟩
    replace hmem : true ∈ false :: scope.levels := hmem
    simpa using hmem
  | commit => exact h.commit
  | rollback => exact h.rollBack
  | execute s =>
    rw [Scope.carryOut]
    split
    · exact h.create
    · exact ⟨fun hmem => Bool.or_eq_true_iff.2 (.inl (h.written hmem)), h.closed⟩
  | ping => exact h

/-- Who makes the table has not seen it before, and does not commit it with that. -/
theorem IsFit.of_hasMade (hfit : scope.IsFit) {c : Command} {writes : Bool}
    (h : (scope.carryOut t isCommitted c writes).1.hasMade = true) :
    (scope.hasMade = true ∨ isCommitted = false) ∧
      (scope.carryOut t isCommitted c writes).2 = false := by
  cases c with
  | begin => exact ⟨.inl h, rfl⟩
  | commit =>
    obtain ⟨levels, hasWritten, hasMade⟩ := scope
    match levels with
    | [] => exact ⟨.inl h, rfl⟩
    | [_] => exact nomatch h
    | made :: made' :: rest => exact ⟨.inl h, rfl⟩
  | rollback =>
    obtain ⟨levels, hasWritten, hasMade⟩ := scope
    match levels with
    | [] => exact ⟨.inl h, rfl⟩
    | [_] => exact nomatch h
    | _ :: level :: rest => exact ⟨.inl h, rfl⟩
  | execute s =>
    rw [Scope.carryOut] at h ⊢
    split at h
    · next hs =>
      rw [if_pos hs]
      obtain ⟨levels, hasWritten, hasMade⟩ := scope
      rw [Scope.create] at h ⊢
      split at h
      · next hsees => rw [if_pos hsees]; exact ⟨.inl h, rfl⟩
      · next hsees =>
        rw [if_neg hsees]
        have hnot := (Bool.or_eq_false_iff.1 (Bool.eq_false_iff.2 hsees)).1
        match levels with
        | [] => exact nomatch (hfit.closed rfl).symm.trans h
        | _ :: rest => exact ⟨.inr hnot, rfl⟩
    · next hs => rw [if_neg hs]; exact ⟨.inl h, rfl⟩
  | ping => exact ⟨.inl h, rfl⟩

end Scope

/-! ## What a script is certain of -/

/-- What is certain is so. -/
structure Evidence.Holds (k : Evidence) (isCommitted : Bool) (scope : Scope) : Prop where
  depth : ∀ n, k.depth = some n → scope.levels.length = n
  isVisible : k.isVisible → isCommitted = true ∨ true ∈ scope.levels
  isCommitted : k.isCommitted → isCommitted = true

namespace Evidence.Holds

variable {t : DocumentTable} {k : Evidence} {isCommitted : Bool} {scope : Scope}

/-- It does no harm if somebody commits the table. -/
theorem mono (h : k.Holds isCommitted scope) {isCommitted' : Bool}
    (hcommitted : isCommitted = true → isCommitted' = true) : k.Holds isCommitted' scope :=
  ⟨h.depth, fun hvisible => (h.isVisible hvisible).imp_left hcommitted,
    fun hk => hcommitted (h.isCommitted hk)⟩

theorem after_error (h : k.Holds isCommitted scope) {c : Command} {fault : DatabaseFault}
    (hpermits : scope.permits t isCommitted c (.error fault) = true) (scope' : Scope) :
    (k.after t c (.error fault)).Holds isCommitted scope' := by
  refine ⟨nofun, nofun, fun hk => ?_⟩
  rcases hk with hk | ⟨rfl, hexists⟩
  · exact h.isCommitted hk
  · simpa [Scope.permits, hexists] using hpermits

/-- A session that has written nothing sees only what is committed. -/
theorem isCommitted_of_unwritten (h : k.Holds isCommitted scope) (hfit : scope.IsFit)
    (hvisible : k.isVisible) {a : Answer}
    (hpermits : scope.permits t isCommitted (.execute DocumentTable.unwrittenStatement)
      (.ok a) = true) (hread : DocumentTable.readUnwritten a = .ok true) :
    isCommitted = true := by
  have hunwritten : scope.hasWritten = false := by
    rw [Scope.permits] at hpermits
    simpa [hread] using (Bool.and_eq_true_iff.1 hpermits).2
  rcases h.isVisible hvisible with hcommitted | hmade
  · exact hcommitted
  · exact nomatch hunwritten.symm.trans (hfit.written hmade)

theorem begin (h : k.Holds isCommitted scope) :
    ({ k with depth := k.depth.map (· + 1) } : Evidence).Holds isCommitted
      { scope with levels := false :: scope.levels } := by
  refine ⟨fun n hn => ?_, fun hvisible => ?_, h.isCommitted⟩
  · obtain ⟨m, hm, rfl⟩ := Option.map_eq_some_iff.1 hn
    exact congrArg (· + 1) (h.depth m hm)
  · exact (h.isVisible hvisible).imp_right (List.mem_cons_of_mem _)

theorem rollBack (h : k.Holds isCommitted scope) :
    (⟨k.depth.map (· - 1), False, k.isCommitted⟩ : Evidence).Holds isCommitted scope.rollBack := by
  refine ⟨fun n hn => ?_, nofun, h.isCommitted⟩
  obtain ⟨m, hm, rfl⟩ := Option.map_eq_some_iff.1 hn
  rw [← h.depth m hm]
  obtain ⟨levels, hasWritten, hasMade⟩ := scope
  match levels with
  | [] => rfl
  | [_] => rfl
  | _ :: level :: rest => rfl

/-- A table that was made in the outermost transaction is committed with it. -/
theorem commit (h : k.Holds isCommitted scope) :
    ({ k with
        depth := k.depth.map (· - 1)
        isCommitted := k.isCommitted ∨ k.isVisible ∧ k.depth = some 1 } : Evidence).Holds
      (isCommitted || scope.commit.2) scope.commit.1 := by
  obtain ⟨levels, hasWritten, hasMade⟩ := scope
  have hdepth (n : Nat) (hn : k.depth.map (· - 1) = some n) : levels.length - 1 = n := by
    obtain ⟨m, hm, rfl⟩ := Option.map_eq_some_iff.1 hn
    rw [← h.depth m hm]
  have hsure {made : Bool} (hk : k.isCommitted) : (isCommitted || made) = true :=
    Bool.or_eq_true_iff.2 (.inl (h.isCommitted hk))
  match levels with
  | [] =>
    refine ⟨hdepth, fun hvisible => ?_, fun hk => ?_⟩
    · exact (h.isVisible hvisible).imp_left fun hc => Bool.or_eq_true_iff.2 (.inl hc)
    · exact hk.elim hsure fun ⟨_, hone⟩ => nomatch h.depth 1 hone
  | [made] =>
    have hmade (hvisible : k.isVisible) : (isCommitted || made) = true := by
      rcases h.isVisible hvisible with hc | hmem
      · exact Bool.or_eq_true_iff.2 (.inl hc)
      · exact Bool.or_eq_true_iff.2 (.inr (List.mem_singleton.1 hmem).symm)
    exact ⟨hdepth, fun hvisible => .inl (hmade hvisible),
      fun hk => hk.elim hsure fun ⟨hvisible, _⟩ => hmade hvisible⟩
  | made :: made' :: rest =>
    refine ⟨hdepth, fun hvisible => ?_, fun hk => ?_⟩
    · refine (h.isVisible hvisible).imp (fun hc => Bool.or_eq_true_iff.2 (.inl hc)) fun hmem => ?_
      replace hmem : true ∈ made :: made' :: rest := hmem
      show true ∈ (made || made') :: rest
      simpa [or_assoc] using hmem
    · exact hk.elim hsure fun ⟨_, hone⟩ => nomatch h.depth 1 hone

/-- Statements leave the transactions as they are, and unmake nothing. -/
theorem levels_create (isCommitted : Bool) (scope : Scope) :
    (scope.create isCommitted).1.levels.length = scope.levels.length ∧
      (true ∈ scope.levels → true ∈ (scope.create isCommitted).1.levels) ∧
      ((isCommitted || (scope.create isCommitted).2) = true ∨
        true ∈ (scope.create isCommitted).1.levels) := by
  obtain ⟨levels, hasWritten, hasMade⟩ := scope
  rw [Scope.create]
  split
  · next hsees =>
    exact ⟨rfl, id, (Scope.sees_iff.1 hsees).imp_left fun hc => Bool.or_eq_true_iff.2 (.inl hc)⟩
  · match levels with
    | [] => exact ⟨rfl, id, .inl (Bool.or_true _)⟩
    | _ :: rest => exact ⟨rfl, fun _ => List.mem_cons_self, .inr List.mem_cons_self⟩

theorem levels_execute (t : DocumentTable) (isCommitted : Bool) (s : Statement) (writes : Bool)
    (scope : Scope) :
    let after := scope.carryOut t isCommitted (.execute s) writes
    after.1.levels.length = scope.levels.length ∧
      (true ∈ scope.levels → true ∈ after.1.levels) ∧
      (s = t.createStatement → (isCommitted || after.2) = true ∨ true ∈ after.1.levels) := by
  intro after
  by_cases hs : s = t.createStatement
  · have hafter : after = scope.create isCommitted := if_pos hs
    obtain ⟨hlength, hkeep, hsees⟩ := levels_create isCommitted scope
    rw [hafter]
    exact ⟨hlength, hkeep, fun _ => hsees⟩
  · have hafter : after = ({ scope with
        hasWritten := scope.hasWritten || writes && !scope.levels.isEmpty }, false) := if_neg hs
    rw [hafter]
    exact ⟨rfl, id, fun h => absurd h hs⟩

theorem shown (h : k.Holds isCommitted scope) (hfit : scope.IsFit) {s : Statement} {a : Answer}
    (hpermits : scope.permits t isCommitted (.execute s) (.ok a) = true) (writes : Bool) :
    (k.shown t s a).Holds
      (isCommitted || (scope.carryOut t isCommitted (.execute s) writes).2)
      (scope.carryOut t isCommitted (.execute s) writes).1 := by
  obtain ⟨hlength, hkeep, hmade⟩ := levels_execute t isCommitted s writes scope
  have hsure (hc : isCommitted = true) :
      (isCommitted || (scope.carryOut t isCommitted (.execute s) writes).2) = true :=
    Bool.or_eq_true_iff.2 (.inl hc)
  have hvisible (hk : (k.shown t s a).isVisible) :
      (isCommitted || (scope.carryOut t isCommitted (.execute s) writes).2) = true ∨
        true ∈ (scope.carryOut t isCommitted (.execute s) writes).1.levels := by
    rcases hk with hk | ⟨rfl, hrows⟩ | hs
    · exact (h.isVisible hk).imp hsure hkeep
    · have hsees : scope.sees isCommitted = true := by
        rw [Scope.permits] at hpermits
        simpa [hrows] using (Bool.and_eq_true_iff.1 hpermits).1
      exact (Scope.sees_iff.1 hsees).imp hsure hkeep
    · exact hmade hs
  refine ⟨fun n hn => hlength.trans (h.depth n hn), hvisible, fun hk => ?_⟩
  rcases hk with hk | ⟨hseen, hdepth⟩ | ⟨hseen, rfl, hread⟩
  · exact hsure (h.isCommitted hk)
  · have hnil := List.eq_nil_of_length_eq_zero (hlength.trans (h.depth 0 hdepth))
    refine (hvisible hseen).resolve_right fun hmem => ?_
    rw [hnil] at hmem
    exact List.not_mem_nil hmem
  · exact hsure (h.isCommitted_of_unwritten hfit hseen hpermits hread)

theorem after_ok (h : k.Holds isCommitted scope) (hfit : scope.IsFit) {c : Command} {a : Answer}
    (hpermits : scope.permits t isCommitted c (.ok a) = true) (writes : Bool) :
    (k.after t c (.ok a)).Holds
      (isCommitted || (scope.carryOut t isCommitted c writes).2)
      (scope.carryOut t isCommitted c writes).1 := by
  cases c with
  | execute s => exact h.shown hfit hpermits writes
  | commit => exact h.commit
  | begin => exact (Bool.or_false isCommitted).symm ▸ h.begin
  | rollback => exact (Bool.or_false isCommitted).symm ▸ h.rollBack
  | ping => exact (Bool.or_false isCommitted).symm ▸ h

end Evidence.Holds

end DocStore

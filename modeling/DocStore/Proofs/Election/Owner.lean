import DocStore.Proofs.Election.Contest
import DocStore.Proofs.Election.Reaction

/-!
# Owners of locks

What can happen to the owner of a lock.  It keeps the lock whatever other sessions
do: they cannot take it by trying (`owner?_tryLock`), give it back
(`owner?_release`) or free it by their end (`owner?_endSession`).  Who is told that
it has a lock has it (`owner?_of_tryLock`), nobody else becomes an owner
(`mem_owners_serve`), and a session that ends owns nothing (`mem_owners_foldl_undergo`).
-/

namespace DocStore.Election

/-- The owner of a lock stays on the list when others are taken from it. -/
theorem lookup_filter {l : List (LockKey × SessionId)} {p : LockKey × SessionId → Bool}
    {key : LockKey} {s : SessionId} (h : l.lookup key = some s) (hp : p (key, s) = true) :
    (l.filter p).lookup key = some s := by
  induction l with
  | nil => simp at h
  | cons a l ih =>
    obtain ⟨k, v⟩ := a
    rw [List.lookup_cons] at h
    cases hk : key == k with
    | true =>
      obtain rfl : key = k := eq_of_beq hk
      rw [hk] at h
      obtain rfl : v = s := Option.some.inj h
      rw [List.filter_cons_of_pos hp, List.lookup_cons, hk]
    | false =>
      rw [hk] at h
      rw [List.filter_cons]
      split
      · rw [List.lookup_cons, hk]
        exact ih h
      · exact ih h

namespace LockTable

variable {t : LockTable} {key : LockKey} {s : SessionId}

/-- The end of another session takes nothing away. -/
theorem owner?_endSession (h : t.owner? key = some s) {s' : SessionId} (hne : s' ≠ s) :
    (t.endSession s').owner? key = some s := by
  apply lookup_filter h
  simpa using hne.symm

/-- Removing the owner of another lock takes nothing away. -/
theorem owner?_sever (h : t.owner? key = some s) {key' : LockKey} (hne : key' ≠ key) :
    (t.sever key').owner? key = some s := by
  apply lookup_filter h
  simpa using hne.symm

theorem owner?_steal (h : t.owner? key = some s) {key' : LockKey} (hne : key' ≠ key)
    (thief : SessionId) : (t.steal thief key').owner? key = some s := by
  have hkey : (key == key') = false := by simpa using hne.symm
  show List.lookup key ((key', thief) :: (t.sever key').owners) = some s
  rw [List.lookup_cons, hkey]
  exact owner?_sever h hne

/-- Nobody takes a lock from its owner by trying. -/
theorem owner?_tryLock (h : t.owner? key = some s) (s' : SessionId) (key' : LockKey) :
    (t.tryLock s' key').2.owner? key = some s := by
  rw [tryLock]
  cases hfree : t.owner? key' with
  | some owner => exact h
  | none =>
    have hkey : (key == key') = false := by
      rw [beq_eq_false_iff_ne]
      rintro rfl
      rw [h] at hfree
      simp at hfree
    show List.lookup key ((key', s') :: t.owners) = some s
    rw [List.lookup_cons, hkey]
    exact h

/-- A session that is told that it has a lock has it. -/
theorem owner?_of_tryLock (h : (t.tryLock s key).1 = true) :
    (t.tryLock s key).2.owner? key = some s := by
  rw [tryLock] at h ⊢
  cases howner : t.owner? key with
  | none =>
    show List.lookup key ((key, s) :: t.owners) = some s
    rw [List.lookup_cons, beq_self_eq_true]
  | some owner =>
    rw [howner] at h
    obtain rfl : owner = s := eq_of_beq h
    exact howner

/-- A session that is told that it has a lock which has an owner is the owner. -/
theorem eq_of_tryLock (h : t.owner? key = some s) {s' : SessionId}
    (hyes : (t.tryLock s' key).1 = true) : s = s' := by
  rw [tryLock, h] at hyes
  exact eq_of_beq hyes

/-- A lock that another session gives back is not this one. -/
theorem owner?_release (h : t.owner? key = some s) {s' : SessionId} (hne : s' ≠ s)
    (key' : LockKey) : (t.release s' key').2.owner? key = some s := by
  rw [release]
  split
  · rename_i hheld
    apply owner?_sever h
    rintro rfl
    rw [isHeld, h] at hheld
    exact hne (Option.some.inj (eq_of_beq hheld)).symm
  · exact h

/-- What the service does for others takes nothing away. -/
theorem owner?_serve (h : t.owner? key = some s) (key' : LockKey) {call : LockCall}
    (hne : call ≠ .release s) : (Rehearsal.serve key' t call).2.owner? key = some s := by
  cases call with
  | connect => exact h
  | tryLock s' => exact owner?_tryLock h s' key'
  | isHeld s' => exact h
  | release s' => exact owner?_release h (fun heq => hne (congrArg LockCall.release heq)) key'

theorem opened_serve (t : LockTable) (key : LockKey) (call : LockCall) :
    t.opened ≤ (Rehearsal.serve key t call).2.opened := by
  cases call with
  | connect => exact Nat.le_succ t.opened
  | isHeld s => exact Nat.le_refl t.opened
  | tryLock s =>
    show t.opened ≤ (t.tryLock s key).2.opened
    rw [tryLock]
    split <;> exact Nat.le_refl t.opened
  | release s =>
    show t.opened ≤ (t.release s key).2.opened
    rw [release]
    split <;> exact Nat.le_refl t.opened

/-- The service answers what was asked. -/
theorem admits_serve (t : LockTable) (key : LockKey) (call : LockCall) :
    call.admits (Rehearsal.serve key t call).1 = true := by
  cases call <;> rfl

/-- Effects that end other sessions take nothing away. -/
theorem owner?_foldl_undergo {effects : List Effect} (h : t.owner? key = some s)
    (hne : .endSession s ∉ effects) :
    (effects.foldl undergo t).owner? key = some s := by
  induction effects generalizing t with
  | nil => exact h
  | cons effect rest ih =>
    rw [List.mem_cons, not_or] at hne
    refine ih ?_ hne.2
    cases effect with
    | endSession s' => exact owner?_endSession h fun heq => hne.1 (by rw [heq])
    | _ => exact h

theorem opened_foldl_undergo (t : LockTable) (effects : List Effect) :
    (effects.foldl undergo t).opened = t.opened := by
  induction effects generalizing t with
  | nil => rfl
  | cons effect rest ih =>
    rw [List.foldl_cons, ih]
    cases effect <;> rfl

/-! ## Who can own a lock -/

theorem mem_owners_sever {key' : LockKey} (h : (key, s) ∈ (t.sever key').owners) :
    (key, s) ∈ t.owners :=
  (List.mem_filter.1 h).1

theorem mem_owners_steal {key' : LockKey} {thief : SessionId}
    (h : (key, s) ∈ (t.steal thief key').owners) : (key, s) ∈ t.owners ∨ s = thief := by
  rcases List.mem_cons.1 h with heq | hmem
  · exact Or.inr (Prod.mk.inj heq).2
  · exact Or.inl (mem_owners_sever hmem)

/-- A new owner has been told that it has the lock. -/
theorem mem_owners_serve {key' : LockKey} {call : LockCall}
    (h : (key, s) ∈ (Rehearsal.serve key' t call).2.owners) :
    (key, s) ∈ t.owners ∨
      key = key' ∧ call = .tryLock s ∧ (Rehearsal.serve key' t call).1 = .said true := by
  cases call with
  | connect => exact Or.inl h
  | isHeld s' => exact Or.inl h
  | tryLock s' =>
    simp only [Rehearsal.serve, tryLock] at h ⊢
    cases howner : t.owner? key' with
    | some owner =>
      rw [howner] at h
      exact Or.inl h
    | none =>
      rw [howner] at h
      rcases List.mem_cons.1 h with heq | hmem
      · obtain ⟨rfl, rfl⟩ := Prod.mk.inj heq
        exact Or.inr ⟨rfl, rfl, rfl⟩
      · exact Or.inl hmem
  | release s' =>
    simp only [Rehearsal.serve, release] at h
    split at h
    · exact Or.inl (mem_owners_sever h)
    · exact Or.inl h

/-- Who ends its session owns nothing. -/
theorem mem_owners_foldl_undergo {effects : List Effect}
    (h : (key, s) ∈ (effects.foldl undergo t).owners) :
    (key, s) ∈ t.owners ∧ .endSession s ∉ effects := by
  induction effects generalizing t with
  | nil => exact ⟨h, by simp⟩
  | cons effect rest ih =>
    obtain ⟨hmem, hrest⟩ := ih h
    rw [List.mem_cons, not_or]
    cases effect with
    | endSession s' =>
      obtain ⟨hold, hne⟩ := List.mem_filter.1 hmem
      refine ⟨hold, fun heq => ?_, hrest⟩
      rw [Effect.endSession.inj heq] at hne
      simp at hne
    | _ => exact ⟨hmem, by simp, hrest⟩

end LockTable

end DocStore.Election

/-!
# ASCII case

Folding the capitals `A` to `Z`; every other character stays as it is.  A
statement about characters splits into the 128 of ASCII and the rest
(`forall_char`), where folding does nothing.
-/

namespace DocStore.Text

/-- A capital as its small letter. -/
def lower (c : Char) : Char :=
  if 65 ≤ c.toNat ∧ c.toNat ≤ 90 then Char.ofNat (c.toNat + 32) else c

/-- A text with its capitals folded. -/
def foldCase (text : List Char) : List Char := text.map lower

/-- A statement about all characters from one about ASCII and one about the rest. -/
theorem forall_char {P : Char → Prop} (ascii : ∀ n, n < 128 → P (Char.ofNat n))
    (other : ∀ c : Char, 128 ≤ c.toNat → P c) (c : Char) : P c := by
  by_cases h : c.toNat < 128
  · have := ascii c.toNat h
    rwa [Char.ofNat_toNat] at this
  · exact other c (by omega)

theorem lower_of_large {c : Char} (h : 128 ≤ c.toNat) : lower c = c := by
  simp only [lower]
  split
  · omega
  · rfl

theorem lower_lower (c : Char) : lower (lower c) = lower c :=
  forall_char (P := fun c => lower (lower c) = lower c) (by decide +kernel)
    (fun c h => by rw [lower_of_large h, lower_of_large h]) c

theorem foldCase_foldCase (text : List Char) : foldCase (foldCase text) = foldCase text := by
  simp [foldCase, lower_lower]

end DocStore.Text

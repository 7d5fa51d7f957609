/-!
# Cutting a text at a separator

A text is cut once, at the first or at the last place where a separator
stands.  The parts around the separator and the separator itself make up the
text again (`eq_of_cutFirst`, `eq_of_cutLast`), and the part on the side that
was searched is free of it.
-/

namespace DocStore.Text

/-- The parts before and after the first `sep`. -/
def cutFirst (sep : Char) : List Char → Option (List Char × List Char)
  | [] => none
  | c :: rest =>
      if c = sep then some ([], rest)
      else (cutFirst sep rest).map fun (before, after) => (c :: before, after)

/-- The parts before and after the last `sep`. -/
def cutLast (sep : Char) (text : List Char) : Option (List Char × List Char) :=
  (cutFirst sep text.reverse).map fun (after, before) => (before.reverse, after.reverse)

/-- The parts before and after the first place where `sep` can be read. -/
def cutFirstText (sep : List Char) : List Char → Option (List Char × List Char)
  | [] => if sep.isEmpty then some ([], []) else none
  | c :: rest =>
      if sep.isPrefixOf (c :: rest) then some ([], (c :: rest).drop sep.length)
      else (cutFirstText sep rest).map fun (before, after) => (c :: before, after)

/-- What follows `start`, where the text begins with it. -/
def stripFront? (start text : List Char) : Option (List Char) :=
  if start.isPrefixOf text then some (text.drop start.length) else none

/-- The parts between the separators; one more than there are separators. -/
def splitAll (sep : Char) : List Char → List (List Char)
  | [] => [[]]
  | c :: rest =>
      if c = sep then [] :: splitAll sep rest
      else
        match splitAll sep rest with
        | [] => [[c]]
        | part :: parts => (c :: part) :: parts

theorem eq_of_cutFirst {sep : Char} {text before after : List Char}
    (h : cutFirst sep text = some (before, after)) :
    text = before ++ sep :: after ∧ sep ∉ before := by
  induction text generalizing before after with
  | nil => simp [cutFirst] at h
  | cons c rest ih =>
      by_cases hc : c = sep
      · simp [cutFirst, hc] at h
        obtain ⟨rfl, rfl⟩ := h
        simp [hc]
      · simp only [cutFirst, hc, if_false, Option.map_eq_some_iff] at h
        obtain ⟨⟨front, back⟩, hcut, heq⟩ := h
        simp only [Prod.mk.injEq] at heq
        obtain ⟨rfl, rfl⟩ := heq
        obtain ⟨hrest, hmem⟩ := ih hcut
        exact ⟨by simp [hrest], by simp [hmem, Ne.symm hc]⟩

theorem cutFirst_append {sep : Char} {before after : List Char} (h : sep ∉ before) :
    cutFirst sep (before ++ sep :: after) = some (before, after) := by
  induction before with
  | nil => simp [cutFirst]
  | cons c before ih =>
      simp only [List.mem_cons, not_or] at h
      simp [cutFirst, Ne.symm h.1, ih h.2]

theorem cutFirst_eq_none_iff {sep : Char} {text : List Char} :
    cutFirst sep text = none ↔ sep ∉ text := by
  induction text with
  | nil => simp [cutFirst]
  | cons c rest ih =>
      by_cases hc : c = sep
      · simp [cutFirst, hc]
      · simp [cutFirst, hc, ih, Ne.symm hc]

theorem eq_of_cutLast {sep : Char} {text before after : List Char}
    (h : cutLast sep text = some (before, after)) :
    text = before ++ sep :: after ∧ sep ∉ after := by
  simp only [cutLast, Option.map_eq_some_iff] at h
  obtain ⟨⟨back, front⟩, hcut, heq⟩ := h
  simp only [Prod.mk.injEq] at heq
  obtain ⟨rfl, rfl⟩ := heq
  obtain ⟨hrev, hmem⟩ := eq_of_cutFirst hcut
  have := congrArg List.reverse hrev
  exact ⟨by simpa using this, by simpa using hmem⟩

theorem cutLast_append {sep : Char} {before after : List Char} (h : sep ∉ after) :
    cutLast sep (before ++ sep :: after) = some (before, after) := by
  have hrev : (before ++ sep :: after).reverse = after.reverse ++ sep :: before.reverse := by
    simp
  have hafter : sep ∉ after.reverse := by simpa using h
  rw [cutLast, hrev, cutFirst_append hafter]
  simp

theorem cutLast_eq_none_iff {sep : Char} {text : List Char} :
    cutLast sep text = none ↔ sep ∉ text := by
  simp [cutLast, cutFirst_eq_none_iff]

/-- What stands behind the first `sep` does not decide where that stands. -/
theorem cutFirstText_append {sep text before after : List Char}
    (h : cutFirstText sep text = some (before, after)) (other : List Char) :
    text = before ++ sep ++ after ∧
      cutFirstText sep (before ++ sep ++ other) = some (before, other) := by
  induction text generalizing before with
  | nil =>
    rw [cutFirstText] at h
    split at h
    · rename_i hempty
      obtain ⟨rfl, rfl⟩ : [] = before ∧ [] = after := by simpa using h
      obtain rfl : sep = [] := by simpa using hempty
      cases other <;> simp [cutFirstText]
    · simp at h
  | cons c rest ih =>
    rw [cutFirstText] at h
    split at h
    · rename_i hprefix
      obtain ⟨rfl, rfl⟩ : [] = before ∧ (c :: rest).drop sep.length = after := by simpa using h
      obtain ⟨tail, htail⟩ := List.isPrefixOf_iff_prefix.1 hprefix
      refine ⟨by rw [← htail]; simp, ?_⟩
      cases sep with
      | nil => cases other <;> simp [cutFirstText]
      | cons d sep => simp [cutFirstText]
    · rename_i hnot
      obtain ⟨⟨before', after'⟩, hcut, heq⟩ := Option.map_eq_some_iff.1 h
      obtain ⟨rfl, rfl⟩ : c :: before' = before ∧ after' = after := by simpa using heq
      obtain ⟨htext, hother⟩ := ih hcut
      have hfirst : ¬ sep.isPrefixOf (c :: (before' ++ sep ++ other)) = true := by
        intro hprefix
        apply hnot
        rw [List.isPrefixOf_iff_prefix] at hprefix ⊢
        -- A separator at the front would lie within what both texts begin with.
        have hshort : sep <+: c :: (before' ++ sep) :=
          List.prefix_of_prefix_length_le hprefix ⟨other, by simp⟩ (by simp; omega)
        exact hshort.trans ⟨after', by simp [htext]⟩
      refine ⟨by simp [htext], ?_⟩
      rw [List.cons_append, List.cons_append, cutFirstText, if_neg hfirst, hother]
      rfl

theorem splitAll_ne_nil (sep : Char) (text : List Char) : splitAll sep text ≠ [] := by
  induction text with
  | nil => simp [splitAll]
  | cons c rest ih =>
      by_cases hc : c = sep
      · simp [splitAll, hc]
      · simp only [splitAll, hc, if_false]
        split <;> simp

end DocStore.Text

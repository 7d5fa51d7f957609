import DocStore.Sql.Pattern
import Mathlib.Data.List.Infix

/-!
# What a pattern matches

How the server reads the pattern of a LIKE.  The parts of a pattern (`Like.parts?`) are
characters that stand for themselves, single places and runs; a character behind the
escape character always stands for itself, and a pattern cannot end in the middle of
that.  A text matches when the parts fit it from its first character to its last
(`Like.fits`).

`like?_startsWith`: the pattern of all texts that start with a given one matches these
and no others.
-/

namespace DocStore.Sql

namespace Like

/-- A part of a pattern. -/
inductive Part where
  /-- The character itself. -/
  | char (c : Char)
  /-- Any one character. -/
  | one
  /-- Any run of characters, the empty one included. -/
  | run
  deriving DecidableEq

/-- A character that no escape character precedes. -/
def Part.ofChar (c : Char) : Part :=
  if c = '%' then .run else if c = '_' then .one else .char c

/-- The parts of a pattern; none if the escape character stands at its end. -/
def parts? (escape : Char) : List Char → Option (List Part)
  | [] => some []
  | [c] => if c = escape then none else some [.ofChar c]
  | c :: d :: rest =>
      if c = escape then (parts? escape rest).map (.char d :: ·)
      else (parts? escape (d :: rest)).map (.ofChar c :: ·)

/-- Whether parts fit a text as a whole. -/
def fits : List Part → List Char → Bool
  | [], text => text.isEmpty
  | .char _ :: _, [] | .one :: _, [] => false
  | .char c :: parts, d :: text => c = d && fits parts text
  | .one :: parts, _ :: text => fits parts text
  | .run :: parts, text => text.tails.any (fits parts)

/-! ## Laws -/

/-- A run takes any front of the text. -/
theorem fits_run_iff {parts : List Part} {text : List Char} :
    fits (.run :: parts) text = true ↔ ∃ front behind, text = front ++ behind ∧
      fits parts behind = true := by
  simp only [fits, List.any_eq_true, List.mem_tails]
  constructor
  · rintro ⟨behind, ⟨front, rfl⟩, hfits⟩
    exact ⟨front, behind, rfl, hfits⟩
  · rintro ⟨front, behind, rfl, hfits⟩
    exact ⟨behind, ⟨front, rfl⟩, hfits⟩

/-- A run at the end takes all that is left. -/
theorem fits_run (text : List Char) : fits [.run] text = true :=
  fits_run_iff.2 ⟨text, [], (List.append_nil text).symm, rfl⟩

/-- Characters that stand for themselves are the front of the text. -/
theorem fits_chars_iff {start : List Char} {parts : List Part} {text : List Char} :
    fits (start.map .char ++ parts) text = true ↔
      ∃ behind, text = start ++ behind ∧ fits parts behind = true := by
  induction start generalizing text with
  | nil => simp
  | cons c start ih =>
    cases text with
    | nil => simp [fits]
    | cons d text =>
      simp only [List.map_cons, List.cons_append, fits, Bool.and_eq_true, decide_eq_true_eq, ih,
        List.cons.injEq]
      constructor
      · rintro ⟨rfl, behind, rfl, hfits⟩
        exact ⟨behind, ⟨rfl, rfl⟩, hfits⟩
      · rintro ⟨behind, ⟨rfl, rfl⟩, hfits⟩
        exact ⟨rfl, behind, rfl, hfits⟩

/-- A character that has no meaning of its own stands for itself. -/
theorem Part.ofChar_of_plain {c : Char} (h : Pattern.isSpecial c = false) :
    Part.ofChar c = .char c := by
  simp only [Pattern.isSpecial, Bool.or_eq_false_iff, decide_eq_false_iff_not] at h
  rw [ofChar, if_neg h.1.1, if_neg h.1.2]

theorem parts?_cons {escape c : Char} (h : c ≠ escape) (rest : List Char) :
    parts? escape (c :: rest) = (parts? escape rest).map (.ofChar c :: ·) := by
  cases rest <;> simp [parts?, h]

/-- Escaped text is read as its characters, whatever stands behind. -/
theorem parts?_escape_append (text behind : List Char) :
    parts? '\\' (Pattern.escape text ++ behind) =
      (parts? '\\' behind).map (text.map .char ++ ·) := by
  induction text with
  | nil => simp [Pattern.escape]
  | cons c text ih =>
    rw [Pattern.escape]
    cases h : Pattern.isSpecial c with
    | true => simp [parts?, ih, Function.comp_def]
    | false =>
      have hc : c ≠ '\\' := by
        rintro rfl
        exact absurd h (by decide)
      simp [parts?_cons hc, ih, Part.ofChar_of_plain h, Function.comp_def]

end Like

open Like

/-- Whether a text matches a pattern; none if the pattern is refused. -/
def like? (escape : Char) (pattern text : List Char) : Option Bool :=
  (parts? escape pattern).map (fits · text)

/-- The pattern of the texts that start with `start` matches these and no others, whatever
characters they have. -/
theorem like?_startsWith (start text : List Char) :
    like? '\\' (Pattern.startsWith start) text = some (decide (start <+: text)) := by
  have hrun : parts? '\\' ['%'] = some [.run] := rfl
  rw [like?, Pattern.startsWith, parts?_escape_append, hrun]
  simp only [Option.map_some, Option.some.injEq]
  rw [Bool.eq_iff_iff, fits_chars_iff, decide_eq_true_eq]
  constructor
  · rintro ⟨behind, rfl, -⟩
    exact List.prefix_append start behind
  · rintro ⟨behind, rfl⟩
    exact ⟨behind, rfl, fits_run behind⟩

end DocStore.Sql

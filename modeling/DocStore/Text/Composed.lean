import DocStore.Text.Composite

/-!
# Composed text

A letter with marks can be written in several ways.  Composed text has one of them:
the marks of a letter stand in the order of their classes, and wherever one
character stands for a letter and a mark, it is used.

Unicode's normal form C is the same, but for characters that it never uses and
always replaces by others; here they stay.
-/

namespace DocStore.Text

/-! ## Syllables of Hangul -/

/-- The first syllable. -/
def firstSyllable : Nat := 0xAC00

/-- How many syllables begin with one consonant and vowel: one for each final consonant, and
one without. -/
def finalCount : Nat := 28

/-- A consonant and a vowel, or both and a final consonant, as one syllable. -/
def syllable? (a b : Nat) : Option Nat :=
  if 0x1100 ≤ a && a < 0x1113 && 0x1161 ≤ b && b < 0x1176 then
    some (firstSyllable + ((a - 0x1100) * 21 + (b - 0x1161)) * finalCount)
  else if firstSyllable ≤ a && a < 0xD7A4 && (a - firstSyllable) % finalCount = 0 &&
      0x11A7 < b && b < 0x11A7 + finalCount then
    some (a + (b - 0x11A7))
  else none

/-- The two parts of a syllable. -/
def syllableParts? (n : Nat) : Option (Nat × Nat) :=
  if firstSyllable ≤ n && n < 0xD7A4 then
    let i := n - firstSyllable
    if i % finalCount = 0 then
      some (0x1100 + i / finalCount / 21, 0x1161 + i / finalCount % 21)
    else some (n - i % finalCount, 0x11A7 + i % finalCount)
  else none

/-! ## Taking apart and joining -/

/-- The character that stands for two. -/
def joined? (a b : Char) : Option Char :=
  match syllable? a.toNat b.toNat with
  | some n => some (Char.ofNat n)
  | none =>
      composites.findSome? fun (second, firsts, wholes) =>
        if second = b.toNat then (firsts.toList.zip wholes.toList).lookup a else none

/-- The two characters that one stands for. -/
def parts? (c : Char) : Option (Char × Char) :=
  match syllableParts? c.toNat with
  | some (a, b) => some (Char.ofNat a, Char.ofNat b)
  | none =>
      composites.findSome? fun (second, firsts, wholes) =>
        ((wholes.toList.zip firsts.toList).lookup c).map fun first => (first, Char.ofNat second)

/-- How many characters one stands for at most, besides the first. -/
def maxMarks : Nat := 3

/-- A character taken apart, with at most `fuel` marks. -/
def apart : (fuel : Nat) → Char → List Char
  | 0, c => [c]
  | fuel + 1, c =>
      match parts? c with
      | none => [c]
      | some (first, second) => apart fuel first ++ [second]

/-- Puts a character behind others, which are in reverse; a mark moves in front of marks of
higher classes. -/
def place (c : Char) : List Char → List Char
  | [] => [c]
  | d :: before =>
      if combiningClass c ≠ 0 && combiningClass c < combiningClass d then d :: place c before
      else c :: d :: before

/-- A text with the marks of each letter in order. -/
def inOrder (text : List Char) : List Char :=
  (text.foldl (fun before c => place c before) []).reverse

/-- Joins a letter with what follows it, where marks that stay apart are in between, in
reverse.  A mark behind one of its own class, or of a higher one, cannot be joined. -/
def join (letter : Char) : (between : List Char) → List Char → List Char
  | between, [] => letter :: between.reverse
  | between, c :: rest =>
      let whole? :=
        if between.head?.all fun d => combiningClass d < combiningClass c then joined? letter c
        else none
      match whole? with
      | some whole => join whole between rest
      | none =>
          if combiningClass c = 0 then letter :: between.reverse ++ join c [] rest
          else join letter (c :: between) rest

/-- A text in composed form. -/
def composed (text : List Char) : List Char :=
  match inOrder (text.flatMap (apart maxMarks)) with
  | [] => []
  | c :: rest => join c [] rest

end DocStore.Text

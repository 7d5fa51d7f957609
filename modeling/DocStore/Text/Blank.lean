/-!
# White space

The characters that Unicode calls white space, and cutting them off both ends
of a text.  The class is wider than `Char.isWhitespace`: it has the vertical
tab, the next-line control, the no-break space and the typographic spaces.

What is left after cutting starts with no blank (`head_trimFront`).
-/

namespace DocStore.Text

/-- Unicode's `White_Space` property. -/
def isBlank (c : Char) : Bool :=
  let n := c.toNat
  (9 ≤ n && n ≤ 13) || n = 0x20 || n = 0x85 || n = 0xA0 || n = 0x1680 ||
    (0x2000 ≤ n && n ≤ 0x200A) || n = 0x2028 || n = 0x2029 || n = 0x202F ||
    n = 0x205F || n = 0x3000

/-- Without the blanks at the front. -/
def trimFront (text : List Char) : List Char :=
  text.dropWhile isBlank

/-- Without the blanks at the back. -/
def trimBack (text : List Char) : List Char :=
  (text.reverse.dropWhile isBlank).reverse

/-- Without the blanks at both ends. -/
def trim (text : List Char) : List Char :=
  trimBack (trimFront text)

/-- Nothing but blanks. -/
def isAllBlank (text : String) : Bool :=
  text.toList.all isBlank

theorem head_trimFront {c : Char} {text rest : List Char}
    (h : trimFront text = c :: rest) : isBlank c = false := by
  induction text with
  | nil => simp [trimFront] at h
  | cons d text ih =>
      by_cases hd : isBlank d = true
      · exact ih (by simpa [trimFront, hd] using h)
      · have : d = c := by
          simp [trimFront, hd] at h
          exact h.1
        simpa [this] using hd

end DocStore.Text

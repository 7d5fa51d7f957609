import DocStore.Text.Cut

/-!
# Punycode

A name in letters of any script, written with the letters and digits of ASCII.  The
characters that are ASCII come first.  Behind a hyphen a number for each other one
tells where it goes: the characters are put in by rising code point, and the number
counts all places and code points that are passed over.

A number is written with 36 digits, the lowest first.  Its last digit is the first
one that is below the threshold of its place, and the thresholds follow the size of
the numbers so far.
-/

namespace DocStore.Punycode

/-! ## Numbers -/

/-- The digits from zero on. -/
def digits : List Char := "abcdefghijklmnopqrstuvwxyz0123456789".toList

/-- The value of a digit. -/
def digitValue? (c : Char) : Option Nat := digits.findIdx? (· = c)

/-- The digit of a value. -/
def digit (n : Nat) : Char := digits.getD n '9'

/-- The threshold of a place; places are counted in steps of 36. -/
def threshold (bias place : Nat) : Nat := max 1 (min 26 (place - bias))

theorem threshold_pos (bias place : Nat) : 1 ≤ threshold bias place := Nat.le_max_left ..

/-- Brings the size of a number down to that of one digit, and says how many places that
takes. -/
def scale (n : Nat) : Nat × Nat :=
  if 455 < n then
    let (rest, places) := scale (n / 35)
    (rest, places + 36)
  else (n, 0)
termination_by n

/-- The bias after a number, where it was the first one or not and `count` characters are in
place. -/
def adapt (n count : Nat) (isFirst : Bool) : Nat :=
  let n := if isFirst then n / 700 else n / 2
  let (rest, places) := scale (n + n / count)
  places + 36 * rest / (rest + 38)

/-- The digits of a number from a place on. -/
def writeNumber (bias place n : Nat) : List Char :=
  let t := threshold bias place
  if n < t then [digit n]
  else
    digit (t + (n - t) % (36 - t)) :: writeNumber bias (place + 36) ((n - t) / (36 - t))
termination_by n
decreasing_by
  have := threshold_pos bias place
  exact Nat.lt_of_le_of_lt (Nat.div_le_self ..) (by omega)

/-- The number that digits start with, and what follows them; digits of this place count
`weight` times. -/
def readNumber? (bias : Nat) : (place weight : Nat) → List Char → Option (Nat × List Char)
  | _, _, [] => none
  | place, weight, c :: rest => do
      let d ← digitValue? c
      let t := threshold bias place
      if d < t then some (d * weight, rest)
      else
        let (n, rest) ← readNumber? bias (place + 36) (weight * (36 - t)) rest
        some (d * weight + n, rest)

/-! ## Names -/

/-- Where writing a name stands. -/
structure Writing where
  written : List Char
  /-- Places and code points passed over since the last number. -/
  passed : Nat
  bias : Nat
  /-- How many characters are in place. -/
  count : Nat

/-- Passes one character of the name in the round for code point `n`. -/
def Writing.pass (basic n : Nat) (w : Writing) (c : Char) : Writing :=
  if c.toNat < n then { w with passed := w.passed + 1 }
  else if c.toNat = n then
    { written := w.written ++ writeNumber w.bias 36 w.passed
      passed := 0
      bias := adapt w.passed (w.count + 1) (w.count = basic)
      count := w.count + 1 }
  else w

/-- Writes the rounds for the code points of a list; the round for `next` would come next. -/
def Writing.rounds (name : List Char) (basic : Nat) :
    (next : Nat) → List Nat → Writing → Writing
  | _, [], w => w
  | next, n :: more, w =>
      let w := { w with passed := w.passed + (n - next) * (w.count + 1) }
      let w := name.foldl (Writing.pass basic n) w
      Writing.rounds name basic (n + 1) more { w with passed := w.passed + 1 }

/-- A name in ASCII. -/
def encode (name : List Char) : List Char :=
  let basic := name.filter fun c => c.toNat < 0x80
  let others := ((name.map Char.toNat).filter (0x80 ≤ ·)).mergeSort.eraseDups
  let start : Writing := ⟨[], 0, 72, basic.length⟩
  let numbers := (Writing.rounds name basic.length 0x80 others start).written
  if basic.isEmpty then numbers else basic ++ '-' :: numbers

/-- Puts at most `fuel` characters into a name, where `n` is the code point and `place` the
place reached so far. -/
def insertAll? (name : List Char) (n place bias : Nat) :
    (fuel : Nat) → List Char → Option (List Char)
  | _, [] => some name
  | 0, _ => none
  | fuel + 1, text => do
      let (passed, rest) ← readNumber? bias 36 1 text
      let count := name.length + 1
      let n' := n + (place + passed) / count
      let place' := (place + passed) % count
      guard n'.isValidChar
      insertAll? (name.insertIdx place' (Char.ofNat n')) n' (place' + 1)
        (adapt passed count (place = 0)) fuel rest

/-- The name behind a text in ASCII. -/
def decode? (text : List Char) : Option (List Char) :=
  let (basic, numbers) :=
    match Text.cutLast '-' text with
    | some (c :: basic, numbers) => (c :: basic, numbers)
    | _ => ([], text)
  insertAll? basic 0x80 0 72 numbers.length numbers

end DocStore.Punycode

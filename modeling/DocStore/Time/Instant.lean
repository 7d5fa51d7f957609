import DocStore.Json.Decode
import DocStore.Text.Blank
import DocStore.Time.Calendar

/-!
# Instants

A point in time in UTC, and its RFC 3339 text.  Years outside 0 to 9999 are
written with a sign.  A leap second is the second after the last one of a
minute: its nanoseconds go on above `10^9`.

The reader is lenient as to form: blanks may stand before each part of the text,
the date and the time may be separated by a blank, and the offset by blanks and
colons.  Offsets are taken off, so that an instant is always in UTC.
-/

namespace DocStore

/-- A point in time. -/
structure Instant where
  /-- Seconds since the start of 1970. -/
  seconds : Int
  /-- Nanoseconds of the second, below `2 · 10^9`; `10^9` and more in a leap second. -/
  nanos : Nat
  deriving DecidableEq, Inhabited

namespace Instant

open Calendar (Date dayNumber dateOf)

/-- Seconds in a day. -/
def perDay : Nat := 86400

/-- The first and the last year that have instants. -/
def firstYear : Int := -262143

def lastYear : Int := 262142

/-- A leap second may only follow the last second of a minute. -/
def isLeapAllowed (second nanos : Nat) : Bool :=
  nanos < 1000000000 || (second % 60 = 59 && nanos < 2000000000)

/-- The instant of a count of seconds and nanoseconds, unless it is out of range. -/
def ofParts? (seconds : Int) (nanos : Nat) : Option Instant :=
  let day := seconds / (perDay : Int)
  let second := (seconds % (perDay : Int)).toNat
  let year := (dateOf day).year
  if firstYear ≤ year ∧ year ≤ lastYear ∧ isLeapAllowed second nanos then
    some ⟨seconds, nanos⟩
  else none

/-- The instant a number of microseconds after the start of 1970. -/
def ofMicros (n : Int) : Instant := ⟨n / 1000000, (n % 1000000).toNat * 1000⟩

/-! ## Writing -/

/-- A number with at least `width` digits. -/
def padded (width n : Nat) : String :=
  let digits := Nat.toDigits 10 n
  String.ofList (List.replicate (width - digits.length) '0' ++ digits)

/-- Four digits from 0 to 9999, a sign and at least four digits elsewhere. -/
def yearText (year : Int) : String :=
  if 0 ≤ year ∧ year ≤ 9999 then padded 4 year.toNat
  else (if year < 0 then "-" else "+") ++ padded 4 year.natAbs

/-- Date and time with `places` digits after the point. -/
def textWith (places : Nat) (at' : Instant) : String :=
  let date := dateOf (at'.seconds / (perDay : Int))
  let second := (at'.seconds % (perDay : Int)).toNat
  let leap := at'.nanos / 1000000000
  let part := at'.nanos % 1000000000 / Decimal.tenTo (9 - places)
  yearText date.year ++ "-" ++ padded 2 date.month ++ "-" ++ padded 2 date.day ++ "T" ++
    padded 2 (second / 3600) ++ ":" ++ padded 2 (second / 60 % 60) ++ ":" ++
    padded 2 (second % 60 + leap) ++
    (if places = 0 then "" else "." ++ padded places part) ++ "Z"

/-- The text with milliseconds, what is finer being cut off. -/
def millisText (at' : Instant) : String := textWith 3 at'

/-- The text with 0, 3, 6 or 9 places, as few as hold the instant. -/
def text (at' : Instant) : String :=
  let part := at'.nanos % 1000000000
  let places :=
    if part = 0 then 0 else if part % 1000000 = 0 then 3 else if part % 1000 = 0 then 6 else 9
  textWith places at'

/-! ## Reading -/

/-- What can be wrong with the text of an instant. -/
inductive TextFault where
  | invalid
  | tooShort
  | tooLong
  | outOfRange
  | impossible
  deriving DecidableEq, Repr

/-- The fault in words. -/
def TextFault.message : TextFault → String
  | invalid => "input contains invalid characters"
  | tooShort => "premature end of input"
  | tooLong => "trailing input"
  | outOfRange => "input is out of range"
  | impossible => "no possible date and time matching input"

open Text (trimFront isBlank)

/-- Reads up to `most` digits, at least one, as a number that fits 64 bits. -/
def readDigits (most : Nat) (text : List Char) : Except TextFault (Nat × List Char) :=
  let digits := (text.takeWhile Char.isDigit).take most
  if text.isEmpty then .error .tooShort
  else if digits.isEmpty then .error .invalid
  else
    let n := digits.foldl (fun n c => 10 * n + (c.toNat - '0'.toNat)) 0
    if 0x8000000000000000 ≤ n then .error .outOfRange else .ok (n, text.drop digits.length)

/-- A number of two digits at most, within bounds. -/
def readPart (low high : Nat) (text : List Char) : Except TextFault (Nat × List Char) := do
  let (n, rest) ← readDigits 2 (trimFront text)
  if low ≤ n ∧ n ≤ high then .ok (n, rest) else .error .outOfRange

/-- The year: four digits at most, or any number after a sign. -/
def readYear (text : List Char) : Except TextFault (Int × List Char) := do
  let (year, rest) ←
    match trimFront text with
    | '-' :: rest => do
        let (n, rest) ← readDigits rest.length rest
        .ok (-(n : Int), rest)
    | '+' :: rest => do
        let (n, rest) ← readDigits rest.length rest
        .ok ((n : Int), rest)
    | text => do
        let (n, rest) ← readDigits 4 text
        .ok ((n : Int), rest)
  if -0x80000000 ≤ year ∧ year < 0x80000000 then .ok (year, rest) else .error .outOfRange

/-- Takes one character off the front. -/
def expect (c : Char) : List Char → Except TextFault (List Char)
  | [] => .error .tooShort
  | d :: rest => if d = c then .ok rest else .error .invalid

/-- The fraction of a second in nanoseconds, places beyond the ninth being skipped. -/
def readFraction (text : List Char) : Except TextFault (Nat × List Char) :=
  match text with
  | '.' :: rest => do
      let (n, after) ← readDigits 9 rest
      let places := rest.length - after.length
      .ok (n * Decimal.tenTo (9 - places), after.dropWhile Char.isDigit)
  | text => .ok (0, text)

/-- Two digits of an offset. -/
def readPair (text : List Char) : Except TextFault (Char × Char × List Char) :=
  match text with
  | a :: b :: rest => .ok (a, b, rest)
  | [a] => if 1 < a.utf8Size then .error .invalid else .error .tooShort
  | [] => .error .tooShort

/-- The offset from UTC in seconds: `Z`, `UTC`, or a sign, hours and minutes. -/
def readOffset (text : List Char) : Except TextFault (Int × List Char) :=
  match text with
  | 'Z' :: rest | 'z' :: rest => .ok (0, rest)
  | u :: t :: c :: rest =>
      if u.toUpper = 'U' ∧ t.toUpper = 'T' ∧ c.toUpper = 'C' then .ok (0, rest)
      else signed text
  | text => signed text
where
  signed (text : List Char) : Except TextFault (Int × List Char) := do
    let (sign, rest) ←
      match text with
      | [] => .error .tooShort
      | c :: rest =>
          if c = '+' then .ok ((1 : Int), rest)
          else if c = '-' ∨ c = '\u2212' then .ok (-1, rest)
          else .error .invalid
    let (h1, h2, rest) ← readPair rest
    if !(h1.isDigit && h2.isDigit) then .error .invalid
    else
      let hours := (h1.toNat - '0'.toNat) * 10 + (h2.toNat - '0'.toNat)
      let rest := rest.dropWhile fun c => c = ':' || isBlank c
      let (m1, m2, rest) ← readPair rest
      if !(m1.isDigit && m2.isDigit) then .error .invalid
      else if '6' ≤ m1 then .error .outOfRange
      else
        let minutes := (m1.toNat - '0'.toNat) * 10 + (m2.toNat - '0'.toNat)
        .ok (sign * (hours * 3600 + minutes * 60 : Nat), rest)

/-- Reads the text of an instant. -/
def read (input : String) : Except TextFault Instant := do
  let (year, rest) ← readYear input.toList
  let rest ← expect '-' (trimFront rest)
  let (month, rest) ← readPart 1 12 rest
  let rest ← expect '-' (trimFront rest)
  let (day, rest) ← readPart 1 31 rest
  let rest ←
    match rest with
    | [] => .error .tooShort
    | c :: rest => if c = 'T' ∨ c = 't' ∨ c = ' ' then .ok rest else .error .invalid
  let (hour, rest) ← readPart 0 23 rest
  let rest ← expect ':' (trimFront rest)
  let (minute, rest) ← readPart 0 59 rest
  let rest ← expect ':' (trimFront rest)
  let (second, rest) ← readPart 0 60 rest
  let (nanos, rest) ← readFraction rest
  let (offset, rest) ← readOffset (trimFront rest)
  if !(trimFront rest).isEmpty then .error .tooLong
  else
    let date : Date := ⟨year, month, day⟩
    if !(date.isValid && firstYear ≤ year && year ≤ lastYear) then .error .outOfRange
    else if offset.natAbs ≥ perDay then .error .outOfRange
    else
      let (second, nanos) := if second = 60 then (59, nanos + 1000000000) else (second, nanos)
      let local' := dayNumber date * (perDay : Int) + (hour * 3600 + minute * 60 + second : Nat)
      let seconds := local' - offset
      let utcYear := (dateOf (seconds / (perDay : Int))).year
      if firstYear ≤ utcYear ∧ utcYear ≤ lastYear then .ok ⟨seconds, nanos⟩
      else .error .impossible

/-- As a string. -/
def toJson (at' : Instant) : Json := .string at'.text

/-- Reads an instant from a string. -/
def decode : Decoder Instant
  | .string s =>
      match read s with
      | .ok at' => .ok at'
      | .error fault => .error (.other fault.message)
  | found => .error (.wrongType found "an RFC 3339 formatted date and time string")

end Instant

end DocStore

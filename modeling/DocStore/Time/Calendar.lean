/-!
# The calendar

Days are counted from the first of January 1970 in the Gregorian calendar,
extended to all years; the year 0 is the one before the year 1.
`dateOf` and `dayNumber` go both ways between a count and a date.
-/

namespace DocStore.Calendar

/-- A day of the calendar. -/
structure Date where
  year : Int
  month : Nat
  day : Nat
  deriving DecidableEq, Inhabited

def isLeap (year : Int) : Bool :=
  year % 4 = 0 && (year % 100 ≠ 0 || year % 400 = 0)

/-- The lengths of the months. -/
def monthLengths (leap : Bool) : List Nat :=
  [31, if leap then 29 else 28, 31, 30, 31, 30, 31, 31, 30, 31, 30, 31]

/-- Days from the first of January of year 1 to that of `year`. -/
def daysBefore (year : Int) : Int :=
  let y := year - 1
  365 * y + y / 4 - y / 100 + y / 400

/-- Days from the first of January of year 1 to the first of January 1970. -/
def epoch : Int := 719162

/-- Whether the calendar has this date. -/
def Date.isValid (date : Date) : Bool :=
  1 ≤ date.month && date.month ≤ 12 && 1 ≤ date.day &&
    date.day ≤ ((monthLengths (isLeap date.year))[date.month - 1]?).getD 0

/-- The number of a date. -/
def dayNumber (date : Date) : Int :=
  let months := (monthLengths (isLeap date.year)).take (date.month - 1)
  daysBefore date.year - epoch + (months.foldl (· + ·) 0 : Nat) + date.day - 1

/-- The month and day of a day of the year, both counted from one. -/
def monthOf : (lengths : List Nat) → (month rest : Nat) → Nat × Nat
  | [], month, rest => (month, rest + 1)
  | length :: lengths, month, rest =>
      if rest < length then (month, rest + 1) else monthOf lengths (month + 1) (rest - length)

/-- The date of a number.  Four hundred years have 146097 days, a century of them 36524 or
one more, four years 1461 or one less. -/
def dateOf (n : Int) : Date :=
  let day := n + epoch
  let rest := (day % 146097).toNat
  let centuries := min 3 (rest / 36524)
  let rest := rest - centuries * 36524
  let quads := rest / 1461
  let rest := rest - quads * 1461
  let years := min 3 (rest / 365)
  let rest := rest - years * 365
  let year : Int := 400 * (day / 146097) + (100 * centuries + 4 * quads + years + 1 : Nat)
  let (month, dayOfMonth) := monthOf (monthLengths (isLeap year)) 1 rest
  ⟨year, month, dayOfMonth⟩

end DocStore.Calendar

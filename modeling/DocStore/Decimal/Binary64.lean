import DocStore.Decimal.Power

/-!
# Binary floating point, 64 bits

Finite numbers in the 64-bit binary interchange format, kept as their bits and
computed with exactly: a result is the rational number that the operation
asks for, rounded once to the nearest number of the format, a tie going to the
even neighbour.  Infinities and NaNs do not occur; an operation whose result is
too large has none.

A number `x` stands for `(-1)^s · m · 2^q` with `(m, q) = x.significand`.
-/

namespace DocStore.Decimal

/-- The bits of a finite number: sign, eleven bits of exponent, 52 of fraction. -/
structure Binary64 where
  bits : UInt64
  deriving DecidableEq, Inhabited

namespace Binary64

/-- The numbers of the format whose exponent field is this or more are not finite. -/
def exponentLimit : Nat := 0x7FF

def isNegative (x : Binary64) : Bool := x.bits.toNat / 0x8000000000000000 = 1

/-- The place in front of the fraction, whose 52 bits are below it. -/
def leadingBit : Nat := 0x10000000000000

def exponentField (x : Binary64) : Nat := x.bits.toNat / leadingBit % 0x800

def fraction (x : Binary64) : Nat := x.bits.toNat % leadingBit

/-- The magnitude as `m · 2^q`, `q` being the least the format has for it. -/
def significand (x : Binary64) : Nat × Int :=
  if x.exponentField = 0 then (x.fraction, -1074)
  else (leadingBit + x.fraction, x.exponentField - 1075)

def isZero (x : Binary64) : Bool := x.exponentField = 0 && x.fraction = 0

/-- The magnitude as a quotient of natural numbers. -/
def magnitude (x : Binary64) : Nat × Nat :=
  let (m, q) := x.significand
  (m * twoTo q.toNat, twoTo (-q).toNat)

/-- The same number with the opposite sign. -/
def negate (x : Binary64) : Binary64 :=
  ⟨x.bits ^^^ 0x8000000000000000⟩

def zero : Binary64 := ⟨0⟩

/-- The zero with a minus sign. -/
def negativeZero : Binary64 := zero.negate

/-- `num / den` to the nearest integer, a tie to the even one. -/
def roundQuotient (num den : Nat) : Nat :=
  let whole := num / den
  let rest := 2 * (num % den)
  if rest < den then whole
  else if den < rest then whole + 1
  else whole + whole % 2

/-- The exponent `q` for which `num / den` has its 53 leading bits at `2^q` and above,
but no less than the least exponent of the format. -/
def unitExponent (num den : Nat) : Int :=
  let guess : Int := (num.log2 : Int) - den.log2 - 52
  let scaled := num * twoTo (-guess).toNat / (den * twoTo guess.toNat)
  let exact :=
    if scaled < leadingBit then guess - 1
    else if scaled < 2 * leadingBit then guess
    else guess + 1
  max exact (-1074)

/-- The non-negative number nearest to `num / den`; none when it is too large. -/
def ofQuotient (num den : Nat) : Option Binary64 :=
  if num = 0 then some zero
  else
    let q := unitExponent num den
    let m := roundQuotient (num * twoTo (-q).toNat) (den * twoTo q.toNat)
    -- A significand below 2^52 is subnormal and one of 2^53 carries: in both
    -- cases the sum below is the right code.
    let code := (q + 1074).toNat * leadingBit + m
    if code < exponentLimit * leadingBit then some ⟨UInt64.ofNat code⟩ else none

/-- The number nearest to a natural number. -/
def ofNat (n : Nat) : Option Binary64 := ofQuotient n 1

/-- The number nearest to the magnitude times `10^n`, itself rounded first. -/
def timesPowerOfTen (x : Binary64) (n : Nat) : Option Binary64 := do
  let power ← ofNat (tenTo n)
  let (a, b) := x.magnitude
  let (c, d) := power.magnitude
  ofQuotient (a * c) (b * d)

/-- The number nearest to the magnitude over `10^n`, itself rounded first. -/
def overPowerOfTen (x : Binary64) (n : Nat) : Option Binary64 := do
  let power ← ofNat (tenTo n)
  let (a, b) := x.magnitude
  let (c, d) := power.magnitude
  ofQuotient (a * d) (b * c)

/-- The largest power of ten that is applied in one step. -/
def powerLimit : Nat := 308

/-- Divides by a power of ten, `10^308` at a time. -/
def scaledDown (x : Binary64) (n : Nat) : Option Binary64 :=
  if n ≤ powerLimit then x.overPowerOfTen n
  else if x.isZero then some x
  else (x.overPowerOfTen powerLimit).bind (scaledDown · (n - powerLimit))
termination_by n
decreasing_by simp [powerLimit] at *; omega

/-- `m · 10^e` by a conversion, then one multiplication or successive divisions.
The result is the nearest number wherever those steps are exact, and within a few
units of the last place elsewhere. -/
def ofDecimal (m : Nat) (e : Int) : Option Binary64 := do
  let x ← ofNat m
  if e < 0 then x.scaledDown (-e).toNat
  else if e.toNat ≤ powerLimit then x.timesPowerOfTen e.toNat
  else if x.isZero then some x
  else none

end Binary64

end DocStore.Decimal

import DocStore.Decimal.Binary64

/-!
# The fewest digits that read back

Every real number between two midpoints rounds to the same number of the
format.  Among the decimals in that interval, the one with the fewest digits is
written; of several with equally many the nearest to the number, a tie going to
the even last digit.

A grid of `k` digits has at most two points next to the number, the one below
and the one above, so the search tries these two for `k = 1, 2, …, 17`.
-/

namespace DocStore.Decimal

/-- A positive decimal `d₁.d₂d₃… · 10^exponent`, the first digit not zero. -/
structure Digits where
  digits : List Char
  exponent : Int
  deriving DecidableEq, Inhabited

/-- The reals that round to one number, over a common denominator. -/
structure Interval where
  /-- The least of them. -/
  low : Nat
  /-- The number itself. -/
  mid : Nat
  /-- The greatest of them. -/
  high : Nat
  denominator : Nat
  /-- True when the ends belong to it. -/
  closed : Bool

namespace Interval

/-- The reals that round to `x`: up to half of the gap to each neighbour.  The gap below
is half as wide at a power of two. -/
def of (x : Binary64) : Interval :=
  let (m, q) := x.significand
  let below := if m = Binary64.leadingBit ∧ -1074 < q then 1 else 2
  let up := twoTo (q - 2).toNat
  { low := (4 * m - below) * up
    mid := 4 * m * up
    high := (4 * m + 2) * up
    denominator := twoTo (2 - q).toNat
    closed := m % 2 = 0 }

/-- Whether `num / den` lies in the interval. -/
def contains (i : Interval) (num den : Nat) : Bool :=
  let value := num * i.denominator
  if i.closed then i.low * den ≤ value && value ≤ i.high * den
  else i.low * den < value && value < i.high * den

/-- The power of ten of the first digit. -/
def leading (i : Interval) : Int :=
  ((Nat.toDigits 10 (i.mid * tenTo 330 / i.denominator)).length : Int) - 331

/-- The point of the grid with `k` digits that is nearest among those in the interval, as
a multiple of the grid's unit. -/
def onGrid (i : Interval) (k : Nat) : Option Nat :=
  let unit := i.leading - (k : Int) + 1
  let up := tenTo unit.toNat
  let down := tenTo (-unit).toNat
  let below := i.mid * down / (i.denominator * up)
  let has (n : Nat) := i.contains (n * up) down
  -- Twice the distance from the point below, against one unit.
  let rest := 2 * (i.mid * down - below * (i.denominator * up))
  let width := i.denominator * up
  match has below, has (below + 1) with
  | true, true =>
      if rest < width then some below
      else if width < rest then some (below + 1)
      else some (below + below % 2)
  | true, false => some below
  | false, true => some (below + 1)
  | false, false => none

end Interval

/-- Without the zeros at the end. -/
def dropTrailingZeros (digits : List Char) : List Char :=
  (digits.reverse.dropWhile (· = '0')).reverse

/-- The shortest decimal for a number that is not zero. -/
def shortest (x : Binary64) : Digits :=
  let i := Interval.of x
  let found := (List.range 17).findSome? fun k => (i.onGrid (k + 1)).map fun n => (k + 1, n)
  match found with
  | some (k, n) =>
      let digits := Nat.toDigits 10 n
      ⟨dropTrailingZeros digits, i.leading + digits.length - k⟩
  | none => ⟨['0'], 0⟩

/-- How a decimal is laid out. -/
structure Layout where
  /-- Below this power of ten the exponent is written. -/
  least : Int
  /-- Above this power of ten the exponent is written. -/
  most : Int

/-- Digits with the point in its place, always with a digit on either side of it. -/
def positional (d : Digits) : List Char :=
  if d.exponent < 0 then
    "0.".toList ++ List.replicate (-d.exponent - 1).toNat '0' ++ d.digits
  else
    let places := d.exponent.toNat + 1
    let whole := d.digits.take places
    let rest := d.digits.drop places
    whole ++ List.replicate (places - whole.length) '0' ++
      '.' :: (if rest.isEmpty then ['0'] else rest)

/-- Digits with the point after the first and the power of ten behind them; the exponent
always has a sign. -/
def scientific (d : Digits) : List Char :=
  let head := d.digits.take 1
  let rest := d.digits.drop 1
  let sign := if d.exponent < 0 then '-' else '+'
  head ++ (if rest.isEmpty then [] else '.' :: rest) ++ 'e' :: sign ::
    Nat.toDigits 10 d.exponent.natAbs

/-- The text of a number under a layout. -/
def text (layout : Layout) (x : Binary64) : String :=
  let sign := if x.isNegative then ['-'] else []
  let body :=
    if x.isZero then "0.0".toList
    else
      let d := shortest x
      if layout.least ≤ d.exponent ∧ d.exponent ≤ layout.most then positional d
      else scientific d
  String.ofList (sign ++ body)

end DocStore.Decimal

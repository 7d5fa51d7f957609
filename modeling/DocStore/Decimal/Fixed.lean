import DocStore.Decimal.Binary64

/-!
# Fixed places

A number written out with a fixed number of places behind the point.  The last
place is rounded, a tie going to the even digit.
-/

namespace DocStore.Decimal

/-- A number with so many places. -/
def fixed (places : Nat) (x : Binary64) : String :=
  let (num, den) := x.magnitude
  let units := Binary64.roundQuotient (num * tenTo places) den
  let digits := Nat.toDigits 10 (units % tenTo places)
  let fraction := List.replicate (places - digits.length) '0' ++ digits
  (if x.isNegative then "-" else "") ++ toString (units / tenTo places) ++
    (if places = 0 then "" else "." ++ String.ofList fraction)

end DocStore.Decimal

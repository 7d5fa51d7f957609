/-!
# Powers of two and ten
-/

namespace DocStore.Decimal

/-- The `n`-th power of two. -/
def twoTo (n : Nat) : Nat := 1 <<< n

/-- The `n`-th power of ten. -/
def tenTo (n : Nat) : Nat := Nat.pow 10 n

end DocStore.Decimal

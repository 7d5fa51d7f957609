import DocStore.Decimal.Fixed
import DocStore.Json.Value

/-!
# Statistics of a pool
-/

namespace DocStore

open Decimal (Binary64)

/-- What a pool did so far, and what it has now. -/
structure PoolStats where
  poolsCreated : Nat
  totalAcquired : Nat
  totalReleased : Nat
  pinnedReuse : Nat
  currentSize : Nat
  idle : Nat
  maxSize : Nat
  minSize : Nat
  deriving DecidableEq, Inhabited

namespace PoolStats

/-- The share of connections in use, in per cent: a quotient rounded to a floating-point
number, and that times a hundred rounded again.  A pool of no connections is not used. -/
def utilization (s : PoolStats) : Binary64 :=
  if s.maxSize = 0 then .zero
  else
    ((Binary64.ofQuotient (s.currentSize - s.idle) s.maxSize).bind
      (·.timesPowerOfTen 2)).getD .zero

def toJson (s : PoolStats) : Json :=
  .ofMembers [("pools_created", .ofNat s.poolsCreated),
    ("total_acquired", .ofNat s.totalAcquired), ("total_released", .ofNat s.totalReleased),
    ("pinned_reuse", .ofNat s.pinnedReuse), ("current_size", .ofNat s.currentSize),
    ("idle", .ofNat s.idle), ("max_size", .ofNat s.maxSize), ("min_size", .ofNat s.minSize)]

end PoolStats

end DocStore

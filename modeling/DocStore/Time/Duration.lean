import DocStore.Json.Decode

/-!
# Durations

A length of time in whole seconds and nanoseconds.  It is shown in the largest
unit that leaves no zero before the point, with as many places as it needs:
`30s`, `1.5s`, `80ms`, `0ns`.
-/

namespace DocStore

/-- A non-negative length of time. -/
structure Duration where
  seconds : Nat
  /-- Less than `10^9`. -/
  nanos : Nat
  deriving DecidableEq, Inhabited

namespace Duration

/-- Nanoseconds in a second. -/
def perSecond : Nat := 1000000000

def zero : Duration := ⟨0, 0⟩

def ofSeconds (n : Nat) : Duration := ⟨n, 0⟩

/-- A number of milliseconds. -/
def ofMillis (n : Nat) : Duration := ⟨n / 1000, n % 1000 * 1000000⟩

/-- The whole length in nanoseconds. -/
def inNanos (d : Duration) : Nat := d.seconds * perSecond + d.nanos

/-- Whole milliseconds, rounded down. -/
def toMillis (d : Duration) : Nat := d.seconds * 1000 + d.nanos / 1000000

/-- Whole milliseconds, rounded up. -/
def toMillisUp (d : Duration) : Nat := d.seconds * 1000 + (d.nanos + 999999) / 1000000

/-- Whole milliseconds are not rounded. -/
theorem toMillisUp_ofMillis (n : Nat) : (ofMillis n).toMillisUp = n := by
  simp only [ofMillis, toMillisUp]
  omega

def isZero (d : Duration) : Bool := d.seconds = 0 && d.nanos = 0

/-- `part` of `10^places` as the digits after a point, without zeros at the end; nothing
when it is zero. -/
def fractionText (places part : Nat) : List Char :=
  let digits := Nat.toDigits 10 part
  let padded := List.replicate (places - digits.length) '0' ++ digits
  let kept := (padded.reverse.dropWhile (· = '0')).reverse
  if kept.isEmpty then [] else '.' :: kept

/-- The duration as messages show it. -/
def shown (d : Duration) : String :=
  let text (whole places part : Nat) (unit : String) : String :=
    toString whole ++ String.ofList (fractionText places part) ++ unit
  if 0 < d.seconds then text d.seconds 9 d.nanos "s"
  else if 1000000 ≤ d.nanos then text (d.nanos / 1000000) 6 (d.nanos % 1000000) "ms"
  else if 1000 ≤ d.nanos then text (d.nanos / 1000) 3 (d.nanos % 1000) "µs"
  else text d.nanos 0 0 "ns"

/-- As a record of seconds and nanoseconds. -/
def toJson (d : Duration) : Json :=
  .ofMembers [("secs", .ofNat d.seconds), ("nanos", .ofNat d.nanos)]

/-- The duration of both parts together; nanoseconds of a second or more carry over.  None
when the seconds do not fit 64 bits. -/
def ofParts (seconds nanos : Nat) : Option Duration :=
  let total := seconds + nanos / perSecond
  if total < 0x10000000000000000 then some ⟨total, nanos % perSecond⟩ else none

/-- Reads a duration back.  No other member is allowed beside the two. -/
def decode : Decoder Duration := fun value => do
  let fields : Fields (Nat × Nat) :=
    .seq (.map Prod.mk (.required "secs" (.unsigned 64))) (.required "nanos" (.unsigned 32))
  let parts (found : Nat × Nat) : Except Mismatch Duration :=
    match ofParts found.1 found.2 with
    | some d => .ok d
    | none => .error (.other "overflow deserializing Duration")
  let wanted := "struct Duration"
  match value with
  | .array items =>
      let (found, _, rest) ← fields.ofItems (.wrongCount · wanted) 0 items
      let d ← parts found
      if rest.isEmpty then .ok d
      else .error (.wrongCount items.length "fewer elements in array")
  | value => do
      let found ← fields.decode wanted wanted true value
      parts found

end Duration

end DocStore

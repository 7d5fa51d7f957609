import DocStore.Text.Cut
import DocStore.Text.Hex

/-!
# IPv4 addresses

Four numbers below 256 with points between them.  Hosts are read more freely: a
number can be octal, behind a zero, or hexadecimal, behind `0x`; there can be
fewer than four, the last of which then stands for all that are missing; and a
point may follow.
-/

namespace DocStore.Ipv4

/-- A part of an address: a number below 256 without zeros in front. -/
def byte? (text : List Char) : Option Nat := do
  guard (1 ≤ text.length ∧ text.length ≤ 3 ∧ text.all Char.isDigit)
  guard (text.length = 1 ∨ text.head? ≠ some '0')
  let n := text.foldl (fun n c => 10 * n + (c.toNat - '0'.toNat)) 0
  guard (n < 256)
  some n

/-- The four parts of an address. -/
def parse? (text : List Char) : Option (List Nat) := do
  let parts ← (Text.splitAll '.' text).mapM byte?
  guard (parts.length = 4)
  some parts

/-! ## Hosts -/

/-- Digits to a base. -/
def digits? (base : Nat) (text : List Char) : Option Nat :=
  text.foldlM
    (fun n c => do
      let d ← Text.hexValue? c
      guard (d < base)
      some (base * n + d))
    0

/-- A number in decimal, octal or hexadecimal; it can be that nothing follows `0x`. -/
def number? : List Char → Option Nat
  | [] => none
  | '0' :: 'x' :: rest | '0' :: 'X' :: rest => digits? 16 rest
  | '0' :: rest => digits? 8 rest
  | text => digits? 10 text

/-- The parts of a host; the point at its end begins no part. -/
def parts (host : List Char) : List (List Char) :=
  let all := Text.splitAll '.' host
  if 1 < all.length && all.getLast? = some [] then all.dropLast else all

/-- A host that is meant to be an address: its last part is a number, or looks like one. -/
def isMeant (host : List Char) : Bool :=
  match (parts host).getLast? with
  | none => false
  | some last => (!last.isEmpty && last.all Char.isDigit) || (number? last).isSome

/-- The address of a host, as one number. -/
def ofHost? (host : List Char) : Option Nat := do
  let numbers ← (parts host).mapM number?
  guard (numbers.length ≤ 4)
  let last ← numbers.getLast?
  let front := numbers.dropLast
  guard (front.all (· < 256))
  let room := (List.replicate (4 - front.length) 256).foldl (· * ·) 1
  guard (last < room)
  some (front.foldl (fun n part => 256 * n + part) 0 * room + last)

/-- The text of an address. -/
def text (address : Nat) : String :=
  ".".intercalate ([24, 16, 8, 0].map fun shift => toString ((address >>> shift) % 256))

end DocStore.Ipv4

import DocStore.Url.Ipv4

/-!
# IPv6 addresses

Eight groups of 16 bits in hexadecimal.  Two colons stand for as many groups of
zeros as are missing, and the last two groups can be written as an IPv4 address.
An address is written with its longest run of zeros, if longer than one group,
left out.
-/

namespace DocStore.Ipv6

/-- A group of one to four digits. -/
def group? (text : List Char) : Option Nat := do
  guard (1 ≤ text.length ∧ text.length ≤ 4)
  let digits ← text.mapM Text.hexValue?
  some (digits.foldl (fun n d => 16 * n + d) 0)

/-- The groups of a text, the last of which may be an IPv4 address. -/
def groups? (text : List Char) : Option (List Nat) :=
  if text.isEmpty then some []
  else do
    let parts := Text.splitAll ':' text
    let last := parts.getLast?.getD []
    if last.contains '.' then
      let before ← parts.dropLast.mapM group?
      let bytes ← Ipv4.parse? last
      some (before ++
        [256 * bytes.getD 0 0 + bytes.getD 1 0, 256 * bytes.getD 2 0 + bytes.getD 3 0])
    else parts.mapM group?

/-- The eight groups of an address. -/
def parse? (text : List Char) : Option (List Nat) :=
  match Text.cutFirstText [':', ':'] text with
  | none => do
      let groups ← groups? text
      guard (groups.length = 8)
      some groups
  | some (before, after) => do
      guard (!before.contains '.')
      let front ← groups? before
      let back ← groups? after
      guard (front.length + back.length < 8)
      some (front ++ List.replicate (8 - front.length - back.length) 0 ++ back)

/-- How many zeros a list starts with. -/
def zeros (groups : List Nat) : Nat := (groups.takeWhile (· = 0)).length

/-- The longest run of zeros, the first of several: where it starts and how long it is. -/
def longestRun (groups : List Nat) : Nat × Nat :=
  (List.range groups.length).foldl
    (fun best i =>
      let n := zeros (groups.drop i)
      if best.2 < n then (i, n) else best)
    (0, 0)

/-- The text of groups, with colons between them. -/
def joined (groups : List Nat) : String :=
  ":".intercalate (groups.map fun n => String.ofList (Text.hexDigits n))

/-- The text of an address. -/
def text (groups : List Nat) : String :=
  let (start, count) := longestRun groups
  if 1 < count then
    joined (groups.take start) ++ "::" ++ joined (groups.drop (start + count))
  else joined groups

end DocStore.Ipv6

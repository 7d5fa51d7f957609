import DocStore.Json.Value

/-!
# Compact JSON text

Values are written without blanks.  In strings the double quote, the backslash
and the controls below the space are escaped and everything else stands for
itself.  Integers are written in decimal; a floating-point number has the
fewest digits that read back and always a point or an exponent.
-/

namespace DocStore.Json

open Decimal (Binary64 Layout)

/-- Floating-point numbers from `0.00001` to below `10^16` are written out, others with
an exponent. -/
def numberLayout : Layout := ⟨-5, 15⟩

/-- The text of a floating-point number. -/
def realText (x : Binary64) : String := Decimal.text numberLayout x

/-- The text of a number. -/
def numberText : Number → String
  | .integer n => toString n
  | .real x => realText x

/-- Two lower-case hexadecimal digits. -/
def hexPair (n : Nat) : List Char :=
  [Nat.digitChar (n / 16 % 16), Nat.digitChar (n % 16)]

/-- One character inside a string. -/
def escapeChar (c : Char) : List Char :=
  if c = '"' then ['\\', '"']
  else if c = '\\' then ['\\', '\\']
  else if c.toNat = 8 then ['\\', 'b']
  else if c = '\t' then ['\\', 't']
  else if c = '\n' then ['\\', 'n']
  else if c.toNat = 12 then ['\\', 'f']
  else if c = '\r' then ['\\', 'r']
  else if c.toNat < 0x20 then ['\\', 'u', '0', '0'] ++ hexPair c.toNat
  else [c]

/-- A string with its quotes. -/
def stringText (s : String) : String :=
  String.ofList ('"' :: s.toList.flatMap escapeChar ++ ['"'])

mutual

/-- The compact text of a value. -/
def text : Json → String
  | .null => "null"
  | .bool true => "true"
  | .bool false => "false"
  | .number n => numberText n
  | .string s => stringText s
  | .array items => "[" ++ itemsText items ++ "]"
  | .object members => "\x7b" ++ membersText members ++ "\x7d"

/-- The items of an array, with commas between them. -/
def itemsText : List Json → String
  | [] => ""
  | [item] => text item
  | item :: rest => text item ++ "," ++ itemsText rest

/-- The members of an object, with commas between them. -/
def membersText : List (String × Json) → String
  | [] => ""
  | [(name, value)] => stringText name ++ ":" ++ text value
  | (name, value) :: rest => stringText name ++ ":" ++ text value ++ "," ++ membersText rest

end

end DocStore.Json

import DocStore.Json.Text
import DocStore.Text.Shown

/-!
# Reading records out of JSON values

A decoder turns a value into a value of a type, or says in which way it does not
fit.  A record can be given as an object, whose members may come in any order
and may include others, or as an array of its fields in order.

Which fault is reported: of an object's members the first bad one in the order
of their names, and only if none is bad the first missing field in the order of
the record; of an array the first bad or missing field.
-/

namespace DocStore

/-- How a value fails to fit. -/
inductive Mismatch where
  /-- A value of another type. -/
  | wrongType (found : Json) (wanted : String)
  /-- A value of the right type that is not allowed. -/
  | wrongValue (found : Json) (wanted : String)
  /-- A wrong number of items. -/
  | wrongCount (found : Nat) (wanted : String)
  | unknownVariant (name : String) (known : List String)
  | unknownField (name : String) (known : List String)
  | missingField (name : String)
  /-- Another reason, in words. -/
  | other (reason : String)
  deriving DecidableEq, Inhabited

namespace Mismatch

/-- A value as messages name it: scalars with their text, the others by their kind. -/
def describe : Json → String
  | .null => "null"
  | .bool b => "boolean `" ++ toString b ++ "`"
  | .number (.integer n) => "integer `" ++ toString n ++ "`"
  | .number (.real x) => "floating point `" ++ Json.realText x ++ "`"
  | .string s => "string " ++ Text.shown s
  | .array _ => "sequence"
  | .object _ => "map"

/-- A name between grave accents. -/
def marked (name : String) : String := "`" ++ name ++ "`"

/-- The names one may choose from. -/
def choices : List String → String
  | [] => "there are no variants"
  | [a] => "expected " ++ marked a
  | [a, b] => "expected " ++ marked a ++ " or " ++ marked b
  | names => "expected one of " ++ ", ".intercalate (names.map marked)

/-- The mismatch in words. -/
def message : Mismatch → String
  | wrongType found wanted => "invalid type: " ++ describe found ++ ", expected " ++ wanted
  | wrongValue found wanted => "invalid value: " ++ describe found ++ ", expected " ++ wanted
  | wrongCount found wanted => "invalid length " ++ toString found ++ ", expected " ++ wanted
  | unknownVariant name known => "unknown variant " ++ marked name ++ ", " ++ choices known
  | unknownField name known => "unknown field " ++ marked name ++ ", " ++ choices known
  | missingField name => "missing field " ++ marked name
  | other reason => reason

end Mismatch

/-- Reads a value of type `α`. -/
abbrev Decoder (α : Type) : Type := Json → Except Mismatch α

namespace Decoder

/-! ## Scalars -/

/-- Any value. -/
def any : Decoder Json := .ok

def string : Decoder String
  | .string s => .ok s
  | found => .error (.wrongType found "a string")

def bool : Decoder Bool
  | .bool b => .ok b
  | found => .error (.wrongType found "a boolean")

/-- An integer for which `fits` holds. -/
def integer (wanted : String) (fits : Int → Bool) : Decoder Int
  | .number (.integer n) =>
      if fits n then .ok n else .error (.wrongValue (.number (.integer n)) wanted)
  | found => .error (.wrongType found wanted)

/-- A natural number below `2^bits`. -/
def unsigned (bits : Nat) : Decoder Nat := fun value =>
  (integer ("u" ++ toString bits) (fun n => 0 ≤ n && n < Decimal.twoTo bits) value).map Int.toNat

/-- An integer of `bits` bits in two's complement. -/
def signed (bits : Nat) : Decoder Int :=
  integer ("i" ++ toString bits) fun n =>
    -(Decimal.twoTo (bits - 1) : Int) ≤ n && n < Decimal.twoTo (bits - 1)

/-- A floating-point number; an integer is rounded to one. -/
def real : Decoder Decimal.Binary64
  | .number (.real x) => .ok x
  | .number (.integer n) =>
      let size := (Decimal.Binary64.ofNat n.natAbs).getD .zero
      .ok (if n < 0 then size.negate else size)
  | found => .error (.wrongType found "f64")

/-! ## Compounds -/

/-- Null, or a value. -/
def nullable {α : Type} (d : Decoder α) : Decoder (Option α)
  | .null => .ok none
  | value => (d value).map some

/-- Every item, the first bad one being reported. -/
def list {α : Type} (d : Decoder α) : Decoder (List α)
  | .array items => items.mapM d
  | found => .error (.wrongType found "a sequence")

/-- What a choice by name is followed by: nothing, or null. -/
def checkEmpty : Option Json → Except Mismatch Unit
  | none | some .null => .ok ()
  | some found => .error (.wrongType found "unit")

/-- One of several names, given as a string or as the only member of an object. -/
def choice {α : Type} (options : List (String × α)) : Decoder α := fun value =>
  let pick (name : String) (inner : Option Json) : Except Mismatch α :=
    match options.lookup name with
    | none => .error (.unknownVariant name (options.map Prod.fst))
    | some a => (checkEmpty inner).map fun _ => a
  match value with
  | .string name => pick name none
  | .object [(name, inner)] => pick name (some inner)
  | .object _ => .error (.wrongValue value "map with a single key")
  | _ => .error (.wrongType value "string or map")

end Decoder

/-! ## Records -/

/-- The fields of a record: how each is read when its member comes by, and how the record
is put together from what was read. -/
structure Fields (α : Type) where
  /-- What was read so far. -/
  Slots : Type
  names : List String
  empty : Slots
  /-- Reads a member; none when it is not a field. -/
  put : Slots → String → Json → Option (Except Mismatch Slots)
  /-- The record, or the first field that is missing. -/
  finish : Slots → Except Mismatch α
  /-- Reads fields from the front of a list, the first of them being field `index` of the
  record; returns the index after the last and the items left. -/
  ofItems : (short : Nat → Mismatch) → (index : Nat) → List Json →
    Except Mismatch (α × Nat × List Json)

namespace Fields

variable {α β : Type}

/-- One field, with what stands for it when it is missing from an object or an array. -/
def field (name : String) (d : Decoder α) (fromObject fromArray : Option α) : Fields α where
  Slots := Option α
  names := [name]
  empty := none
  put _ key value := if key = name then some ((d value).map some) else none
  finish
    | some a => .ok a
    | none => (fromObject.map Except.ok).getD (.error (.missingField name))
  ofItems short index
    | item :: rest => (d item).map fun a => (a, index + 1, rest)
    | [] => (fromArray.map fun a => .ok (a, index + 1, [])).getD (.error (short index))

/-- A field that has to be there. -/
def required (name : String) (d : Decoder α) : Fields α := field name d none none

/-- A field that is null when an object lacks it. -/
def optional (name : String) (d : Decoder α) : Fields (Option α) :=
  field name (.nullable d) (some none) none

/-- A field with a default. -/
def defaulted (name : String) (d : Decoder α) (default : α) : Fields α :=
  field name d (some default) (some default)

/-- The same fields, with the record changed. -/
def map (f : α → β) (a : Fields α) : Fields β where
  Slots := a.Slots
  names := a.names
  empty := a.empty
  put := a.put
  finish s := (a.finish s).map f
  ofItems short index items := (a.ofItems short index items).map fun (x, rest) => (f x, rest)

/-- More fields after the first. -/
def seq (f : Fields (α → β)) (a : Fields α) : Fields β where
  Slots := f.Slots × a.Slots
  names := f.names ++ a.names
  empty := (f.empty, a.empty)
  put s key value :=
    match f.put s.1 key value with
    | some r => some (r.map fun s' => (s', s.2))
    | none => (a.put s.2 key value).map fun r => r.map fun s' => (s.1, s')
  finish s := do
    let g ← f.finish s.1
    let x ← a.finish s.2
    .ok (g x)
  ofItems short index items := do
    let (g, index, items) ← f.ofItems short index items
    let (x, index, items) ← a.ofItems short index items
    .ok (g x, index, items)

/-- Reads the members of an object one after the other. -/
def putAll (a : Fields α) (refuseOthers : Bool) :
    List (String × Json) → a.Slots → Except Mismatch a.Slots
  | [], s => .ok s
  | (key, value) :: rest, s =>
      match a.put s key value with
      | some r => r.bind (a.putAll refuseOthers rest)
      | none =>
          if refuseOthers then .error (.unknownField key a.names)
          else a.putAll refuseOthers rest s

/-- Reads a record called `name` from an object or an array. -/
def decode (a : Fields α) (wanted shortWanted : String) (refuseOthers : Bool) : Decoder α
  | .object members => (a.putAll refuseOthers members a.empty).bind a.finish
  | .array items => do
      let (x, _, rest) ← a.ofItems (.wrongCount · shortWanted) 0 items
      if rest.isEmpty then .ok x
      else .error (.wrongCount items.length "fewer elements in array")
  | found => .error (.wrongType found wanted)

/-- Reads a record that ignores members it does not know. -/
def record (name : String) (a : Fields α) : Decoder α :=
  a.decode ("struct " ++ name)
    ("struct " ++ name ++ " with " ++ toString a.names.length ++
      (if a.names.length = 1 then " element" else " elements"))
    false

end Fields

end DocStore

import DocStore.Json.Decode

/-!
# Operators

A condition compares a field with operands by an operator.  Operators are given
by name, and a name that is not known is kept, so that it can be reported where
the operator is used.
-/

namespace DocStore

/-- How a field is compared. -/
inductive Operator where
  | eq
  | neq
  | lt
  | lte
  | gt
  | gte
  | between
  | before
  | after
  /-- An array holds a value. -/
  | contains
  /-- A scalar is one of several values. -/
  | includes
  /-- An object has a member. -/
  | hasKey
  /-- An object has one of several members. -/
  | hasAnyKey
  /-- The field is absent or null. -/
  | isNull
  | unknown (name : String)
  deriving DecidableEq, Inhabited

namespace Operator

/-- The operators with a meaning, and their names. -/
def known : List (String × Operator) := [
  ("eq", eq), ("neq", neq), ("lt", lt), ("lte", lte), ("gt", gt), ("gte", gte),
  ("between", between), ("before", before), ("after", after), ("contains", contains),
  ("includes", includes), ("in", hasKey), ("anyin", hasAnyKey), ("null", isNull)]

/-- The operator of a name. -/
def parse (name : String) : Operator := (known.lookup name).getD (.unknown name)

def name : Operator → String
  | eq => "eq"
  | neq => "neq"
  | lt => "lt"
  | lte => "lte"
  | gt => "gt"
  | gte => "gte"
  | between => "between"
  | before => "before"
  | after => "after"
  | contains => "contains"
  | includes => "includes"
  | hasKey => "in"
  | hasAnyKey => "anyin"
  | isNull => "null"
  | unknown name => name

/-- How many operands the operator takes; none when it takes any number. -/
def arity? : Operator → Option Nat
  | isNull => some 0
  | between => some 2
  | includes | hasAnyKey | unknown _ => none
  | _ => some 1

def isKnown : Operator → Bool
  | unknown _ => false
  | _ => true

def toJson (op : Operator) : Json := .string op.name

def decode : Decoder Operator := fun value => (Decoder.string value).map parse

theorem parse_name_of_known {op : Operator} (h : op.isKnown = true) : parse op.name = op := by
  cases op <;> first | rfl | simp [isKnown] at h

end Operator

end DocStore

import DocStore.Decimal.Shortest

/-!
# JSON values

A value is null, a boolean, a number, a string, an array or an object.  The
members of an object are kept in rising order of their names, each name once;
`Json.insert` is the only way members are added, so of two members with one
name the later wins.

A number is an integer as written, or a floating-point number; `1` and `1.0`
are different values.
-/

namespace DocStore

open Decimal (Binary64)

/-- A number of a JSON text. -/
inductive Number where
  /-- An integer between `-2^63` and `2^64 - 1`. -/
  | integer (n : Int)
  | real (x : Binary64)
  deriving DecidableEq, Inhabited

inductive Json where
  | null
  | bool (b : Bool)
  | number (n : Number)
  | string (s : String)
  | array (items : List Json)
  | object (members : List (String × Json))
  deriving Inhabited

namespace Json

/-! ## Equality -/

mutual

/-- Equality of values is decidable. -/
def decEq : (a b : Json) → Decidable (a = b)
  | .null, .null => isTrue rfl
  | .bool a, .bool b =>
      if h : a = b then isTrue (by rw [h]) else isFalse (by simp [h])
  | .number a, .number b =>
      if h : a = b then isTrue (by rw [h]) else isFalse (by simp [h])
  | .string a, .string b =>
      if h : a = b then isTrue (by rw [h]) else isFalse (by simp [h])
  | .array as, .array bs =>
      match decEqItems as bs with
      | isTrue h => isTrue (by rw [h])
      | isFalse h => isFalse (by simp [h])
  | .object as, .object bs =>
      match decEqMembers as bs with
      | isTrue h => isTrue (by rw [h])
      | isFalse h => isFalse (by simp [h])
  | .null, .bool _ | .null, .number _ | .null, .string _ | .null, .array _ | .null, .object _
  | .bool _, .null | .bool _, .number _ | .bool _, .string _ | .bool _, .array _
  | .bool _, .object _
  | .number _, .null | .number _, .bool _ | .number _, .string _ | .number _, .array _
  | .number _, .object _
  | .string _, .null | .string _, .bool _ | .string _, .number _ | .string _, .array _
  | .string _, .object _
  | .array _, .null | .array _, .bool _ | .array _, .number _ | .array _, .string _
  | .array _, .object _
  | .object _, .null | .object _, .bool _ | .object _, .number _ | .object _, .string _
  | .object _, .array _ => isFalse (by simp)

/-- Equality of lists of values is decidable. -/
def decEqItems : (as bs : List Json) → Decidable (as = bs)
  | [], [] => isTrue rfl
  | [], _ :: _ | _ :: _, [] => isFalse (by simp)
  | a :: as, b :: bs =>
      match decEq a b, decEqItems as bs with
      | isTrue h, isTrue hs => isTrue (by rw [h, hs])
      | isFalse h, _ => isFalse (by simp [h])
      | _, isFalse hs => isFalse (by simp [hs])

/-- Equality of lists of members is decidable. -/
def decEqMembers : (as bs : List (String × Json)) → Decidable (as = bs)
  | [], [] => isTrue rfl
  | [], _ :: _ | _ :: _, [] => isFalse (by simp)
  | (k, a) :: as, (l, b) :: bs =>
      match decEq a b, decEqMembers as bs with
      | isTrue h, isTrue hs =>
          if hk : k = l then isTrue (by rw [hk, h, hs]) else isFalse (by simp [hk])
      | isFalse h, _ => isFalse (by simp [h])
      | _, isFalse hs => isFalse (by simp [hs])

end

instance : DecidableEq Json := decEq

/-! ## Objects -/

/-- Adds a member in its place; one of the same name is replaced. -/
def insertMember (name : String) (value : Json) : List (String × Json) → List (String × Json)
  | [] => [(name, value)]
  | (k, v) :: rest =>
      if name < k then (name, value) :: (k, v) :: rest
      else if name = k then (name, value) :: rest
      else (k, v) :: insertMember name value rest

/-- An object from members in any order; of two with one name the later wins. -/
def ofMembers (members : List (String × Json)) : Json :=
  .object (members.foldl (fun acc (k, v) => insertMember k v acc) [])

/-- The value of an object's member. -/
def member? (value : Json) (name : String) : Option Json :=
  match value with
  | .object members => members.lookup name
  | _ => none

/-- The object with one member set. -/
def insert (value : Json) (name : String) (member : Json) : Json :=
  match value with
  | .object members => .object (insertMember name member members)
  | other => other

mutual

/-- How deep arrays and objects are nested; zero for a scalar. -/
def depth : Json → Nat
  | .array items => depthOfItems items + 1
  | .object members => depthOfMembers members + 1
  | _ => 0

/-- The greatest depth of the items. -/
def depthOfItems : List Json → Nat
  | [] => 0
  | item :: rest => max (depth item) (depthOfItems rest)

/-- The greatest depth of the members. -/
def depthOfMembers : List (String × Json) → Nat
  | [] => 0
  | (_, value) :: rest => max (depth value) (depthOfMembers rest)

end

/-! ## Views -/

def string? : Json → Option String
  | .string s => some s
  | _ => none

def items? : Json → Option (List Json)
  | .array items => some items
  | _ => none

def integer? : Json → Option Int
  | .number (.integer n) => some n
  | _ => none

def bool? : Json → Option Bool
  | .bool b => some b
  | _ => none

/-- An integer value. -/
def ofInt (n : Int) : Json := .number (.integer n)

/-- A natural number as a value. -/
def ofNat (n : Nat) : Json := .number (.integer n)

/-- A value that may be missing; null when it is. -/
def ofOption (value : Option Json) : Json := value.getD .null

/-- A string that may be missing. -/
def ofString? (text : Option String) : Json := ofOption (text.map .string)

/-- An array of strings. -/
def ofStrings (texts : List String) : Json := .array (texts.map .string)

end Json

end DocStore

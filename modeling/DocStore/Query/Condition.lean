import DocStore.Error
import DocStore.Query.Operator
import DocStore.Query.Path
import DocStore.Time.Instant

/-!
# Conditions and groups

A condition compares one field.  A group joins conditions and further groups by
one connective; groups are nested to any depth.  A group without a condition at
any depth is empty and says nothing.

Checking reports the first condition, in the order of the tree, whose operator
is unknown or whose operands do not fit it.
-/

namespace DocStore

/-- A field compared with operands. -/
structure Condition where
  field : FieldPath
  operator : Operator
  operands : List Json
  deriving DecidableEq, Inhabited

/-- How the parts of a group are joined. -/
inductive Connective where
  | and
  | or
  deriving DecidableEq, Inhabited

/-- Conditions and groups joined by one connective. -/
structure ConditionGroup where
  operator : Connective
  conditions : List Condition
  groups : List ConditionGroup
  deriving Inhabited

namespace Condition

/-- An operand as the text that is bound for it. -/
def operandText : Json → String
  | .string s => s
  | other => other.text

/-- Checks that the operator is known and takes these operands. -/
def validate (c : Condition) : Except StoreError Unit :=
  let wrong (reason : String) : Except StoreError Unit :=
    .error (.invalidOperands c.operator.name reason)
  let checkInstant : Except StoreError Unit :=
    match c.operator, c.operands with
    | .before, .string _ :: _ | .after, .string _ :: _ => .ok ()
    | .before, _ | .after, _ => wrong "instant operand must be an RFC 3339 string"
    | _, _ => .ok ()
  match c.operator, c.operator.arity? with
  | .unknown name, _ => .error (.unknownOperator name)
  | _, some n =>
      if c.operands.length = n then checkInstant
      else wrong ("expected " ++ toString n ++ " operand(s), got " ++ toString c.operands.length)
  | _, none => checkInstant

def toJson (c : Condition) : Json :=
  .ofMembers [("field", c.field.toJson), ("operator", c.operator.toJson),
    ("operands", .array c.operands)]

def decode : Decoder Condition :=
  Fields.record "Condition" <|
    .seq (.seq (.map Condition.mk (.required "field" FieldPath.decode))
      (.required "operator" Operator.decode))
      (.defaulted "operands" (.list .any) [])

end Condition

namespace Connective

/-- The connective as a word of SQL. -/
def word : Connective → String
  | and => "AND"
  | or => "OR"

def toJson (c : Connective) : Json := .string c.word

def decode : Decoder Connective := .choice [("AND", and), ("OR", or)]

end Connective

namespace ConditionGroup

/-- A group of nothing. -/
def empty (operator : Connective) : ConditionGroup := ⟨operator, [], []⟩

/-- With one more condition. -/
def push (g : ConditionGroup) (c : Condition) : ConditionGroup :=
  { g with conditions := g.conditions ++ [c] }

/-- With one more group inside. -/
def pushGroup (g inner : ConditionGroup) : ConditionGroup :=
  { g with groups := g.groups ++ [inner] }

mutual

/-- No condition at any depth. -/
def isEmpty : ConditionGroup → Bool
  | ⟨_, conditions, groups⟩ => conditions.isEmpty && allEmpty groups

/-- No condition in any of the groups. -/
def allEmpty : List ConditionGroup → Bool
  | [] => true
  | g :: rest => isEmpty g && allEmpty rest

end

mutual

/-- The conditions of the tree: at each level the conditions, then those of the groups. -/
def flatten : ConditionGroup → List Condition
  | ⟨_, conditions, groups⟩ => conditions ++ flattenAll groups

/-- The conditions of several trees. -/
def flattenAll : List ConditionGroup → List Condition
  | [] => []
  | g :: rest => flatten g ++ flattenAll rest

end

/-- Checks every condition of the tree. -/
def validate (g : ConditionGroup) : Except StoreError Unit :=
  g.flatten.forM Condition.validate

mutual

def toJson : ConditionGroup → Json
  | ⟨operator, conditions, groups⟩ =>
      .ofMembers [("operator", operator.toJson),
        ("conditions", .array (conditions.map Condition.toJson)),
        ("groups", .array (allToJson groups))]

def allToJson : List ConditionGroup → List Json
  | [] => []
  | g :: rest => toJson g :: allToJson rest

end

/-- Reads a group nested at most `depth` deep. -/
def decodeWithin : (depth : Nat) → Decoder ConditionGroup
  | 0 => fun _ => .error (.other "groups are nested too deep")
  | depth + 1 =>
      Fields.record "ConditionGroup" <|
        .seq (.seq (.map ConditionGroup.mk (.required "operator" Connective.decode))
          (.defaulted "conditions" (.list Condition.decode) []))
          (.defaulted "groups" (.list (decodeWithin depth)) [])

/-- Reads a group.  It cannot be nested deeper than the value it is read from. -/
def decode : Decoder ConditionGroup := fun value => decodeWithin (value.depth + 1) value

end ConditionGroup

/-! ## Equality -/

mutual

/-- Equality of groups is decidable. -/
def ConditionGroup.decEq : (a b : ConditionGroup) → Decidable (a = b)
  | ⟨o, cs, gs⟩, ⟨o', cs', gs'⟩ =>
      if h : o = o' ∧ cs = cs' then
        match decEqGroups gs gs' with
        | isTrue hg => isTrue (by rw [h.1, h.2, hg])
        | isFalse hg => isFalse (by simp [hg])
      else isFalse (fun heq => h (by cases heq; exact ⟨rfl, rfl⟩))

def decEqGroups : (as bs : List ConditionGroup) → Decidable (as = bs)
  | [], [] => isTrue rfl
  | [], _ :: _ | _ :: _, [] => isFalse (by simp)
  | a :: as, b :: bs =>
      match ConditionGroup.decEq a b, decEqGroups as bs with
      | isTrue h, isTrue hs => isTrue (by rw [h, hs])
      | isFalse h, _ => isFalse (by simp [h])
      | _, isFalse hs => isFalse (by simp [hs])

end

instance : DecidableEq ConditionGroup := ConditionGroup.decEq

/-! ## Building groups -/

namespace ConditionGroup

/-- Adds a condition by field, operator name and operands. -/
def condition (g : ConditionGroup) (field operator : String) (operands : List Json) :
    ConditionGroup :=
  g.push ⟨.parse field, .parse operator, operands⟩

/-- Adds a comparison with one value. -/
def compare (g : ConditionGroup) (field : String) (op : Operator) (value : Json) :
    ConditionGroup :=
  g.push ⟨.parse field, op, [value]⟩

def between (g : ConditionGroup) (field : String) (low high : Json) : ConditionGroup :=
  g.push ⟨.parse field, .between, [low, high]⟩

/-- The field lies before an instant. -/
def before (g : ConditionGroup) (field : String) (at' : Instant) : ConditionGroup :=
  g.compare field .before (.string at'.millisText)

/-- The field lies after an instant. -/
def after (g : ConditionGroup) (field : String) (at' : Instant) : ConditionGroup :=
  g.compare field .after (.string at'.millisText)

/-- The field is one of several values. -/
def includes (g : ConditionGroup) (field : String) (values : List Json) : ConditionGroup :=
  g.push ⟨.parse field, .includes, values⟩

/-- The field has a member. -/
def hasKey (g : ConditionGroup) (field key : String) : ConditionGroup :=
  g.compare field .hasKey (.string key)

/-- The field has one of several members. -/
def hasAnyKey (g : ConditionGroup) (field : String) (keys : List String) : ConditionGroup :=
  g.push ⟨.parse field, .hasAnyKey, keys.map .string⟩

/-- The field is absent or null. -/
def isNull (g : ConditionGroup) (field : String) : ConditionGroup :=
  g.push ⟨.parse field, .isNull, []⟩

end ConditionGroup

end DocStore

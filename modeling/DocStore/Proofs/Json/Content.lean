import DocStore.Proofs.Json.Returning
import Mathlib.Algebra.Field.Rat
import Mathlib.Data.Rat.Cast.Defs

/-!
# What a value says

Values say the same (`Json.content`) if they differ only in how their numbers are written and in
what order their objects have their members.  `1` and `1.0` do.

Where all numbers are integers and all members stand in order (`Json.IsWhole`), values that say
the same are one value: `Json.eq_of_content_eq`.
-/

namespace DocStore

/-- The number that the digits stand for. -/
def Decimal.Digits.value (d : Decimal.Digits) : ℚ :=
  Nat.ofDigitChars 10 d.digits 0 * (10 : ℚ) ^ (d.exponent + 1 - d.digits.length)

/-- The value of a number.  That of a floating-point number is the decimal that is written for
it. -/
def Number.value : Number → ℚ
  | integer n => n
  | real x =>
      if x.isZero then 0
      else (if x.isNegative then -1 else 1) * (Decimal.shortest x).value

/-- What a value says. -/
inductive Content where
  | null
  | bool (b : Bool)
  | number (value : ℚ)
  | string (s : String)
  | array (items : List Content)
  /-- The members in the order of their names. -/
  | object (members : List (String × Content))

namespace Content

/-- Adds a member in its place, unless there is one of its name. -/
def addMember (name : String) (value : Content) : List (String × Content) → List (String × Content)
  | [] => [(name, value)]
  | (k, v) :: rest =>
      if name < k then (name, value) :: (k, v) :: rest
      else if name = k then (k, v) :: rest
      else (k, v) :: addMember name value rest

theorem addMember_of_forall_lt {name : String} {value : Content} {members : List (String × Content)}
    (h : ∀ member ∈ members, name < member.1) :
    addMember name value members = (name, value) :: members := by
  cases members with
  | nil => rfl
  | cons member rest => exact if_pos (h member List.mem_cons_self)

end Content

namespace Json

mutual

def content : Json → Content
  | .null => .null
  | .bool b => .bool b
  | .number n => .number n.value
  | .string s => .string s
  | .array items => .array (contentOfItems items)
  | .object members => .object (contentOfMembers members)

def contentOfItems : List Json → List Content
  | [] => []
  | item :: rest => content item :: contentOfItems rest

/-- Of two members with one name the later counts. -/
def contentOfMembers : List (String × Json) → List (String × Content)
  | [] => []
  | (name, value) :: rest => Content.addMember name (content value) (contentOfMembers rest)

end

/-! ## Values without floating-point numbers -/

mutual

/-- All numbers are integers with 64 bits, and the members of all objects stand in order. -/
def IsWhole : Json → Prop
  | .number (.integer n) => -0x8000000000000000 ≤ n ∧ n < 0x10000000000000000
  | .number (.real _) => False
  | .array items => AreWhole items
  | .object members => (members.map Prod.fst).Pairwise (· < ·) ∧ AreWholeMembers members
  | _ => True

def AreWhole : List Json → Prop
  | [] => True
  | item :: rest => item.IsWhole ∧ AreWhole rest

def AreWholeMembers : List (String × Json) → Prop
  | [] => True
  | (_, value) :: rest => value.IsWhole ∧ AreWholeMembers rest

end

mutual

theorem IsWhole.travels : ∀ {v : Json}, v.IsWhole → v.Travels
  | .null, _ | .bool _, _ | .string _, _ => trivial
  | .number (.integer _), h => Number.travels_integer h.1 h.2
  | .array _, h => AreWhole.travels h
  | .object _, h => ⟨h.1, AreWholeMembers.travels h.2⟩

theorem AreWhole.travels : ∀ {items : List Json}, AreWhole items → TravelItems items
  | [], _ => trivial
  | _ :: _, h => ⟨h.1.travels, AreWhole.travels h.2⟩

theorem AreWholeMembers.travels :
    ∀ {members : List (String × Json)}, AreWholeMembers members → TravelMembers members
  | [], _ => trivial
  | (_, _) :: _, h => ⟨h.1.travels, AreWholeMembers.travels h.2⟩

end

/-- Members that stand in order stay where they are. -/
theorem contentOfMembers_of_sorted {members : List (String × Json)}
    (h : (members.map Prod.fst).Pairwise (· < ·)) :
    contentOfMembers members = members.map fun member => (member.1, member.2.content) := by
  induction members with
  | nil => rfl
  | cons member rest ih =>
    obtain ⟨name, value⟩ := member
    rw [List.map_cons, List.pairwise_cons] at h
    rw [contentOfMembers, ih h.2, List.map_cons]
    refine Content.addMember_of_forall_lt fun other hother => ?_
    obtain ⟨member, hmember, rfl⟩ := List.mem_map.1 hother
    exact h.1 _ (List.mem_map_of_mem hmember)

mutual

/-- Of these values no two say the same. -/
theorem eq_of_content_eq : ∀ {v w : Json}, v.IsWhole → w.IsWhole → v.content = w.content → v = w
  | .null, w, _, _, h => by
    cases w <;> first | rfl | cases h
  | .bool b, w, _, _, h => by
    cases w <;> cases h
    rfl
  | .string s, w, _, _, h => by
    cases w <;> cases h
    rfl
  | .number (.integer n), w, _, hw, h => by
    cases w with
    | number n' =>
      cases n' with
      | integer n' =>
        have hvalue : (n : ℚ) = n' := Content.number.inj h
        rw [Int.cast_inj.1 hvalue]
      | real x => exact hw.elim
    | _ => cases h
  | .array items, w, hv, hw, h => by
    cases w with
    | array items' => rw [eq_of_contentOfItems_eq hv hw (Content.array.inj h)]
    | _ => cases h
  | .object members, w, hv, hw, h => by
    cases w with
    | object members' =>
      have hmembers := Content.object.inj h
      rw [contentOfMembers_of_sorted hv.1, contentOfMembers_of_sorted hw.1] at hmembers
      rw [eq_of_map_content_eq hv.2 hw.2 hmembers]
    | _ => cases h

theorem eq_of_contentOfItems_eq : ∀ {items items' : List Json}, AreWhole items → AreWhole items' →
    contentOfItems items = contentOfItems items' → items = items'
  | [], [], _, _, _ => rfl
  | item :: rest, item' :: rest', h, h', heq => by
    obtain ⟨hitem, hrest⟩ := List.cons.inj heq
    rw [eq_of_content_eq h.1 h'.1 hitem, eq_of_contentOfItems_eq h.2 h'.2 hrest]

theorem eq_of_map_content_eq : ∀ {members members' : List (String × Json)},
    AreWholeMembers members → AreWholeMembers members' →
    (members.map fun member => (member.1, member.2.content)) =
      (members'.map fun member => (member.1, member.2.content)) → members = members'
  | [], [], _, _, _ => rfl
  | (name, value) :: rest, (name', value') :: rest', h, h', heq => by
    obtain ⟨hmember, hrest⟩ := List.cons.inj heq
    obtain ⟨rfl, hvalue⟩ := Prod.mk.inj hmember
    rw [eq_of_content_eq h.1 h'.1 hvalue, eq_of_map_content_eq h.2 h'.2 hrest]

end

end Json

end DocStore

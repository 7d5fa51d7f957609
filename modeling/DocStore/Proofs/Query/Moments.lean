import DocStore.Proofs.Query.Answer
import DocStore.Proofs.Query.Meaning
import DocStore.Proofs.Query.Outline
import DocStore.Proofs.Time.Text

/-!
# Filters on moments

`before` and `after` compile to a comparison of a field with a bound text, both of
which the server reads as instants.  `TimeTest` is such a comparison as it is read
off the text of a filter, and `ConditionGroup.timeTruth?` what it is worth for a
document.

The bound text has milliseconds, so what is compared with is the start of the
millisecond of the instant (`ConditionGroup.timeTruth?_before_after`).  A filter with the whole
text of the instant, as `condition` takes it, compares with the instant itself.
-/

namespace DocStore

open Sql Sql.Grammar

/-! ## Microseconds -/

namespace Instant

/-- The number of microseconds after the start of 1970, what is finer being cut off. -/
def micros (at' : Instant) : Int := at'.seconds * 1000000 + (at'.nanos / 1000 : Nat)

@[simp] theorem seconds_ofMicros (n : Int) : (ofMicros n).seconds = n / 1000000 := rfl

@[simp] theorem nanos_ofMicros (n : Int) :
    (ofMicros n).nanos = (n % 1000000).toNat * 1000 := rfl

theorem micros_ofMicros (n : Int) : (ofMicros n).micros = n := by
  rw [micros, seconds_ofMicros, nanos_ofMicros, Nat.mul_div_cancel _ (by decide)]
  omega

theorem nanos_ofMicros_lt (n : Int) : (ofMicros n).nanos < 1000000000 := by
  rw [nanos_ofMicros]
  omega

/-- The microsecond that the millisecond of a microsecond starts with. -/
def millisStart (n : Int) : Int := n / 1000 * 1000

/-- The text with milliseconds stands for the start of the millisecond. -/
theorem read_millisText_ofMicros {n : Int} (h : (ofMicros n).HasPlainYear) :
    read (ofMicros n).millisText = .ok (ofMicros (millisStart n)) := by
  have hseconds : n / 1000 * 1000 / 1000000 = n / 1000000 := by omega
  have hnanos : (n % 1000000).toNat * 1000 / 1000000 * 1000000 =
      (n / 1000 * 1000 % 1000000).toNat * 1000 := by omega
  rw [read_millisText h (nanos_ofMicros_lt n), seconds_ofMicros, nanos_ofMicros, hnanos,
    ofMicros, millisStart, hseconds]

end Instant

/-! ## Comparisons of instants -/

/-- A comparison of a field with a bound text, both read as instants. -/
structure TimeTest where
  field : FieldPath
  operator : String
  /-- The number of the placeholder. -/
  bound : Nat
  deriving DecidableEq

namespace TimeTest

/-- The operator and the placeholder behind it. -/
def operand : Grammar (String × Nat)
  | .operator op :: .placeholder n :: rest => some ((op, n), rest)
  | _ => none

/-- What stands behind the field. -/
def comparison : Grammar (String × Nat) := do
  phrase ")::timestamptz"
  let compared ← operand
  phrase "::timestamptz"
  return compared

def grammar : Grammar TimeTest := do
  phrase "("
  let field ← Reading.path "data"
  let (op, n) ← comparison
  return ⟨field, op, n⟩

/-- Reads an atom of a filter, all of its tokens. -/
def read? (atom : List Token) : Option TimeTest := do
  let (test, rest) ← grammar atom
  guard rest.isEmpty
  return test

/-- What two instants are worth under an operator. -/
def compare? (operator : String) (a b : Instant) : Option Truth :=
  match operator with
  | "<" => some (if a.micros < b.micros then .holds else .fails)
  | ">" => some (if b.micros < a.micros then .holds else .fails)
  | _ => none

/-- What a comparison is worth for a document: it is unknown without the field, and has no worth
when one of the texts is no instant. -/
def truth? (test : TimeTest) (ps : List Param) (data : Json) : Option Truth :=
  match data.textAt test.field, ps[test.bound - 1]? with
  | none, _ => some .unknown
  | some text, some (.text bound) =>
      match Instant.read text, Instant.read bound with
      | .ok a, .ok b => compare? test.operator a b
      | _, _ => none
  | _, _ => none

end TimeTest

/-- What the condition number `k` of a tree is worth for a document, if it compares instants. -/
def ConditionGroup.timeTruth? (g : ConditionGroup) (k : Nat) (data : Json) : Option Truth := do
  let s ← g.statement?
  let e ← readBool? (← Sql.tokens? s.sql)
  let test ← TimeTest.read? (← e.atoms[k]?)
  test.truth? s.params data

/-! ## The last condition of a group -/

namespace TimeTest

/-- The operators that compare instants, and their words. -/
inductive Word : Operator → String → Prop where
  | before : Word .before "<"
  | after : Word .after ">"

variable {operator : Operator} {word : String}

/-- The atom of a condition reads as its comparison. -/
theorem read?_atom (h : Word operator word) (field : FieldPath) (operand : Json) (n : Nat) :
    read? (tokensFrom n (Condition.pieces dataColumn ⟨field, operator, [operand]⟩)) =
      some ⟨field, word, n⟩ := by
  have hcomparison : Reads comparison n
      (Condition.castComparison "timestamptz" word operand) (word, n) [] := by
    cases h <;> rfl
  have hpieces : Condition.pieces dataColumn ⟨field, operator, [operand]⟩ =
      .text "(" :: (field.asText dataColumn ++
        Condition.castComparison "timestamptz" word operand) := by
    cases h <;> rfl
  have hparams : params (field.asText dataColumn) = [] := by
    rw [params, filterMap_asText isQuiet_param?, pathView_param?]
  have hstop : Reading.NoStep (tokensFrom n
      (Condition.castComparison "timestamptz" word operand) ++ []) := by
    intro op hop
    cases h <;> exact nomatch hop
  have hread : Reads grammar n (Condition.pieces dataColumn ⟨field, operator, [operand]⟩)
      ⟨field, word, n⟩ [] := by
    rw [hpieces]
    exact .phrase (.bind_quiet hparams (Reading.reads_path _ field hstop)
      (.map hcomparison fun _ => .pure _))
  rw [Reads, List.append_nil] at hread
  rw [read?, hread]
  rfl

end TimeTest

namespace ConditionGroup

/-- A condition that is added to a group is the atom behind those of the others, and what it binds
stands behind what they bind. -/
theorem exists_expr_push (g : ConditionGroup) (c : Condition) :
    ∃ s tokens e, (g.push c).statement? = some s ∧ Sql.tokens? s.sql = some tokens ∧
      readBool? tokens = some e ∧ (∀ v, e.value v 0 = (g.push c).value v 0) ∧
      ∃ before after, s.params = before ++ conditionView Piece.param? c ++ after ∧
        e.atoms[g.conditions.length]? =
          some (tokensFrom (1 + before.length) (c.pieces dataColumn)) := by
  have hflatten : (g.push c).flatten = g.conditions ++ c :: flattenAll g.groups := by
    rw [push, flatten, List.append_assoc, List.singleton_append]
  have hatoms := atoms_filter? (g.push c)
  rw [hflatten] at hatoms
  cases hf : (g.push c).filter? with
  | none =>
    rw [hf, Filter.atomsOf?, Option.elim_none] at hatoms
    simp at hatoms
  | some f =>
    rw [hf] at hatoms
    replace hatoms : f.atoms = g.conditions ++ c :: flattenAll g.groups := hatoms
    refine ⟨.ofPieces (f.pieces dataColumn), _, f.expr 1, ?_, tokens?_statement,
      readBool?_filter (isFull_filter? _ hf) 1, fun v => value_filter? _ hf 1 v 0,
      g.conditions.flatMap (conditionView Piece.param?),
      (flattenAll g.groups).flatMap (conditionView Piece.param?), ?_, ?_⟩
    · rw [statement?, hf]
      rfl
    · show (f.pieces dataColumn).filterMap Piece.param? = _
      rw [filterMap_filter isQuiet_param?, hatoms, List.flatMap_append, List.flatMap_cons,
        List.append_assoc]
    · rw [atoms_expr, hatoms, atomTokens_append, List.getElem?_append_right
        (Nat.le_of_eq (length_atomTokens _ _)), length_atomTokens, Nat.sub_self]
      rfl

/-- What the last condition of a group is worth depends on its own text alone. -/
theorem timeTruth?_push {operator : Operator} {word : String} (h : TimeTest.Word operator word)
    (g : ConditionGroup) (field : FieldPath) (text : String) (data : Json) :
    (g.push ⟨field, operator, [.string text]⟩).timeTruth? g.conditions.length data =
      TimeTest.truth? ⟨field, word, 1⟩ [.text text] data := by
  obtain ⟨s, tokens, e, hs, htokens, he, -, before, after, hparams, hatom⟩ :=
    exists_expr_push g ⟨field, operator, [.string text]⟩
  have hbinds : conditionView Piece.param? ⟨field, operator, [.string text]⟩ = [.text text] := by
    rw [conditionView_param?]
    cases h <;> rfl
  have hbound : s.params[1 + before.length - 1]? = some (.text text) := by
    rw [hparams, hbinds, Nat.add_sub_cancel_left, List.append_assoc,
      List.getElem?_append_right (Nat.le_refl _), Nat.sub_self]
    rfl
  have hread : (g.push ⟨field, operator, [.string text]⟩).timeTruth? g.conditions.length data =
      TimeTest.truth? ⟨field, word, 1 + before.length⟩ s.params data := by
    simp only [timeTruth?, hs, htokens, he, hatom, TimeTest.read?_atom h, Option.bind_eq_bind,
      Option.bind_some]
  rw [hread, TimeTest.truth?, TimeTest.truth?, hbound]
  rfl

/-- A filter of one condition is worth what the condition is. -/
theorem exists_expr_alone (operator : Connective) (c : Condition) :
    ∃ s tokens e, ((empty operator).push c).statement? = some s ∧ Sql.tokens? s.sql = some tokens ∧
      readBool? tokens = some e ∧ ∀ v, e.value v 0 = v 0 := by
  obtain ⟨s, tokens, e, hs, htokens, he, hvalue, -⟩ := exists_expr_push (empty operator) c
  refine ⟨s, tokens, e, hs, htokens, he, fun v => ?_⟩
  rw [hvalue]
  exact operator.join_singleton (v 0)

section Bounds

variable {field : String} {data : Json} {d : Int}

/-- Against a text of an instant the field of a document is compared with that instant. -/
theorem timeTruth?_text
    (hfield : (data.textAt (.parse field)).map Instant.read = some (.ok (.ofMicros d)))
    {text : String} {bound : Int} (htext : Instant.read text = .ok (.ofMicros bound))
    (g : ConditionGroup) :
    (g.push ⟨.parse field, .before, [.string text]⟩).timeTruth? g.conditions.length data =
        some (if d < bound then .holds else .fails) ∧
      (g.push ⟨.parse field, .after, [.string text]⟩).timeTruth? g.conditions.length data =
        some (if bound < d then .holds else .fails) := by
  obtain ⟨shown, hshown, hread⟩ := Option.map_eq_some_iff.1 hfield
  rw [timeTruth?_push .before, timeTruth?_push .after]
  simp only [TimeTest.truth?, hshown, Nat.sub_self, List.getElem?_cons_zero,
    hread, htext, TimeTest.compare?, Instant.micros_ofMicros, and_self]

/-- What a filter before or behind an instant does about a document.  The instant is the
microsecond `a`, and the field of the document shows the microsecond `d`. -/
structure TimeBounds (g : ConditionGroup) (field : String) (a d : Int) (data : Json) : Prop where
  /-- A document passes `before` in front of the millisecond of the instant. -/
  before_holds : (g.before field (.ofMicros a)).timeTruth? g.conditions.length data =
    some .holds ↔ d < Instant.millisStart a
  /-- It passes `after` behind the start of that millisecond. -/
  after_holds : (g.after field (.ofMicros a)).timeTruth? g.conditions.length data =
    some .holds ↔ Instant.millisStart a < d
  /-- So `before` is strict but for documents earlier in the same millisecond, which it misses. -/
  before_strict : ((g.before field (.ofMicros a)).timeTruth? g.conditions.length data =
    some .holds ↔ d < a) ↔ ¬ (Instant.millisStart a ≤ d ∧ d < a)
  /-- And `after` is but for those, and for documents at the instant, which it lets through. -/
  after_strict : ((g.after field (.ofMicros a)).timeTruth? g.conditions.length data =
    some .holds ↔ a < d) ↔ ¬ (Instant.millisStart a < d ∧ d ≤ a)
  /-- A document at the instant never passes `before`, and it passes `after` unless the instant
  is in whole milliseconds. -/
  at_bound : d = a →
    (g.before field (.ofMicros a)).timeTruth? g.conditions.length data = some .fails ∧
    ((g.after field (.ofMicros a)).timeTruth? g.conditions.length data = some .fails ↔
      a % 1000 = 0)
  /-- With the whole text of the instant both are strict. -/
  whole_text : ((g.condition field "before" [.string (Instant.ofMicros a).text]).timeTruth?
      g.conditions.length data = some .holds ↔ d < a) ∧
    ((g.condition field "after" [.string (Instant.ofMicros a).text]).timeTruth?
      g.conditions.length data = some .holds ↔ a < d)
  /-- A filter of such a condition alone passes what the condition passes. -/
  alone : ∀ operator c, ∃ s tokens e, ((empty operator).push c).statement? = some s ∧
    Sql.tokens? s.sql = some tokens ∧ readBool? tokens = some e ∧ ∀ v, e.value v 0 = v 0

/-- Filters on moments compare with the start of the millisecond of their instant, whatever else
their group holds. -/
theorem timeTruth?_before_after (g : ConditionGroup) {a : Int}
    (hyear : (Instant.ofMicros a).HasPlainYear)
    (hfield : (data.textAt (.parse field)).map Instant.read = some (.ok (.ofMicros d))) :
    g.TimeBounds field a d data := by
  have hmillis := timeTruth?_text hfield (Instant.read_millisText_ofMicros hyear) g
  have hwhole := timeTruth?_text hfield
    (Instant.read_text hyear (Instant.nanos_ofMicros_lt a)) g
  have hbefore : (g.before field (.ofMicros a)).timeTruth? g.conditions.length data =
      some (if d < Instant.millisStart a then .holds else .fails) := hmillis.1
  have hafter : (g.after field (.ofMicros a)).timeTruth? g.conditions.length data =
      some (if Instant.millisStart a < d then .holds else .fails) := hmillis.2
  have hholds : ∀ (p : Prop) [Decidable p], some (if p then Truth.holds else .fails) =
      some .holds ↔ p := by
    intro p _
    split <;> simp_all
  have hfails : ∀ (p : Prop) [Decidable p], some (if p then Truth.holds else .fails) =
      some .fails ↔ ¬ p := by
    intro p _
    split <;> simp_all
  have hstart : Instant.millisStart a ≤ a ∧ (Instant.millisStart a = a ↔ a % 1000 = 0) := by
    unfold Instant.millisStart
    omega
  obtain ⟨hle, heq⟩ := hstart
  constructor
  · rw [hbefore, hholds]
  · rw [hafter, hholds]
  · rw [hbefore, hholds]
    omega
  · rw [hafter, hholds]
    omega
  · rintro rfl
    rw [hbefore, hfails, hafter, hfails]
    omega
  · exact ⟨hwhole.1 ▸ hholds _, hwhole.2 ▸ hholds _⟩
  · exact exists_expr_alone

end Bounds

/-- A document of some microsecond. -/
def stamped (micros : Int) : Json :=
  .ofMembers [("timestamp", .string (Instant.ofMicros micros).text)]

/-- The last microsecond in front of a millisecond, in a group with one more condition. -/
theorem timeTruth?_before_after_or :
    let g : ConditionGroup := ⟨.or, [⟨⟨["done"]⟩, .eq, [.string "no"]⟩], []⟩
    let at' := Instant.ofMicros 1700000000123456
    (g.before "timestamp" at').timeTruth? 1 (stamped 1700000000122999) = some .holds ∧
      (g.after "timestamp" at').timeTruth? 1 (stamped 1700000000122999) ≠ some .holds := by
  intro g at'
  have hyear : at'.HasPlainYear := by decide +kernel
  have hfield : ((stamped 1700000000122999).textAt (.parse "timestamp")).map Instant.read =
      some (.ok (.ofMicros 1700000000122999)) := by decide +kernel
  have hbounds := timeTruth?_before_after g hyear hfield
  exact ⟨hbounds.before_holds.2 (by decide), fun h => absurd (hbounds.after_holds.1 h) (by decide)⟩

/-- Paging behind the last moment that was seen shows the document of this moment again. -/
theorem after_shows_bound_again :
    let seen := Instant.ofMicros 1
    seen.HasPlainYear ∧
      ((stamped 1).textAt (.parse "timestamp")).map Instant.read = some (.ok seen) ∧
      ((empty .and).after "timestamp" seen).timeTruth? 0 (stamped 1) = some .holds := by
  decide +kernel

end ConditionGroup

end DocStore

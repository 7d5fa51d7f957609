import DocStore.Proofs.Query.Meaning
import Mathlib.Data.List.Forall2

/-!
# Operands stay out of the text

An operand is bound to a placeholder and stands nowhere in the text of a statement,
not even in the reason of a condition that does not fit.  So what a statement says
does not depend on the operands, only on how many there are; for a choice among
several values not even on that.

* `Query.SameButValues`: two queries that differ in the values of operands alone.
* `Piece.Resembles`: two pieces that differ in the value they bind.  Conditions of
  such queries are made of such pieces (`Condition.SameButValues.pieces`), and so
  are their filters, whole trees at a time (`ConditionGroup.SameButValues.filter?`).
* `Source.HasOneWhere`: a statement has its filter in one place, and nothing else in
  it comes from the conditions.

`Query.SameButValues.sameText` puts them together for every statement of a query.
-/

namespace DocStore

open Sql

/-! ## Statements that bind other values -/

namespace Sql

/-- What a parameter is. -/
inductive ParamKind where
  | text
  | textArray
  | bigint
  deriving DecidableEq

/-- The kind of a parameter. -/
def Param.kind : Param → ParamKind
  | text _ => .text
  | textArray _ => .textArray
  | bigint _ => .bigint

/-- One text, and as many parameters of the same kinds. -/
structure Statement.SameText (s s' : Statement) : Prop where
  sql : s.sql = s'.sql
  kinds : s.params.map Param.kind = s'.params.map Param.kind

/-- Pieces that differ in the value they bind, if at all. -/
inductive Piece.Resembles : Piece → Piece → Prop where
  | same (p : Piece) : Resembles p p
  | bound {v v' : Param} (h : v.kind = v'.kind) : Resembles (.param v) (.param v')

/-- Piece by piece. -/
abbrev Resemble : List Piece → List Piece → Prop := List.Forall₂ Piece.Resembles

theorem Resemble.refl (ps : List Piece) : Resemble ps ps :=
  List.forall₂_same.2 fun p _ => .same p

theorem Resemble.append {a a' b b' : List Piece} (ha : Resemble a a') (hb : Resemble b b') :
    Resemble (a ++ b) (a' ++ b') :=
  List.rel_append ha hb

/-- A bound value leaves only its number in the text. -/
theorem Resemble.renderFrom {ps ps' : List Piece} (h : Resemble ps ps') (n : Nat) :
    renderFrom n ps = renderFrom n ps' := by
  induction h generalizing n with
  | nil => rfl
  | cons hp _ ih =>
    cases hp with
    | same p => rw [Sql.renderFrom, Sql.renderFrom, ih]
    | bound h => rw [Sql.renderFrom, Sql.renderFrom, ih]; rfl

theorem Resemble.kinds {ps ps' : List Piece} (h : Resemble ps ps') :
    (params ps).map Param.kind = (params ps').map Param.kind := by
  induction h with
  | nil => rfl
  | @cons p p' _ _ hp _ ih =>
    rw [params, params] at ih
    cases hp with
    | same => cases p <;> simp [params, List.filterMap_cons, Piece.param?, ih]
    | bound h => simp [params, Piece.param?, ih, h]

theorem Resemble.ofPieces {ps ps' : List Piece} (h : Resemble ps ps') :
    (Statement.ofPieces ps).SameText (.ofPieces ps') :=
  ⟨h.renderFrom 1, h.kinds⟩

end Sql

/-! ## Queries that differ in operands -/

/-- Conditions that differ in the values of their operands alone.  A choice among values may
have any number of them. -/
structure Condition.SameButValues (c d : Condition) : Prop where
  field : c.field = d.field
  operator : c.operator = d.operator
  count : c.operator = .includes ∨ c.operator = .hasAnyKey ∨
    c.operands.length = d.operands.length

mutual

/-- Trees of one form whose conditions differ in the values of operands alone. -/
def ConditionGroup.SameButValues : ConditionGroup → ConditionGroup → Prop
  | ⟨operator, conditions, groups⟩, ⟨operator', conditions', groups'⟩ =>
      operator = operator' ∧ List.Forall₂ Condition.SameButValues conditions conditions' ∧
        ConditionGroup.AllSameButValues groups groups'

/-- As many trees, one like the other. -/
def ConditionGroup.AllSameButValues : List ConditionGroup → List ConditionGroup → Prop
  | [], [] => True
  | g :: rest, g' :: rest' =>
      ConditionGroup.SameButValues g g' ∧ ConditionGroup.AllSameButValues rest rest'
  | [], _ :: _ | _ :: _, [] => False

end

/-- Queries that differ in the values of operands alone. -/
structure Query.SameButValues (q q' : Query) : Prop where
  conditions : q.conditions.SameButValues q'.conditions
  rest : q' = { q with conditions := q'.conditions }

/-! ## Conditions -/

namespace Condition.SameButValues

variable {c d : Condition}

theorem isFitting_eq (h : c.SameButValues d) : c.isFitting = d.isFitting := by
  rw [isFitting, isFitting, ← h.operator]
  rcases h.count with hop | hop | hlength
  · rw [hop]
    rfl
  · rw [hop]
    rfl
  · rw [hlength]

/-- Why a condition does not fit is said without its operands. -/
theorem reason_eq (h : c.SameButValues d) : c.reason = d.reason := by
  rw [reason, reason, h.field, h.operator]

theorem comparison (h : c.SameButValues d) (hc : c.isFitting = true) (hd : d.isFitting = true) :
    Resemble (comparison c.operator c.operands) (comparison d.operator d.operands) := by
  obtain ⟨field, operator, operands⟩ := c
  obtain ⟨field', operator', operands'⟩ := d
  obtain rfl : operator = operator' := h.operator
  have hcast : ∀ (type op : String) (a a' : Json),
      Resemble (castComparison type op a) (castComparison type op a') := fun type op a a' =>
    .cons (.same _) (.cons (.bound rfl) (.cons (.same _) .nil))
  rcases isFitting_cases hc with ⟨a, rfl, hop⟩ | ⟨low, high, rfl, rfl⟩ | ⟨rfl, rfl⟩ | rfl | rfl
  · obtain ⟨a', rfl⟩ : ∃ a', operands' = [a'] := by
      rcases isFitting_cases hd with ⟨a', ha', -⟩ | ⟨_, _, -, rfl⟩ | ⟨-, rfl⟩ | rfl | rfl
      · exact ⟨a', ha'⟩
      all_goals simp at hop
    simp only [List.mem_cons, List.not_mem_nil, or_false] at hop
    rcases hop with rfl | rfl | rfl | rfl | rfl | rfl | rfl | rfl | rfl | rfl
    · exact .cons (.same _) (.cons (.bound rfl) .nil)
    · exact .cons (.same _) (.cons (.bound rfl) .nil)
    · exact hcast _ _ a a'
    · exact hcast _ _ a a'
    · exact hcast _ _ a a'
    · exact hcast _ _ a a'
    · exact hcast _ _ a a'
    · exact hcast _ _ a a'
    · exact .cons (.same _) (.cons (.bound rfl) (.cons (.same _) .nil))
    · exact .cons (.same _) (.cons (.bound rfl) .nil)
  · obtain ⟨low', high', rfl⟩ : ∃ low' high', operands' = [low', high'] := by
      rcases isFitting_cases hd with ⟨_, -, hop⟩ | ⟨low', high', h', -⟩ | ⟨-, h'⟩ | h' | h'
      · simp at hop
      · exact ⟨low', high', h'⟩
      all_goals simp at h'
    exact .cons (.same _) (.cons (.bound rfl) (.cons (.same _) (.cons (.bound rfl)
      (.cons (.same _) .nil))))
  · obtain rfl : operands' = [] := by
      rcases isFitting_cases hd with ⟨_, -, hop⟩ | ⟨_, _, -, h'⟩ | ⟨h', -⟩ | h' | h'
      · simp at hop
      · simp at h'
      · exact h'
      all_goals simp at h'
    exact .refl _
  · exact .cons (.same _) (.cons (.bound rfl) (.cons (.same _) .nil))
  · exact .cons (.same _) (.cons (.bound rfl) (.cons (.same _) .nil))

/-- Conditions that differ in values are made of pieces that do. -/
theorem pieces (h : c.SameButValues d) (column : String) :
    Resemble (c.pieces column) (d.pieces column) := by
  have hfitting := h.isFitting_eq
  cases hc : c.isFitting with
  | true =>
    rw [hc] at hfitting
    have hfield : c.fieldPieces column = d.fieldPieces column := by
      rw [fieldPieces, fieldPieces, h.field, h.operator]
    rw [pieces_of_isFitting hc, pieces_of_isFitting hfitting.symm, hfield]
    exact .append (.refl _) (h.comparison hc hfitting.symm)
  | false =>
    rw [hc] at hfitting
    rw [pieces_of_not_isFitting hc, pieces_of_not_isFitting hfitting.symm, h.reason_eq]
    exact .refl _

end Condition.SameButValues

/-! ## Trees -/

/-- Filters whose pieces differ in the values they bind. -/
def Filter.Resembles (f f' : Filter) : Prop :=
  Resemble (f.pieces dataColumn) (f'.pieces dataColumn)

theorem Filter.resemble_piecesOf (operator : Connective) {parts parts' : List Filter}
    (h : List.Forall₂ Filter.Resembles parts parts') :
    Resemble (Filter.piecesOf dataColumn operator parts)
      (Filter.piecesOf dataColumn operator parts') := by
  induction h with
  | nil => exact .refl _
  | cons hf hrest ih =>
    cases hrest with
    | nil => exact hf
    | cons _ _ => exact .append hf (.cons (.same _) ih)

theorem Filter.resembles_atom {c d : Condition} (h : c.SameButValues d) :
    Filter.Resembles (.atom c) (.atom d) := by
  rw [Filter.Resembles, Filter.pieces, Filter.pieces]
  exact h.pieces dataColumn

namespace ConditionGroup

mutual

/-- Trees that differ in values have filters that do, or none of them has one. -/
theorem SameButValues.filter? : ∀ {g g' : ConditionGroup}, g.SameButValues g' →
    Option.Rel Filter.Resembles g.filter? g'.filter?
  | ⟨operator, conditions, groups⟩, ⟨operator', conditions', groups'⟩, h => by
    obtain ⟨rfl, hconditions, hgroups⟩ := h
    have hatoms : List.Forall₂ Filter.Resembles (conditions.map Filter.atom)
        (conditions'.map Filter.atom) := by
      rw [List.forall₂_map_left_iff, List.forall₂_map_right_iff]
      exact hconditions.imp fun _ _ => Filter.resembles_atom
    have hparts : List.Forall₂ Filter.Resembles (conditions.map Filter.atom ++ filters groups)
        (conditions'.map Filter.atom ++ filters groups') :=
      List.rel_append hatoms (AllSameButValues.filters hgroups)
    rw [ConditionGroup.filter?, ConditionGroup.filter?]
    generalize conditions.map Filter.atom ++ filters groups = parts at hparts ⊢
    generalize conditions'.map Filter.atom ++ filters groups' = parts' at hparts ⊢
    cases hparts with
    | nil => exact .none
    | cons hf hrest =>
      refine .some ?_
      rw [Filter.Resembles, Filter.pieces, Filter.pieces]
      exact .append (.cons (.same _) (Filter.resemble_piecesOf operator (.cons hf hrest)))
        (.refl _)

theorem AllSameButValues.filters : ∀ {gs gs' : List ConditionGroup}, AllSameButValues gs gs' →
    List.Forall₂ Filter.Resembles (filters gs) (filters gs')
  | [], [], _ => .nil
  | g :: rest, g' :: rest', h => by
    have hg := SameButValues.filter? h.1
    have hrest := AllSameButValues.filters h.2
    rw [ConditionGroup.filters, ConditionGroup.filters]
    generalize g.filter? = f at hg ⊢
    generalize g'.filter? = f' at hg ⊢
    cases hg with
    | none => exact hrest
    | some hf => exact .cons hf hrest

end

end ConditionGroup

/-! ## Statements -/

namespace Source

/-- The source with another filter. -/
def withFilter (f : Option Filter) : Source → Source
  | rows r => rows { r with filter := f }
  | walk seed t => walk { seed with filter := f } t

/-- The filter of a source as a part of its statements. -/
def whereOf (f : Option Filter) : List Piece :=
  Rows.clause " WHERE " f (Filter.pieces dataColumn)

/-- A command has the filter of its source in one place, and all else is the same for every
filter. -/
def HasOneWhere (command : Source → List Piece) : Prop :=
  ∀ s : Source, ∃ start rest, ∀ f, command (s.withFilter f) = start ++ (whereOf f ++ rest)

theorem fromTable_withFilter (r : Rows) (f : Option Filter) :
    ({ r with filter := f } : Rows).fromTable = .name r.table :: (whereOf f ++ r.window) :=
  Rows.fromTable_eq _

theorem walkClause_withFilter (seed : Rows) (t : Traversal) (f : Option Filter) :
    walkClause { seed with filter := f } t =
      walkStart seed ++ (.name seed.table :: (whereOf f ++ seed.window)) ++
        walkHops seed.table t := by
  rw [walkClause_eq, fromTable_withFilter, List.append_assoc]
  rfl

theorem hasOneWhere_select (fields : List FieldPath) : HasOneWhere (select fields) := by
  rintro (r | ⟨seed, t⟩)
  · refine ⟨.text "SELECT " :: projection fields ++ [.text " FROM ", .name r.table], r.window,
      fun f => ?_⟩
    rw [withFilter, select, fromTable_withFilter]
    simp
  · refine ⟨walkStart seed ++ [.name seed.table], seed.window ++ (walkHops seed.table t ++
      (.text " SELECT " :: projection fields ++ [.text " FROM ", .name seed.table,
        .text " AS doc"] ++ joinReached "doc")), fun f => ?_⟩
    rw [withFilter, select, walkClause_withFilter]
    simp

theorem hasOneWhere_selectKeyed (lock : Bool) : HasOneWhere (selectKeyed lock) := by
  rintro (r | ⟨seed, t⟩)
  · refine ⟨[.text "SELECT id, data FROM ", .name r.table],
      r.window ++ (if lock then [.text " FOR UPDATE"] else []), fun f => ?_⟩
    rw [withFilter, selectKeyed, fromTable_withFilter]
    simp
  · refine ⟨walkStart seed ++ [.name seed.table], seed.window ++ (walkHops seed.table t ++
      ([.text " SELECT doc.id, doc.data FROM ", .name seed.table, .text " AS doc"] ++
        joinReached "doc" ++ (if lock then [.text " FOR UPDATE OF doc"] else []))), fun f => ?_⟩
    rw [withFilter, selectKeyed, walkClause_withFilter]
    simp

theorem hasOneWhere_count : HasOneWhere count := by
  intro s
  obtain ⟨start, rest, h⟩ := hasOneWhere_selectKeyed false s
  refine ⟨.text "SELECT COUNT(*) FROM (" :: start, rest ++ [.text ") AS matched"], fun f => ?_⟩
  rw [count, h f]
  simp

theorem hasOneWhere_delete : HasOneWhere delete := by
  rintro (r | ⟨seed, t⟩)
  · -- The filter does not decide whether ids are chosen in a query of their own.
    cases h : r.isWindowed with
    | true =>
      refine ⟨[.text "DELETE FROM ", .name r.table, .text " WHERE id IN (SELECT id FROM ",
        .name r.table], r.window ++ [.text ") RETURNING id"], fun f => ?_⟩
      replace h : ({ r with filter := f } : Rows).isWindowed = true := h
      rw [withFilter, delete, if_pos h, fromTable_withFilter]
      simp
    | false =>
      refine ⟨[.text "DELETE FROM ", .name r.table], [.text " RETURNING id"], fun f => ?_⟩
      replace h : ¬ ({ r with filter := f } : Rows).isWindowed = true := by
        rw [Bool.not_eq_true]
        exact h
      rw [withFilter, delete, if_neg h]
      simp [whereOf, Rows.whereClause]
  · refine ⟨walkStart seed ++ [.name seed.table], seed.window ++ (walkHops seed.table t ++
      ([.text ", removed AS (DELETE FROM ", .name seed.table,
        .text " WHERE id IN (SELECT id FROM walk) RETURNING id) SELECT removed.id FROM removed"] ++
        joinReached "removed")), fun f => ?_⟩
    rw [withFilter, delete, walkClause_withFilter]
    simp

theorem HasOneWhere.resemble {command : Source → List Piece} (h : HasOneWhere command)
    (s : Source) {f f' : Option Filter} (hf : Option.Rel Filter.Resembles f f') :
    Resemble (command (s.withFilter f)) (command (s.withFilter f')) := by
  obtain ⟨start, rest, hcommand⟩ := h s
  have hwhere : Resemble (whereOf f) (whereOf f') := by
    cases hf with
    | none => exact .refl _
    | some hf => exact .cons (.same _) hf
  rw [hcommand, hcommand]
  exact .append (.refl _) (.append hwhere (.refl _))

end Source

namespace Query

theorem source_withFilter (q : Query) (g : ConditionGroup) (table : String) :
    ({ q with conditions := g } : Query).source table =
      (q.source table).withFilter g.filter? := by
  rw [source, source]
  cases q.recurse <;> rfl

/-- The statements of two queries that differ in the values of operands alone have one text and
parameters of the same kinds, whatever they are for. -/
theorem SameButValues.sameText {q q' : Query} (h : q.SameButValues q') (table : String) :
    (q.select table).SameText (q'.select table) ∧
      (∀ lock, (q.selectKeyed table lock).SameText (q'.selectKeyed table lock)) ∧
      (q.count table).SameText (q'.count table) ∧
      (q.delete table).SameText (q'.delete table) ∧
      Option.Rel Statement.SameText q.conditions.statement? q'.conditions.statement? := by
  obtain ⟨hconditions, hrest⟩ := h
  have hfilter := hconditions.filter?
  have hsource : ∀ {command : Source → List Piece}, Source.HasOneWhere command →
      Resemble (command (q.source table)) (command (q'.source table)) := by
    intro command hcommand
    have hq : q.source table = (q.source table).withFilter q.conditions.filter? :=
      source_withFilter q q.conditions table
    have hq' := source_withFilter q q'.conditions table
    rw [← hrest] at hq'
    have hresemble := hcommand.resemble (q.source table) hfilter
    rwa [← hq, ← hq'] at hresemble
  have hfields : q'.fields = q.fields := by rw [hrest]
  refine ⟨?_, fun lock => ?_, ?_, ?_, ?_⟩
  · rw [select, select, hfields]
    exact (hsource (Source.hasOneWhere_select q.fields)).ofPieces
  · exact (hsource (Source.hasOneWhere_selectKeyed lock)).ofPieces
  · exact (hsource Source.hasOneWhere_count).ofPieces
  · exact (hsource Source.hasOneWhere_delete).ofPieces
  · rw [ConditionGroup.statement?, ConditionGroup.statement?]
    generalize q.conditions.filter? = f at hfilter ⊢
    generalize q'.conditions.filter? = f' at hfilter ⊢
    cases hfilter with
    | none => exact .none
    | some hf => exact .some (Resemble.ofPieces hf)

/-- A walk with a range, a choice, a containment two levels down, and two conditions that do not
fit. -/
def ranged (low high needle : Json) (choice : List Json) (extra : Json) : Query :=
  { all with
    conditions := ⟨.or, [⟨⟨["n"]⟩, .between, [low, high]⟩, ⟨⟨["color"]⟩, .includes, choice⟩],
      [⟨.and, [⟨⟨["m"]⟩, .unknown "like", [extra]⟩, ⟨⟨["k"]⟩, .isNull, [extra]⟩],
        [⟨.or, [⟨⟨["tags"]⟩, .contains, [needle]⟩], []⟩]⟩]⟩
    sort := [⟨⟨["n"]⟩, .desc⟩]
    recurse := some ⟨⟨["id"]⟩, ⟨["parent"]⟩, some 3⟩ }

/-- Values that try to leave their place, and a choice with another number of values. -/
theorem SameButValues.sameText_ranged :
    let q := ranged (.string "1") (.string "2") (.string "red") [.string "a", .string "b"] .null
    let q' := ranged (.string "' OR 1=1 --") (.string "$1") (.string "\"]") [] (.string "')")
    q.SameButValues q' ∧ (q.delete "docs").SameText (q'.delete "docs") ∧
      Option.Rel Statement.SameText q.conditions.statement? q'.conditions.statement? := by
  intro q q'
  have hcondition : ∀ (field : FieldPath) (operator : Operator) (as bs : List Json),
      as.length = bs.length →
      Condition.SameButValues ⟨field, operator, as⟩ ⟨field, operator, bs⟩ :=
    fun field operator as bs h => ⟨rfl, rfl, .inr (.inr h)⟩
  have h : q.SameButValues q' := by
    refine ⟨⟨rfl, .cons (hcondition _ _ _ _ rfl) (.cons ⟨rfl, rfl, .inl rfl⟩ .nil), ⟨rfl,
      .cons (hcondition _ _ _ _ rfl) (.cons (hcondition _ _ _ _ rfl) .nil), ⟨rfl,
        .cons (hcondition _ _ _ _ rfl) .nil, trivial⟩, trivial⟩, trivial⟩, rfl⟩
  obtain ⟨-, -, -, hdelete, hstatement⟩ := SameButValues.sameText h "docs"
  exact ⟨h, hdelete, hstatement⟩

end Query

end DocStore

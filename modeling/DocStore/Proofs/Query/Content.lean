import DocStore.Proofs.Query.Command

/-!
# What a statement holds of its query

The pieces of a statement are fixed text but for what they take over from the
query: conditions, paths of fields and names of columns.  `Query.content` lists
these in the order in which the statement of a command holds them, each as a view
shows it; `filterMap_pieces?` says that a view of the pieces that shows no fixed
text sees just that.

The conditions come in the order of the tree: `atoms_filter?` says that leaving
the empty groups out changes nothing about them.
-/

namespace DocStore

open Sql

variable {α : Type}

/-! ## The order of a statement -/

namespace Query

/-- Conditions and sort fields, as the rows of a query show them. -/
def rowsContent (ofCondition : Condition → List α) (ofPath : FieldPath → List α) (q : Query) :
    List α :=
  q.conditions.flatten.flatMap ofCondition ++ q.sort.flatMap fun s => ofPath s.field

/-- What the source of a query shows.  A walk numbers its seeds first, and shows the order
once more there. -/
def sourceContent (ofCondition : Condition → List α) (ofPath : FieldPath → List α) (q : Query) :
    List α :=
  match q.recurse with
  | none => q.rowsContent ofCondition ofPath
  | some t =>
      (q.sort.flatMap fun s => ofPath s.field) ++ q.rowsContent ofCondition ofPath ++
        ofPath t.linkField ++ ofPath t.seedField

/-- What the projected fields show. -/
def fieldContent (ofPath ofAlias : FieldPath → List α) (q : Query) : List α :=
  q.fields.flatMap fun field => ofPath field ++ ofAlias field

/-- What the statement of a command shows of the query. -/
def content (ofCondition : Condition → List α) (ofPath ofAlias : FieldPath → List α)
    (q : Query) : Command → List α
  | .select =>
      match q.recurse with
      | none => q.fieldContent ofPath ofAlias ++ q.sourceContent ofCondition ofPath
      | some _ => q.sourceContent ofCondition ofPath ++ q.fieldContent ofPath ofAlias
  | .selectKeyed _ | .count | .delete => q.sourceContent ofCondition ofPath
  | .filter => q.conditions.flatten.flatMap ofCondition

end Query

/-! ## The conditions of a filter -/

mutual

/-- The conditions of a filter from left to right. -/
def Filter.atoms : Filter → List Condition
  | .atom c => [c]
  | .joined _ parts => Filter.atomsOf parts

/-- The conditions of several filters. -/
def Filter.atomsOf : List Filter → List Condition
  | [] => []
  | f :: rest => f.atoms ++ Filter.atomsOf rest

end

theorem Filter.atomsOf_append (a b : List Filter) :
    Filter.atomsOf (a ++ b) = Filter.atomsOf a ++ Filter.atomsOf b := by
  induction a with
  | nil => rfl
  | cons f a ih => rw [List.cons_append, atomsOf, atomsOf, ih, List.append_assoc]

theorem Filter.atomsOf_map_atom (cs : List Condition) :
    Filter.atomsOf (cs.map Filter.atom) = cs := by
  induction cs with
  | nil => rfl
  | cons c cs ih => rw [List.map_cons, atomsOf, atoms, ih, List.singleton_append]

/-- The conditions of a filter that may be missing. -/
def Filter.atomsOf? (f : Option Filter) : List Condition := f.elim [] Filter.atoms

mutual

/-- The filter of a tree has the conditions of the tree. -/
theorem atoms_filter? : ∀ g : ConditionGroup, Filter.atomsOf? g.filter? = g.flatten
  | ⟨operator, conditions, groups⟩ => by
    have hparts : Filter.atomsOf (conditions.map Filter.atom ++ ConditionGroup.filters groups) =
        conditions ++ ConditionGroup.flattenAll groups := by
      rw [Filter.atomsOf_append, Filter.atomsOf_map_atom, atoms_filters groups]
    rw [ConditionGroup.filter?, ConditionGroup.flatten, ← hparts]
    split
    · rename_i hnil
      rw [hnil]
      rfl
    · rfl

/-- The filters of several trees have their conditions. -/
theorem atoms_filters :
    ∀ gs : List ConditionGroup,
      Filter.atomsOf (ConditionGroup.filters gs) = ConditionGroup.flattenAll gs
  | [] => rfl
  | g :: rest => by
    have hg := atoms_filter? g
    rw [ConditionGroup.filters, ConditionGroup.flattenAll, ← hg]
    cases g.filter? with
    | none => exact atoms_filters rest
    | some f => rw [Filter.atomsOf, atoms_filters rest]; rfl

end

/-! ## Views of pieces -/

/-- A view that shows nothing of fixed text, names and numbers. -/
structure IsQuiet (view : Piece → Option α) : Prop where
  text : ∀ s, view (.text s) = none
  name : ∀ s, view (.name s) = none
  number : ∀ n, view (.number n) = none

theorem isQuiet_quoted? : IsQuiet Piece.quoted? := ⟨fun _ => rfl, fun _ => rfl, fun _ => rfl⟩

theorem isQuiet_param? : IsQuiet Piece.param? := ⟨fun _ => rfl, fun _ => rfl, fun _ => rfl⟩

section Views

variable {view : Piece → Option α} (hquiet : IsQuiet view)

/-- What a view shows of a path: its names. -/
def pathView (view : Piece → Option α) (path : FieldPath) : List α :=
  path.segments.filterMap fun s => view (.literal s)

/-- What a view shows of the name of a projected column. -/
def aliasView (view : Piece → Option α) (path : FieldPath) : List α :=
  (view (.identifier path.dotted)).toList

/-- What a view shows of a condition on documents. -/
def conditionView (view : Piece → Option α) (c : Condition) : List α :=
  (c.pieces dataColumn).filterMap view

include hquiet

theorem filterMap_text (s : String) (rest : List Piece) :
    (.text s :: rest).filterMap view = rest.filterMap view :=
  List.filterMap_cons_none (hquiet.text s)

theorem filterMap_name (s : String) (rest : List Piece) :
    (.name s :: rest).filterMap view = rest.filterMap view :=
  List.filterMap_cons_none (hquiet.name s)

theorem filterMap_steps (last : String) (segments : List String) :
    (FieldPath.steps last segments).filterMap view =
      segments.filterMap fun s => view (.literal s) := by
  fun_induction FieldPath.steps last segments with
  | case1 => rfl
  | case2 s => rw [filterMap_text hquiet, List.filterMap_cons, List.filterMap_cons]; rfl
  | case3 s rest hrest ih =>
    rw [filterMap_text hquiet, List.filterMap_cons, List.filterMap_cons, ih]

theorem filterMap_asText (column : String) (path : FieldPath) :
    (path.asText column).filterMap view = pathView view path := by
  rw [FieldPath.asText, filterMap_text hquiet, filterMap_steps hquiet, pathView]

theorem filterMap_asJson (column : String) (path : FieldPath) :
    (path.asJson column).filterMap view = pathView view path := by
  rw [FieldPath.asJson, filterMap_text hquiet, filterMap_steps hquiet, pathView]

mutual

theorem filterMap_filter :
    ∀ f : Filter, (f.pieces dataColumn).filterMap view = f.atoms.flatMap (conditionView view)
  | .atom c => by
    rw [Filter.pieces, Filter.atoms, List.flatMap_singleton, conditionView]
  | .joined operator parts => by
    rw [Filter.pieces, Filter.atoms, List.cons_append, filterMap_text hquiet,
      List.filterMap_append, filterMap_filters operator parts, filterMap_text hquiet,
      List.filterMap_nil, List.append_nil]

theorem filterMap_filters (operator : Connective) :
    ∀ parts : List Filter, (Filter.piecesOf dataColumn operator parts).filterMap view =
      (Filter.atomsOf parts).flatMap (conditionView view)
  | [] => rfl
  | [f] => by
    rw [Filter.piecesOf, Filter.atomsOf, Filter.atomsOf, List.append_nil, filterMap_filter f]
  | f :: g :: rest => by
    rw [Filter.piecesOf, Filter.atomsOf, List.filterMap_append, filterMap_filter f,
      filterMap_text hquiet, filterMap_filters operator (g :: rest), List.flatMap_append]
    simp

end

namespace Rows

theorem filterMap_whereClause (r : Rows) :
    r.whereClause.filterMap view =
      (Filter.atomsOf? r.filter).flatMap (conditionView view) := by
  rw [whereClause]
  cases r.filter with
  | none => rfl
  | some f => rw [clause, filterMap_text hquiet, filterMap_filter hquiet f]; rfl

theorem filterMap_separated (parts : List (List Piece)) :
    (separated (.text ", ") parts).filterMap view = parts.flatMap (List.filterMap view) := by
  fun_induction separated (.text ", ") parts with
  | case1 => rfl
  | case2 ps => rw [List.flatMap_singleton]
  | case3 ps rest hrest ih =>
    rw [List.filterMap_append, filterMap_text hquiet, ih, List.flatMap_cons]

/-- The sort terms behind a word. -/
theorem filterMap_order (start : String) (r : Rows) :
    (clause start r.orderTerms? id).filterMap view =
      r.order.flatMap fun s => pathView view s.field := by
  have hterm : ∀ s : SortTerm,
      (s.field.asText dataColumn ++ [Piece.text (" " ++ s.direction.word)]).filterMap view =
        pathView view s.field := by
    intro s
    rw [List.filterMap_append, filterMap_asText hquiet, filterMap_text hquiet, List.filterMap_nil,
      List.append_nil]
  rw [orderTerms?]
  cases r.order with
  | nil => rfl
  | cons s rest =>
    rw [List.isEmpty_cons, if_neg Bool.false_ne_true, clause, filterMap_text hquiet, id,
      filterMap_separated hquiet, List.flatMap_map]
    simp only [hterm]

theorem filterMap_number (start : String) (n : Option Nat) :
    (clause start n fun k => [.number k]).filterMap view = [] := by
  cases n with
  | none => rfl
  | some k =>
    rw [clause, filterMap_text hquiet, List.filterMap_cons_none (hquiet.number k),
      List.filterMap_nil]

theorem filterMap_fromTable (r : Rows) :
    r.fromTable.filterMap view =
      (Filter.atomsOf? r.filter).flatMap (conditionView view) ++
        r.order.flatMap fun s => pathView view s.field := by
  rw [fromTable, filterMap_name hquiet, tail, List.filterMap_append, List.filterMap_append,
    List.filterMap_append, filterMap_whereClause hquiet, filterMap_order hquiet,
    filterMap_number hquiet, filterMap_number hquiet, List.append_nil, List.append_nil]

end Rows

theorem filterMap_projection (q : Query) :
    (projection q.fields).filterMap view = q.fieldContent (pathView view) (aliasView view) := by
  rw [projection, filterMap_text hquiet, List.filterMap_flatMap, Query.fieldContent]
  congr 1
  funext field
  rw [List.cons_append, filterMap_text hquiet, List.filterMap_append, filterMap_asText hquiet,
    filterMap_text hquiet, aliasView, List.filterMap_cons, List.filterMap_nil]
  cases view (.identifier field.dotted) <;> rfl

theorem filterMap_joinReached (rows : String) : (joinReached rows).filterMap view = [] := by
  rw [joinReached, filterMap_text hquiet, List.filterMap_nil]

/-- The order of the seeds. -/
theorem filterMap_walkStart (seed : Rows) :
    (walkStart seed).filterMap view = seed.order.flatMap fun s => pathView view s.field := by
  rw [walkStart, List.cons_append, filterMap_text hquiet, List.filterMap_append,
    Rows.filterMap_order hquiet, filterMap_text hquiet, List.filterMap_nil, List.append_nil]

theorem filterMap_walkHops (table : String) (t : Traversal) :
    (walkHops table t).filterMap view = pathView view t.linkField ++ pathView view t.seedField := by
  rw [walkHops]
  simp only [filterMap_text hquiet, filterMap_name hquiet, List.filterMap_append,
    Rows.filterMap_number hquiet, filterMap_asText hquiet, List.filterMap_nil, List.append_nil]

/-- The rows of a query and the order of its seeds. -/
theorem filterMap_walkClause (seed : Rows) (t : Traversal) :
    (walkClause seed t).filterMap view =
      (seed.order.flatMap fun s => pathView view s.field) ++ seed.fromTable.filterMap view ++
        pathView view t.linkField ++ pathView view t.seedField := by
  rw [walkClause_eq, List.filterMap_append, List.filterMap_append, filterMap_walkStart hquiet,
    filterMap_walkHops hquiet]
  simp only [List.append_assoc]

/-- The rows of a source. -/
theorem filterMap_rows (q : Query) (table : String) :
    (Rows.mk table q.conditions.filter? q.sort q.limit q.offset).fromTable.filterMap view =
      q.rowsContent (conditionView view) (pathView view) := by
  rw [Rows.filterMap_fromTable hquiet, atoms_filter?, Query.rowsContent]

/-- Deleting without a window shows the filter only, which is all there is then. -/
theorem filterMap_delete_rows (r : Rows) :
    (Source.rows r).delete.filterMap view = r.fromTable.filterMap view := by
  rw [Source.delete]
  split
  · simp only [List.cons_append, List.nil_append, List.filterMap_append, filterMap_text hquiet,
      filterMap_name hquiet, List.filterMap_nil, List.append_nil]
  · rename_i hplain
    have horder : r.order = [] := by
      simp only [Rows.isWindowed, Bool.or_eq_true, Bool.not_eq_true', not_or] at hplain
      simpa using hplain.1.1
    rw [Rows.filterMap_fromTable hquiet, horder]
    simp only [List.cons_append, List.nil_append, List.filterMap_append, filterMap_text hquiet,
      filterMap_name hquiet, List.filterMap_nil, List.append_nil, List.flatMap_nil,
      Rows.filterMap_whereClause hquiet]

theorem filterMap_selectKeyed (q : Query) (table : String) (lock : Bool) :
    ((q.source table).selectKeyed lock).filterMap view =
      q.sourceContent (conditionView view) (pathView view) := by
  have hrows := filterMap_rows hquiet q table
  rw [Query.source, Query.sourceContent]
  cases q.recurse with
  | none =>
    rw [Source.selectKeyed, List.cons_append, filterMap_text hquiet, List.filterMap_append, hrows]
    cases lock with
    | false => exact List.append_nil _
    | true => rw [if_pos rfl, filterMap_text hquiet, List.filterMap_nil, List.append_nil]
  | some t =>
    simp only [Source.selectKeyed, List.append_assoc, List.cons_append, List.nil_append,
      filterMap_text hquiet, filterMap_name hquiet, List.filterMap_append, hrows,
      filterMap_walkClause hquiet, filterMap_joinReached hquiet]
    cases lock with
    | false => simp
    | true => simp [hquiet.text]

/-- A view of the pieces of a statement sees the content of the query. -/
theorem filterMap_pieces? {q : Query} {table : TableName} {command : Query.Command}
    {ps : List Piece} (h : q.pieces? table command = some ps) :
    ps.filterMap view =
      q.content (conditionView view) (pathView view) (aliasView view) command := by
  have hrows := filterMap_rows hquiet q table.text
  have hfields := filterMap_projection hquiet q
  cases command with
  | filter =>
    obtain ⟨f, hf, rfl⟩ := Option.map_eq_some_iff.1 h
    rw [filterMap_filter hquiet, Query.content, ← atoms_filter?, hf]
    rfl
  | select =>
    rw [← Option.some.inj h, Query.source, Query.content, Query.sourceContent]
    cases q.recurse with
    | none =>
      simp only [Source.select, List.cons_append, filterMap_text hquiet, List.filterMap_append,
        hfields, hrows]
    | some t =>
      simp only [Source.select, List.append_assoc, List.cons_append, List.nil_append,
        filterMap_text hquiet, filterMap_name hquiet, List.filterMap_append, hfields, hrows,
        filterMap_walkClause hquiet, filterMap_joinReached hquiet, List.append_nil]
  | selectKeyed lock =>
    rw [← Option.some.inj h, filterMap_selectKeyed hquiet]
    rfl
  | count =>
    rw [← Option.some.inj h, Source.count, List.cons_append, filterMap_text hquiet,
      List.filterMap_append, filterMap_selectKeyed hquiet, filterMap_text hquiet,
      List.filterMap_nil, List.append_nil]
    rfl
  | delete =>
    rw [← Option.some.inj h, Query.source, Query.content, Query.sourceContent]
    cases q.recurse with
    | none => rw [← hrows, ← filterMap_delete_rows hquiet]
    | some t =>
      simp only [Source.delete, List.append_assoc, List.cons_append, List.nil_append,
        filterMap_text hquiet, filterMap_name hquiet, List.filterMap_append, hrows,
        filterMap_walkClause hquiet, filterMap_joinReached hquiet, List.append_nil]

end Views

end DocStore

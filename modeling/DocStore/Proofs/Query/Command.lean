import DocStore.Proofs.Query.Comparison
import DocStore.Proofs.Sql.Spacing

/-!
# The commands of a query

A query compiles to one statement for each command (`Command`).  This module says
how the text of each of them is cut into tokens: no two pieces run together,
whatever the query holds (`spacing_pieces?`), so the tokens of a compiled statement
are those of its pieces (`tokens?_compile`).

The proof follows the plan of a statement from the inside out: paths, conditions,
filters, clauses, sources, commands.
-/

namespace DocStore

open Sql

namespace Query

/-- What a query is compiled for. -/
inductive Command where
  | select
  | selectKeyed (lock : Bool)
  | count
  | delete
  /-- The condition tree alone. -/
  | filter
  deriving DecidableEq

/-- The statement of a command; none for the filter of an empty tree. -/
def compile (q : Query) (table : TableName) : Command → Option Statement
  | .select => some (q.select table.text)
  | .selectKeyed lock => some (q.selectKeyed table.text lock)
  | .count => some (q.count table.text)
  | .delete => some (q.delete table.text)
  | .filter => q.conditions.statement?

/-- The pieces of the statement of a command. -/
def pieces? (q : Query) (table : TableName) : Command → Option (List Piece)
  | .select => some ((q.source table.text).select q.fields)
  | .selectKeyed lock => some ((q.source table.text).selectKeyed lock)
  | .count => some (q.source table.text).count
  | .delete => some (q.source table.text).delete
  | .filter => q.conditions.filter?.map (Filter.pieces dataColumn)

theorem compile_eq (q : Query) (table : TableName) (command : Command) :
    q.compile table command = (q.pieces? table command).map Statement.ofPieces := by
  cases command with
  | filter =>
    rw [compile, pieces?, Option.map_map]
    rfl
  | _ => rfl

end Query

/-! ## Paths and conditions -/

theorem spacing_name (table : TableName) : spacing .free [.name table.text] = some .token := by
  simp [spacing, Piece.fits, Piece.edge?, table.isName, table.isFolded]

/-- A step into a document stands behind a column or another step. -/
theorem spacing_steps {last : String} (hlast : last = "->" ∨ last = "->>")
    (segments : List String) :
    spacing .token (FieldPath.steps last segments) = some .token := by
  fun_induction FieldPath.steps last segments with
  | case1 => rfl
  | case2 s => rcases hlast with rfl | rfl <;> rfl
  | case3 s rest hrest ih => exact ih

/-- A column that a path can start with. -/
def IsColumn (column : String) : Prop := spacing .free [.text column] = some .token

theorem isColumn_data : IsColumn dataColumn := rfl

theorem isColumn_hop : IsColumn "hop.data" := rfl

theorem isColumn_walk : IsColumn "walk.data" := rfl

theorem spacing_asText {column : String} (hcolumn : IsColumn column) (path : FieldPath) :
    spacing .free (path.asText column) = some .token := by
  rw [FieldPath.asText, spacing_cons hcolumn, spacing_steps (Or.inr rfl)]

theorem spacing_asJson {column : String} (hcolumn : IsColumn column) (path : FieldPath) :
    spacing .free (path.asJson column) = some .token := by
  rw [FieldPath.asJson, spacing_cons hcolumn, spacing_steps (Or.inl rfl)]

namespace Condition

theorem spacing_fieldPieces {column : String} (hcolumn : IsColumn column) (c : Condition) :
    spacing .free (c.fieldPieces column) = some .token := by
  rw [fieldPieces]
  split
  · exact spacing_asJson hcolumn c.field
  · exact spacing_asText hcolumn c.field

theorem spacing_comparison {c : Condition} (h : c.isFitting = true) :
    spacing .token (comparison c.operator c.operands) = some .token := by
  obtain ⟨field, operator, operands⟩ := c
  rcases isFitting_cases h with ⟨a, rfl, hop⟩ | ⟨low, high, rfl, rfl⟩ | ⟨rfl, rfl⟩ | rfl | rfl
  · simp only [List.mem_cons, List.not_mem_nil, or_false] at hop
    rcases hop with rfl | rfl | rfl | rfl | rfl | rfl | rfl | rfl | rfl | rfl <;> rfl
  · rfl
  · rfl
  · rfl
  · rfl

/-- A condition stands behind a bracket or a connective. -/
theorem spacing_pieces {column : String} (hcolumn : IsColumn column) (c : Condition) :
    spacing .free (c.pieces column) = some .token := by
  cases h : c.isFitting with
  | true =>
    have hopen : spacing .free [.text "("] = some .free := rfl
    rw [pieces_of_isFitting h, List.cons_append, spacing_cons hopen,
      spacing_append (spacing_fieldPieces hcolumn c), spacing_comparison h]
  | false =>
    rw [pieces_of_not_isFitting h]
    rfl

end Condition

mutual

/-- A filter stands behind a bracket or a connective. -/
theorem spacing_filter {column : String} (hcolumn : IsColumn column) :
    ∀ f : Filter, spacing .free (f.pieces column) = some .token
  | .atom c => by
    rw [Filter.pieces]
    exact Condition.spacing_pieces hcolumn c
  | .joined operator parts => by
    have hopen : spacing .free [.text "("] = some .free := rfl
    rw [Filter.pieces, List.cons_append, spacing_cons hopen, spacing_filters hcolumn]

/-- Connected filters and the bracket that closes them. -/
theorem spacing_filters {column : String} (hcolumn : IsColumn column) (operator : Connective) :
    ∀ parts : List Filter,
      spacing .free (Filter.piecesOf column operator parts ++ [.text ")"]) = some .token
  | [] => rfl
  | [f] => by
    rw [Filter.piecesOf, spacing_append (spacing_filter hcolumn f)]
    rfl
  | f :: g :: rest => by
    have hjoin : spacing .token [.text (" " ++ operator.word ++ " ")] = some .free := by
      cases operator <;> rfl
    rw [Filter.piecesOf, List.append_assoc, spacing_append (spacing_filter hcolumn f),
      List.cons_append, spacing_cons hjoin, spacing_filters hcolumn operator (g :: rest)]
    simp

end

/-! ## Clauses -/

/-- Lists with commas between them are well spaced when each of them is. -/
theorem spacing_separated {parts : List (List Piece)} (hne : parts ≠ [])
    (h : ∀ ps ∈ parts, spacing .free ps = some .token) :
    spacing .free (separated (.text ", ") parts) = some .token := by
  have hcomma : spacing .token [.text ", "] = some .free := rfl
  fun_induction separated (.text ", ") parts with
  | case1 => exact absurd rfl hne
  | case2 ps => exact h ps List.mem_cons_self
  | case3 ps rest hrest ih =>
    rw [spacing_append (h ps List.mem_cons_self), spacing_cons hcomma]
    exact ih hrest fun qs hqs => h qs (List.mem_cons_of_mem ps hqs)

namespace Rows

theorem spacing_whereClause (r : Rows) : spacing .token r.whereClause = some .token := by
  have hword : spacing .token [.text " WHERE "] = some .free := rfl
  cases hf : r.filter with
  | none =>
    rw [whereClause, hf]
    rfl
  | some f =>
    rw [whereClause, hf, clause, spacing_cons hword, spacing_filter isColumn_data f]

theorem spacing_sortTerm (s : SortTerm) :
    spacing .free (s.field.asText dataColumn ++ [.text (" " ++ s.direction.word)]) =
      some .token := by
  rw [spacing_append (spacing_asText isColumn_data s.field)]
  cases s.direction <;> rfl

theorem spacing_orderTerms {r : Rows} {terms : List Piece} (h : r.orderTerms? = some terms) :
    spacing .free terms = some .token := by
  rw [orderTerms?] at h
  split at h
  · simp at h
  · rename_i hne
    rw [← Option.some.inj h]
    apply spacing_separated
    · simpa using hne
    · intro ps hps
      obtain ⟨s, -, rfl⟩ := List.mem_map.1 hps
      exact spacing_sortTerm s

/-- Filter, order and window stand behind the table name. -/
theorem spacing_tail (r : Rows) : spacing .token r.tail = some .token := by
  have horder : spacing .token (clause " ORDER BY " r.orderTerms? id) = some .token := by
    have hword : spacing .token [.text " ORDER BY "] = some .free := rfl
    cases h : r.orderTerms? with
    | none => rfl
    | some terms =>
      rw [clause, spacing_cons hword]
      exact spacing_orderTerms h
  have hlimit : spacing .token (clause " LIMIT " r.limit fun n => [.number n]) = some .token := by
    cases r.limit <;> rfl
  have hoffset :
      spacing .token (clause " OFFSET " r.offset fun n => [.number n]) = some .token := by
    cases r.offset <;> rfl
  rw [tail, List.append_assoc, List.append_assoc, spacing_append r.spacing_whereClause,
    spacing_append horder, spacing_append hlimit, hoffset]

theorem spacing_fromTable {r : Rows} (h : spacing .free [.name r.table] = some .token) :
    spacing .free r.fromTable = some .token := by
  rw [fromTable, spacing_cons h, spacing_tail]

end Rows

/-- A walk in front of its seeds, which it numbers in their order. -/
def walkStart (seed : Rows) : List Piece :=
  .text ("WITH RECURSIVE walk(id, data, depth, ord) AS (" ++
    "SELECT seed.id, seed.data, 0, seed.ord FROM " ++
    "(SELECT id, data, ROW_NUMBER() OVER (") ::
  Rows.clause "ORDER BY " seed.orderTerms? id ++ [.text ") AS ord FROM "]

/-- A walk behind its seeds: the hops. -/
def walkHops (table : String) (t : Traversal) : List Piece :=
  .text (") AS seed UNION ALL " ++
    "SELECT hop.id, hop.data, walk.depth + 1, walk.ord FROM ") ::
  .name table :: .text " AS hop JOIN walk ON (" ::
  (t.linkField.asText "hop.data" ++ .text ") = (" ::
  (t.seedField.asText "walk.data" ++ .text ")" ::
  (Rows.clause " WHERE walk.depth < " t.maxDepth (fun n => [.number n]) ++ [.text ")"])))

/-- The recursive part of a walk, cut at its seeds. -/
theorem walkClause_eq (seed : Rows) (t : Traversal) :
    walkClause seed t = walkStart seed ++ (seed.fromTable ++ walkHops seed.table t) := by
  rw [walkClause, walkStart, walkHops]
  cases seed.orderTerms? with
  | none => simp [Rows.clause]
  | some terms => simp [Rows.clause]

theorem spacing_walkStart (seed : Rows) : spacing .free (walkStart seed) = some .free := by
  have hstart : spacing .free [.text ("WITH RECURSIVE walk(id, data, depth, ord) AS (" ++
      "SELECT seed.id, seed.data, 0, seed.ord FROM " ++
      "(SELECT id, data, ROW_NUMBER() OVER (")] = some .free := by
    simp only [spacing, Piece.fits, Piece.edge?, String.toList_append]
    decide +kernel
  have horder : spacing .free [.text "ORDER BY "] = some .free := rfl
  rw [walkStart, List.cons_append, spacing_cons hstart]
  cases h : seed.orderTerms? with
  | none => rfl
  | some terms =>
    rw [Rows.clause, List.cons_append, spacing_cons horder, id,
      spacing_append (Rows.spacing_orderTerms h)]
    rfl

theorem spacing_walkHops {table : String} (h : spacing .free [.name table] = some .token)
    (t : Traversal) : spacing .token (walkHops table t) = some .token := by
  have hunion : spacing .token [.text (") AS seed UNION ALL " ++
      "SELECT hop.id, hop.data, walk.depth + 1, walk.ord FROM ")] = some .free := by
    simp only [spacing, Piece.fits, Piece.edge?, String.toList_append]
    decide +kernel
  have hhop : spacing .token [.text " AS hop JOIN walk ON ("] = some .free := rfl
  have hlink : spacing .token [.text ") = ("] = some .free := rfl
  have hclose : spacing .token [.text ")"] = some .token := rfl
  have hbound :
      spacing .token (Rows.clause " WHERE walk.depth < " t.maxDepth fun n => [.number n]) =
        some .token := by
    cases t.maxDepth <;> rfl
  rw [walkHops, spacing_cons hunion, spacing_cons h, spacing_cons hhop,
    spacing_append (spacing_asText isColumn_hop t.linkField), spacing_cons hlink,
    spacing_append (spacing_asText isColumn_walk t.seedField), spacing_cons hclose,
    spacing_append hbound, hclose]

/-- The recursive part of a walk. -/
theorem spacing_walkClause {seed : Rows} (h : spacing .free [.name seed.table] = some .token)
    (t : Traversal) : spacing .free (walkClause seed t) = some .token := by
  rw [walkClause_eq, spacing_append (spacing_walkStart seed),
    spacing_append (Rows.spacing_fromTable h), spacing_walkHops h]

/-! ## Commands -/

/-- The projected columns stand behind the word that reads them. -/
theorem spacing_projection (fields : List FieldPath) :
    spacing .free (projection fields) = some .token := by
  have hcomma : spacing .token [.text ", "] = some .free := rfl
  have hfields : spacing .token (fields.flatMap fun field =>
      .text ", " :: field.asText dataColumn ++ [.text " AS ", .identifier field.dotted]) =
        some .token := by
    induction fields with
    | nil => rfl
    | cons field rest ih =>
      have halias : spacing .token [.text " AS ", .identifier field.dotted] = some .token := rfl
      rw [List.flatMap_cons, List.append_assoc, List.cons_append, spacing_cons hcomma,
        spacing_append (spacing_asText isColumn_data field), spacing_append halias, ih]
  rw [projection, spacing_cons isColumn_data, hfields]

/-- What a walk reached, joined to the rows of a name. -/
theorem spacing_joinReached {rows : String} (h : rows = "doc" ∨ rows = "removed") :
    spacing .token (joinReached rows) = some .token := by
  simp only [joinReached, spacing, Piece.fits, Piece.edge?, String.toList_append]
  rcases h with rfl | rfl <;> decide +kernel

namespace Source

/-- The table that a source reads. -/
def table : Source → String
  | .rows r => r.table
  | .walk seed _ => seed.table

variable {s : Source}

theorem spacing_select (h : spacing .free [.name s.table] = some .token)
    (fields : List FieldPath) : spacing .free (s.select fields) = some .token := by
  have hfrom : spacing .token [.text " FROM "] = some .free := rfl
  cases s with
  | rows r =>
    have hselect : spacing .free [.text "SELECT "] = some .free := rfl
    rw [select, List.cons_append, spacing_cons hselect,
      spacing_append (spacing_projection fields), spacing_cons hfrom, Rows.spacing_fromTable h]
  | walk seed t =>
    replace h : spacing .free [.name seed.table] = some .token := h
    have hselect : spacing .token [.text " SELECT "] = some .free := rfl
    have hdoc : spacing .token [.text " AS doc"] = some .token := rfl
    simp only [select, List.append_assoc, List.cons_append, List.nil_append]
    rw [spacing_append (spacing_walkClause h t), spacing_cons hselect,
      spacing_append (spacing_projection fields), spacing_cons hfrom, spacing_cons h,
      spacing_cons hdoc, spacing_joinReached (Or.inl rfl)]

theorem spacing_selectKeyed (h : spacing .free [.name s.table] = some .token) (lock : Bool) :
    spacing .free (s.selectKeyed lock) = some .token := by
  cases s with
  | rows r =>
    have hselect : spacing .free [.text "SELECT id, data FROM "] = some .free := rfl
    rw [selectKeyed, List.cons_append, spacing_cons hselect,
      spacing_append (Rows.spacing_fromTable h)]
    cases lock <;> rfl
  | walk seed t =>
    replace h : spacing .free [.name seed.table] = some .token := h
    have hselect : spacing .token [.text " SELECT doc.id, doc.data FROM "] = some .free := rfl
    have hdoc : spacing .token [.text " AS doc"] = some .token := rfl
    simp only [selectKeyed, List.append_assoc, List.cons_append, List.nil_append]
    rw [spacing_append (spacing_walkClause h t), spacing_cons hselect, spacing_cons h,
      spacing_cons hdoc, spacing_append (spacing_joinReached (Or.inl rfl))]
    cases lock <;> rfl

theorem spacing_count (h : spacing .free [.name s.table] = some .token) :
    spacing .free s.count = some .token := by
  have hcount : spacing .free [.text "SELECT COUNT(*) FROM ("] = some .free := rfl
  rw [count, List.cons_append, spacing_cons hcount, spacing_append (spacing_selectKeyed h false)]
  rfl

theorem spacing_delete (h : spacing .free [.name s.table] = some .token) :
    spacing .free s.delete = some .token := by
  have hdelete : spacing .free [.text "DELETE FROM "] = some .free := rfl
  cases s with
  | rows r =>
    replace h : spacing .free [.name r.table] = some .token := h
    rw [delete]
    split
    · have hin : spacing .token [.text " WHERE id IN (SELECT id FROM "] = some .free := rfl
      simp only [List.cons_append, List.nil_append]
      rw [spacing_cons hdelete, spacing_cons h, spacing_cons hin,
        spacing_append (Rows.spacing_fromTable h)]
      rfl
    · simp only [List.cons_append, List.nil_append]
      rw [spacing_cons hdelete, spacing_cons h, spacing_append r.spacing_whereClause]
      rfl
  | walk seed t =>
    replace h : spacing .free [.name seed.table] = some .token := h
    have hremoved : spacing .token [.text ", removed AS (DELETE FROM "] = some .free := rfl
    have hreturn : spacing .token [.text (" WHERE id IN (SELECT id FROM walk) RETURNING id) " ++
        "SELECT removed.id FROM removed")] = some .token := by
      simp only [spacing, Piece.fits, Piece.edge?, String.toList_append]
      decide +kernel
    simp only [delete, List.append_assoc, List.cons_append, List.nil_append]
    rw [spacing_append (spacing_walkClause h t), spacing_cons hremoved, spacing_cons h]
    exact (spacing_cons hreturn _).trans (spacing_joinReached (Or.inr rfl))

end Source

namespace Query

theorem table_source (q : Query) (table : String) : (q.source table).table = table := by
  rw [source]
  cases q.recurse <;> rfl

/-- No two pieces of a compiled statement run together. -/
theorem spacing_pieces? {q : Query} {table : TableName} {command : Command} {ps : List Piece}
    (h : q.pieces? table command = some ps) : spacing .free ps = some .token := by
  have htable : spacing .free [.name (q.source table.text).table] = some .token := by
    rw [table_source]
    exact spacing_name table
  cases command with
  | select => exact Option.some.inj h ▸ Source.spacing_select htable q.fields
  | selectKeyed lock => exact Option.some.inj h ▸ Source.spacing_selectKeyed htable lock
  | count => exact Option.some.inj h ▸ Source.spacing_count htable
  | delete => exact Option.some.inj h ▸ Source.spacing_delete htable
  | filter =>
    obtain ⟨f, -, rfl⟩ := Option.map_eq_some_iff.1 h
    exact spacing_filter isColumn_data f

/-- A compiled statement reads as the tokens of its pieces. -/
theorem tokens?_compile {q : Query} {table : TableName} {command : Command} {s : Statement}
    (h : q.compile table command = some s) :
    ∃ ps, q.pieces? table command = some ps ∧ s.params = params ps ∧
      spacing .free ps = some .token ∧ tokens? s.sql = some (tokensFrom 1 ps) := by
  rw [compile_eq] at h
  obtain ⟨ps, hps, rfl⟩ := Option.map_eq_some_iff.1 h
  have hspacing := spacing_pieces? hps
  exact ⟨ps, hps, rfl, hspacing, tokens?_renderFrom hspacing 1⟩

end Query

end DocStore

import DocStore.Query.Column
import DocStore.Sql.Piece

/-!
# Statements of a query

A query over a table is a source of rows: the rows of the table under a filter,
in an order and through a window, or the documents that a walk reaches from
such rows.  Reading, locking, counting and deleting are commands over the same
source, and each is one statement.

Compiling never fails.  A condition whose operator is unknown or whose operands
do not fit becomes a call of a function that does not exist, so the server
reports it when the statement runs.
-/

namespace DocStore

open Sql (Piece Statement)

/-! ## Filters -/

/-- A condition tree without its empty groups. -/
inductive Filter where
  | atom (c : Condition)
  | joined (operator : Connective) (parts : List Filter)
  deriving Inhabited

mutual

/-- The filter of a tree; none when the tree is empty. -/
def ConditionGroup.filter? : ConditionGroup → Option Filter
  | ⟨operator, conditions, groups⟩ =>
      match conditions.map Filter.atom ++ ConditionGroup.filters groups with
      | [] => none
      | parts => some (.joined operator parts)

/-- The filters of several trees, those of empty ones left out. -/
def ConditionGroup.filters : List ConditionGroup → List Filter
  | [] => []
  | g :: rest =>
      match ConditionGroup.filter? g with
      | none => ConditionGroup.filters rest
      | some f => f :: ConditionGroup.filters rest

end

namespace Condition

/-- The call that stands for a condition that makes no sense. -/
def invalid (reason : String) : List Piece :=
  [.text "invalid_condition(", .literal reason, .text ")"]

/-- The bound text of an operand. -/
def bound (operand : Json) : Piece := .param (.text (operandText operand))

/-- The bound texts of several operands, as one array. -/
def boundArray (operands : List Json) : Piece := .param (.textArray (operands.map operandText))

/-- A comparison of the field, both sides read as a type. -/
def cast (field : List Piece) (type operator : String) (operand : Json) : List Piece :=
  .text "(" :: field ++ [.text (")::" ++ type ++ " " ++ operator ++ " "), bound operand,
    .text ("::" ++ type)]

/-- The condition over a column. -/
def pieces (column : String) (c : Condition) : List Piece :=
  let text := c.field.asText column
  let json := c.field.asJson column
  match c.operator, c.operands with
  | .eq, [a] => .text "(" :: text ++ [.text ") = ", bound a]
  | .neq, [a] => .text "(" :: text ++ [.text ") != ", bound a]
  | .lt, [a] => cast text "numeric" "<" a
  | .lte, [a] => cast text "numeric" "<=" a
  | .gt, [a] => cast text "numeric" ">" a
  | .gte, [a] => cast text "numeric" ">=" a
  | .between, [low, high] =>
      .text "(" :: text ++ [.text ")::numeric BETWEEN ", bound low, .text "::numeric AND ",
        bound high, .text "::numeric"]
  | .before, [a] => cast text "timestamptz" "<" a
  | .after, [a] => cast text "timestamptz" ">" a
  | .contains, [a] =>
      .text "(" :: json ++ [.text ")::jsonb @> ", .param (.text (Json.array [a]).text),
        .text "::jsonb"]
  | .includes, operands =>
      .text "(" :: text ++ [.text ") = ANY(", boundArray operands, .text "::text[])"]
  | .hasKey, [a] => .text "(" :: json ++ [.text ")::jsonb ? ", bound a]
  | .hasAnyKey, operands =>
      .text "(" :: json ++ [.text ")::jsonb ?| ", boundArray operands, .text "::text[]"]
  | .isNull, [] => .text "(" :: text ++ [.text ") IS NULL"]
  | .unknown name, _ =>
      invalid ("unknown operator '" ++ name ++ "' on " ++ c.field.dotted)
  | operator, _ =>
      invalid (operator.name ++ " expects " ++ toString (operator.arity?.getD 0) ++
        " operand(s) for " ++ c.field.dotted)

end Condition

mutual

/-- A filter as an SQL expression: every group stands in parentheses. -/
def Filter.pieces (column : String) : Filter → List Piece
  | .atom c => c.pieces column
  | .joined operator parts =>
      .text "(" :: Filter.piecesOf column operator parts ++ [.text ")"]

/-- Several filters with a connective between them. -/
def Filter.piecesOf (column : String) (operator : Connective) : List Filter → List Piece
  | [] => []
  | [f] => Filter.pieces column f
  | f :: rest =>
      Filter.pieces column f ++ .text (" " ++ operator.word ++ " ") ::
        Filter.piecesOf column operator rest

end

/-! ## Sources -/

/-- Rows of a table. -/
structure Rows where
  table : String
  filter : Option Filter
  order : List SortTerm
  limit : Option Nat
  offset : Option Nat

namespace Rows

/-- A part of a statement that may be missing. -/
def clause {α : Type} (start : String) (part : Option α) (f : α → List Piece) : List Piece :=
  match part with
  | none => []
  | some a => .text start :: f a

def whereClause (r : Rows) : List Piece :=
  clause " WHERE " r.filter (Filter.pieces dataColumn)

/-- The sort terms; none when there are none. -/
def orderTerms? (r : Rows) : Option (List Piece) :=
  if r.order.isEmpty then none
  else some (Sql.separated (.text ", ") (r.order.map fun s =>
    s.field.asText dataColumn ++ [.text (" " ++ s.direction.word)]))

/-- Filter, order and window. -/
def tail (r : Rows) : List Piece :=
  r.whereClause ++ clause " ORDER BY " r.orderTerms? id ++
    clause " LIMIT " r.limit (fun n => [.number n]) ++
    clause " OFFSET " r.offset fun n => [.number n]

/-- The rows come in an order of their own or through a window. -/
def isWindowed (r : Rows) : Bool := !r.order.isEmpty || r.limit.isSome || r.offset.isSome

/-- The table with filter, order and window. -/
def fromTable (r : Rows) : List Piece := .name r.table :: r.tail

end Rows

/-- What a command works on. -/
inductive Source where
  | rows (r : Rows)
  /-- What a walk reaches from the rows. -/
  | walk (seed : Rows) (t : Traversal)

/-- The source of a query over a table. -/
def Query.source (q : Query) (table : String) : Source :=
  let rows : Rows := ⟨table, q.conditions.filter?, q.sort, q.limit, q.offset⟩
  match q.recurse with
  | none => .rows rows
  | some t => .walk rows t

/-- The recursive part of a walk.  `ord` is the place of the seed among the seeds and is
handed on to every document reached from it. -/
def walkClause (seed : Rows) (t : Traversal) : List Piece :=
  .text ("WITH RECURSIVE walk(id, data, depth, ord) AS (" ++
    "SELECT seed.id, seed.data, 0, seed.ord FROM " ++
    "(SELECT id, data, ROW_NUMBER() OVER (") ::
  (match seed.orderTerms? with
    | none => []
    | some terms => .text "ORDER BY " :: terms) ++
  .text ") AS ord FROM " :: seed.fromTable ++
  [.text (") AS seed UNION ALL " ++
    "SELECT hop.id, hop.data, walk.depth + 1, walk.ord FROM "),
    .name seed.table, .text " AS hop JOIN walk ON ("] ++
  t.linkField.asText "hop.data" ++ .text ") = (" :: t.seedField.asText "walk.data" ++
  .text ")" ::
  Rows.clause " WHERE walk.depth < " t.maxDepth (fun n => [.number n]) ++ [.text ")"]

/-- Joins what a walk reached, each document once with its least depth and place, to the
rows called `rows`, in that order. -/
def joinReached (rows : String) : List Piece :=
  [.text (" JOIN (SELECT id, MIN(depth) AS depth, MIN(ord) AS ord FROM walk GROUP BY id)" ++
    " AS reached ON reached.id = " ++ rows ++ ".id ORDER BY reached.depth, reached.ord")]

/-! ## Commands -/

/-- The projected columns behind the document. -/
def projection (fields : List FieldPath) : List Piece :=
  .text dataColumn :: fields.flatMap fun field =>
    .text ", " :: field.asText dataColumn ++ [.text " AS ", .identifier field.dotted]

namespace Source

/-- Reads the documents with projected columns. -/
def select (fields : List FieldPath) : Source → List Piece
  | .rows r => .text "SELECT " :: projection fields ++ .text " FROM " :: r.fromTable
  | .walk seed t =>
      walkClause seed t ++ .text " SELECT " :: projection fields ++
        [.text " FROM ", .name seed.table, .text " AS doc"] ++ joinReached "doc"

/-- Reads ids and documents, and locks the rows if asked to. -/
def selectKeyed (lock : Bool) : Source → List Piece
  | .rows r =>
      .text "SELECT id, data FROM " :: r.fromTable ++
        (if lock then [.text " FOR UPDATE"] else [])
  | .walk seed t =>
      walkClause seed t ++
        [.text " SELECT doc.id, doc.data FROM ", .name seed.table, .text " AS doc"] ++
        joinReached "doc" ++ (if lock then [.text " FOR UPDATE OF doc"] else [])

/-- Counts the documents. -/
def count (s : Source) : List Piece :=
  .text "SELECT COUNT(*) FROM (" :: s.selectKeyed false ++ [.text ") AS matched"]

/-- Deletes the documents and returns their ids. -/
def delete : Source → List Piece
  | .rows r =>
      if r.isWindowed then
        [.text "DELETE FROM ", .name r.table, .text " WHERE id IN (SELECT id FROM "] ++
          r.fromTable ++ [.text ") RETURNING id"]
      else
        [.text "DELETE FROM ", .name r.table] ++ r.whereClause ++ [.text " RETURNING id"]
  | .walk seed t =>
      walkClause seed t ++ [.text ", removed AS (DELETE FROM ", .name seed.table,
        .text " WHERE id IN (SELECT id FROM walk) RETURNING id) SELECT removed.id FROM removed"] ++
        joinReached "removed"

end Source

namespace Query

/-- The statement that reads the documents and the projected fields. -/
def select (q : Query) (table : String) : Statement :=
  .ofPieces ((q.source table).select q.fields)

/-- The statement that reads ids and documents, locking the rows if asked to. -/
def selectKeyed (q : Query) (table : String) (lock : Bool) : Statement :=
  .ofPieces ((q.source table).selectKeyed lock)

/-- The statement that counts what `selectKeyed` would read. -/
def count (q : Query) (table : String) : Statement :=
  .ofPieces (q.source table).count

/-- The statement that deletes the documents and returns their ids. -/
def delete (q : Query) (table : String) : Statement :=
  .ofPieces (q.source table).delete

end Query

/-- The filter of a condition tree alone. -/
def ConditionGroup.statement? (g : ConditionGroup) : Option Statement :=
  g.filter?.map fun f => .ofPieces (f.pieces dataColumn)

end DocStore

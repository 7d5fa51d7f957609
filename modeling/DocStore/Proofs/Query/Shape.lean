import DocStore.Proofs.Sql.Grammar
import DocStore.Query.Basic

/-!
# The shape of a statement

What the server reads in the text of a compiled statement: which table is scanned,
under which filter, in which order and through which window, what a recursive walk
starts from and how it hops, and what is done with the rows.  `Reading` is the
result and `readStatement?` the reader, which has to take every token.

The reader knows nothing of queries: it sees the text alone.  Filters stay tokens,
since their meaning is that of a boolean expression over the placeholders.  The
names that a statement gives to its own parts (`walk`, `seed`, `hop`, `doc`,
`reached`, `removed`) are fixed text; a table name is any word.
-/

namespace DocStore

open Sql Sql.Grammar

/-! ## Readings -/

/-- Rows of a table: a filter, an order and a window. -/
structure Scan where
  table : String
  filter : Option (List Token)
  order : List SortTerm
  limit : Option Nat
  offset : Option Nat
  deriving DecidableEq

/-- A recursive walk.  It starts at the rows of `seeds`, numbered in an order, and goes from a
row to the rows of `table` whose `link` text is the `seed` text of that row. -/
structure Walk where
  numbering : List SortTerm
  seeds : Scan
  table : String
  link : FieldPath
  seed : FieldPath
  /-- Rows this deep are not left; none for no bound. -/
  bound : Option Nat
  deriving DecidableEq

/-- Where rows come from. -/
inductive Origin where
  | scan (s : Scan)
  /-- A table joined to what a walk reached, each id once with its least depth and number, in
  the order of these two. -/
  | walk (w : Walk) (table : String)
  deriving DecidableEq

/-- What is shown of a row. -/
inductive Items where
  /-- The document and some fields as text, each under a name. -/
  | documents (fields : List (FieldPath × String))
  /-- The id and the document. -/
  | entries
  deriving DecidableEq

/-- A select; it may lock its rows. -/
structure Selection where
  items : Items
  origin : Origin
  lock : Bool
  deriving DecidableEq

/-- What a statement does. -/
inductive Reading where
  | select (s : Selection)
  /-- Counts the rows of a select. -/
  | count (s : Selection)
  /-- Deletes the rows of a table under a filter. -/
  | delete (table : String) (filter : Option (List Token))
  /-- Deletes the rows whose ids a scan gives. -/
  | deleteChosen (table : String) (chosen : Scan)
  /-- Deletes the rows whose ids a walk reaches, and gives the ids in the order of the walk. -/
  | deleteWalked (w : Walk) (table : String)
  deriving DecidableEq

/-! ## The reader -/

namespace Reading

/-- Steps into a document; the last one gives text. -/
def stepsFrom : List Token → Option (List String × List Token)
  | .operator op :: .quoted .literal s :: rest =>
      if op = "->" then (stepsFrom rest).map fun r => (s :: r.1, r.2)
      else if op = "->>" then some ([s], rest)
      else none
  | _ => none

/-- The steps behind a column; there may be none. -/
def steps : Grammar (List String) := fun ts =>
  match ts with
  | .operator _ :: _ => stepsFrom ts
  | _ => some ([], ts)

/-- A field as text, out of a column. -/
def path (column : String) : Grammar FieldPath := do
  phrase column
  let segments ← steps
  return ⟨segments⟩

def sortTerm : Grammar SortTerm := do
  let field ← path "data"
  if ← sees " ASC" then
    return ⟨field, .asc⟩
  else
    phrase " DESC"
    return ⟨field, .desc⟩

def scan : Grammar Scan := do
  let table ← name
  let filter ← clause " WHERE " expression
  let order ← clause " ORDER BY " (list sortTerm)
  let limit ← clause " LIMIT " number
  let offset ← clause " OFFSET " number
  return ⟨table, filter, order.getD [], limit, offset⟩

/-- The first words of a walk. -/
def walkWords : String :=
  "WITH RECURSIVE walk(id, data, depth, ord) AS (" ++
    "SELECT seed.id, seed.data, 0, seed.ord FROM " ++
    "(SELECT id, data, ROW_NUMBER() OVER ("

/-- A walk behind its first words. -/
def walk : Grammar Walk := do
  let numbering ← clause "ORDER BY " (list sortTerm)
  phrase ") AS ord FROM "
  let seeds ← scan
  phrase (") AS seed UNION ALL " ++
    "SELECT hop.id, hop.data, walk.depth + 1, walk.ord FROM ")
  let table ← name
  phrase " AS hop JOIN walk ON ("
  let link ← path "hop.data"
  phrase ") = ("
  let seed ← path "walk.data"
  phrase ")"
  let bound ← clause " WHERE walk.depth < " number
  phrase ")"
  return ⟨numbering.getD [], seeds, table, link, seed, bound⟩

/-- The join of the rows called `rows` with what a walk reached. -/
def reached (rows : String) : Grammar Unit :=
  phrase (" JOIN (SELECT id, MIN(depth) AS depth, MIN(ord) AS ord FROM walk GROUP BY id)" ++
    " AS reached ON reached.id = " ++ rows ++ ".id ORDER BY reached.depth, reached.ord")

/-- A projected field and its name. -/
def field : Grammar (FieldPath × String) := do
  let p ← path "data"
  phrase " AS "
  let shown ← quotedName
  return (p, shown)

/-- What a select shows, up to the table: entries with one text, and documents behind another. -/
def items (entries documents : String) : Grammar Items := do
  if ← sees entries then
    return .entries
  else
    phrase documents
    phrase "data"
    let fields ← behindCommas field
    phrase " FROM "
    return .documents fields

def scanned : Grammar Selection := do
  let shown ← items "SELECT id, data FROM " "SELECT "
  let s ← scan
  let lock ← sees " FOR UPDATE"
  return ⟨shown, .scan s, lock⟩

/-- A select behind a walk. -/
def walked (w : Walk) : Grammar Selection := do
  let shown ← items " SELECT doc.id, doc.data FROM " " SELECT "
  let table ← name
  phrase " AS doc"
  reached "doc"
  let lock ← sees " FOR UPDATE OF doc"
  return ⟨shown, .walk w table, lock⟩

def selection : Grammar Selection := do
  match ← clause walkWords walk with
  | none => scanned
  | some w => walked w

/-- A delete behind its first words. -/
def deletion : Grammar Reading := do
  let table ← name
  if ← sees " WHERE id IN (SELECT id FROM " then
    let chosen ← scan
    phrase ") RETURNING id"
    return .deleteChosen table chosen
  else
    let filter ← clause " WHERE " expression
    phrase " RETURNING id"
    return .delete table filter

/-- A delete behind a walk and its own first words. -/
def walkedDeletion (w : Walk) : Grammar Reading := do
  let table ← name
  phrase " WHERE id IN (SELECT id FROM walk) RETURNING id) SELECT removed.id FROM removed"
  reached "removed"
  return .deleteWalked w table

def statement : Grammar Reading := do
  if ← sees "SELECT COUNT(*) FROM (" then
    let s ← selection
    phrase ") AS matched"
    return .count s
  else if ← sees "DELETE FROM " then
    deletion
  else
    match ← clause walkWords walk with
    | none =>
        let s ← scanned
        return .select s
    | some w =>
        if ← sees ", removed AS (DELETE FROM " then
          walkedDeletion w
        else
          let s ← walked w
          return .select s

end Reading

/-- What the text of a statement says. -/
def readStatement? (sql : String) : Option Reading := Reading.statement.read? sql

example :
    readStatement? ("DELETE FROM t WHERE id IN " ++
        "(SELECT id FROM t ORDER BY data->'a'->>'b' DESC LIMIT 2) RETURNING id") =
      some (.deleteChosen "t" ⟨"t", none, [⟨⟨["a", "b"]⟩, .desc⟩], some 2, none⟩) := by
  decide +kernel

end DocStore

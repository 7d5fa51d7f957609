/-!
# Layout of a document table

A table has the columns `id` and `data`, and up to three columns that keep books
on the rows.  What a table has is found out by asking for its columns; the
statements that save documents and read their metadata depend on it.
-/

namespace DocStore

/-- The bookkeeping columns of a table. -/
structure TableLayout where
  version : Bool
  lastUpdated : Bool
  dateCreated : Bool
  deriving DecidableEq, Inhabited

namespace TableLayout

/-- All columns: the layout of a table made by `createTableSql`. -/
def full : TableLayout := ⟨true, true, true⟩

/-- None of the columns. -/
def minimal : TableLayout := ⟨false, false, false⟩

/-- Asks for the names of a table's columns. -/
def columnsSql : String :=
  "SELECT column_name::text FROM information_schema.columns " ++
    "WHERE table_schema = current_schema() AND table_name = $1"

/-- The layout of a table with these columns; a table that does not exist has none. -/
def ofColumns? (columns : List String) : Option TableLayout :=
  if columns.isEmpty then none
  else some ⟨columns.contains "version", columns.contains "last_updated",
    columns.contains "date_created"⟩

/-- What saving sets in a row that exists. -/
inductive Assignment where
  | data
  /-- One more than the version so far; a row without one counts as the first. -/
  | version
  | lastUpdated
  deriving DecidableEq

def Assignment.sql : Assignment → String
  | data => "data = EXCLUDED.data"
  | version => "version = COALESCE(doc.version, 1) + 1"
  | lastUpdated => "last_updated = now()"

/-- The columns that saving sets. -/
def assignments (l : TableLayout) : List Assignment :=
  .data :: (if l.version then [.version] else []) ++
    (if l.lastUpdated then [.lastUpdated] else [])

/-- Saves a document under an id.  A row whose document is the same already is left
alone. -/
def upsertSql (l : TableLayout) (table : String) : String :=
  "INSERT INTO " ++ table ++ " AS doc (id, data) VALUES ($1, $2::json) " ++
    "ON CONFLICT (id) DO UPDATE SET " ++
    ", ".intercalate (l.assignments.map Assignment.sql) ++
    " WHERE doc.data::jsonb IS DISTINCT FROM EXCLUDED.data::jsonb"

/-- Reads version and time of the last change for a list of ids, in its order.  Without
the columns every version is the first and every change is now. -/
def metadataSql (l : TableLayout) (table : String) : String :=
  let version := if l.version then "COALESCE(version, 1)::bigint" else "1::bigint"
  let updated :=
    if l.lastUpdated then "COALESCE(last_updated::timestamptz, now())" else "now()"
  "SELECT id::text, " ++ version ++ " AS version, " ++ updated ++ " AS last_updated FROM " ++
    table ++ " WHERE id = ANY($1) ORDER BY array_position($1, id::text)"

/-- Makes a table with all columns, unless there is one of the name. -/
def createTableSql (table : String) : String :=
  "CREATE TABLE IF NOT EXISTS " ++ table ++ " (" ++
    "id varchar(200) NOT NULL PRIMARY KEY, " ++
    "data json NOT NULL, " ++
    "version integer NOT NULL DEFAULT 1, " ++
    "last_updated timestamptz NOT NULL DEFAULT now(), " ++
    "date_created timestamptz NOT NULL DEFAULT now())"

end TableLayout

end DocStore

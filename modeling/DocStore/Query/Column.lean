import DocStore.Query.Basic

/-!
# Columns of a result

A query gives the documents in one column and every projected field in another,
named by its dotted path.  The server cuts names after 63 bytes, never inside a
character.
-/

namespace DocStore

/-- The column that holds the documents. -/
def dataColumn : String := "data"

/-- The column that holds the keys. -/
def keyColumn : String := "id"

/-- The characters of a name that fit into so many bytes. -/
def cutBytes : (room : Nat) → List Char → List Char
  | _, [] => []
  | room, c :: rest =>
      if c.utf8Size ≤ room then c :: cutBytes (room - c.utf8Size) rest else []

/-- A column name as the server keeps it. -/
def columnName (name : String) : String := String.ofList (cutBytes 63 name.toList)

/-- The columns of a query with projected fields. -/
def Query.columns (q : Query) : List String :=
  dataColumn :: q.fields.map fun field => columnName field.dotted

end DocStore

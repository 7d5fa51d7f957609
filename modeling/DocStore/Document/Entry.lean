import DocStore.Time.Instant

/-!
# Documents

A document is a JSON value under a key.  Its metadata count the saves that
changed it.
-/

namespace DocStore

/-- A document and its key. -/
structure Entry where
  key : String
  data : Json
  deriving DecidableEq, Inhabited

/-- What the table's books say about a document. -/
structure Metadata where
  key : String
  version : Int
  lastUpdated : Instant
  deriving DecidableEq, Inhabited

/-- The projected fields of a document, in the order of their names. -/
structure FieldRow where
  fields : List (String × Option String)
  deriving DecidableEq, Inhabited

namespace Entry

/-- A member of the document that is a string. -/
def string? (e : Entry) (field : String) : Option String :=
  (e.data.member? field).bind Json.string?

def toJson (e : Entry) : Json := .ofMembers [("key", .string e.key), ("data", e.data)]

def decode : Decoder Entry :=
  Fields.record "Entry" <|
    .seq (.map Entry.mk (.required "key" .string)) (.required "data" .any)

end Entry

namespace Metadata

def toJson (m : Metadata) : Json :=
  .ofMembers [("key", .string m.key), ("version", .ofInt m.version),
    ("last_updated", m.lastUpdated.toJson)]

def decode : Decoder Metadata :=
  Fields.record "Metadata" <|
    .seq (.seq (.map Metadata.mk (.required "key" .string))
      (.required "version" (.signed 64))) (.required "last_updated" Instant.decode)

end Metadata

namespace FieldRow

/-- From columns and their values; of two columns with one name the later counts. -/
def ofColumns (columns : List (String × Option String)) : FieldRow :=
  ⟨columns.foldl (fun acc (name, value) => put name value acc) []⟩
where
  /-- Sets one field, keeping the order. -/
  put (name : String) (value : Option String) :
      List (String × Option String) → List (String × Option String)
    | [] => [(name, value)]
    | (k, v) :: rest =>
        if name < k then (name, value) :: (k, v) :: rest
        else if name = k then (name, value) :: rest
        else (k, v) :: put name value rest

def toJson (row : FieldRow) : Json :=
  .object (row.fields.map fun (name, value) => (name, .ofString? value))

end FieldRow

end DocStore

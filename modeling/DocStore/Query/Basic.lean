import DocStore.Query.Condition

/-!
# Queries

A query says which documents are meant and in which order they come: a tree of
conditions, sort terms, a window, fields to project, and optionally a walk from
the matching documents along links to others.

Checking covers the conditions and the paths of sort terms, projected fields and
the walk; it needs no database.
-/

namespace DocStore

inductive SortDirection where
  | asc
  | desc
  deriving DecidableEq, Inhabited

/-- A field to sort by. -/
structure SortTerm where
  field : FieldPath
  direction : SortDirection
  deriving DecidableEq, Inhabited

/-- A walk over documents linked by values: from a document to those whose link field
equals its seed field. -/
structure Traversal where
  seedField : FieldPath
  linkField : FieldPath
  /-- At most this many hops; none for as many as there are. -/
  maxDepth : Option Nat
  deriving DecidableEq, Inhabited

/-- Which documents are meant, and in which order. -/
structure Query where
  conditions : ConditionGroup
  sort : List SortTerm
  limit : Option Nat
  offset : Option Nat
  fields : List FieldPath
  recurse : Option Traversal
  deriving DecidableEq, Inhabited

namespace SortDirection

/-- The direction as a word of SQL. -/
def word : SortDirection → String
  | asc => "ASC"
  | desc => "DESC"

def name : SortDirection → String
  | asc => "asc"
  | desc => "desc"

def decode : Decoder SortDirection := .choice [("asc", asc), ("desc", desc)]

end SortDirection

namespace SortTerm

def toJson (s : SortTerm) : Json :=
  .ofMembers [("field", s.field.toJson), ("direction", .string s.direction.name)]

def decode : Decoder SortTerm :=
  Fields.record "Sort" <|
    .seq (.map SortTerm.mk (.required "field" FieldPath.decode))
      (.defaulted "direction" SortDirection.decode .asc)

end SortTerm

namespace Traversal

def toJson (t : Traversal) : Json :=
  .ofMembers [("seed_field", t.seedField.toJson), ("link_field", t.linkField.toJson),
    ("max_depth", .ofOption (t.maxDepth.map .ofNat))]

def decode : Decoder Traversal :=
  Fields.record "Traversal" <|
    .seq (.seq (.map Traversal.mk (.required "seed_field" FieldPath.decode))
      (.required "link_field" FieldPath.decode))
      (.defaulted "max_depth" (.nullable (.unsigned 32)) none)

end Traversal

namespace Query

/-- All documents in no particular order. -/
def all : Query := ⟨.empty .and, [], none, none, [], none⟩

/-- With the condition tree changed. -/
def filter (q : Query) (f : ConditionGroup → ConditionGroup) : Query :=
  { q with conditions := f q.conditions }

def sortBy (q : Query) (field : String) (direction : SortDirection) : Query :=
  { q with sort := q.sort ++ [⟨.parse field, direction⟩] }

/-- With one more projected field. -/
def project (q : Query) (field : String) : Query :=
  { q with fields := q.fields ++ [.parse field] }

/-- With a walk. -/
def walk (q : Query) (seed link : String) (maxDepth : Option Nat) : Query :=
  { q with recurse := some ⟨.parse seed, .parse link, maxDepth⟩ }

/-- The matches come in an order of their own or through a window. -/
def isWindowed (q : Query) : Bool := !q.sort.isEmpty || q.limit.isSome || q.offset.isSome

/-- The paths that checking looks at beside those of the conditions. -/
def outerPaths (q : Query) : List FieldPath :=
  q.sort.map SortTerm.field ++ q.fields ++
    q.recurse.toList.flatMap fun t => [t.seedField, t.linkField]

/-- Checks the query without a database. -/
def validate (q : Query) : Except StoreError Unit := do
  q.conditions.validate
  q.outerPaths.forM fun path =>
    if path.hasEmptySegment then
      .error (.queryFailed ("field path '" ++ path.dotted ++ "' has an empty segment"))
    else .ok ()

def toJson (q : Query) : Json :=
  .ofMembers [("conditions", q.conditions.toJson), ("sort", .array (q.sort.map SortTerm.toJson)),
    ("limit", .ofOption (q.limit.map .ofNat)), ("offset", .ofOption (q.offset.map .ofNat)),
    ("fields", .array (q.fields.map FieldPath.toJson)),
    ("recurse", .ofOption (q.recurse.map Traversal.toJson))]

def decode : Decoder Query :=
  let conditions := Fields.defaulted "conditions" ConditionGroup.decode (.empty .and)
  let sort := Fields.defaulted "sort" (.list SortTerm.decode) []
  let limit := Fields.defaulted "limit" (.nullable (.unsigned 64)) none
  let offset := Fields.defaulted "offset" (.nullable (.unsigned 64)) none
  let fields := Fields.defaulted "fields" (.list FieldPath.decode) []
  let recurse := Fields.defaulted "recurse" (.nullable Traversal.decode) none
  Fields.record "Query" <|
    .seq (.seq (.seq (.seq (.seq (.map Query.mk conditions) sort) limit) offset) fields) recurse

end Query

end DocStore

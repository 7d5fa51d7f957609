import DocStore.Database.Operation
import DocStore.Query.Plan
import DocStore.Table.Provision
import DocStore.Time.Duration

/-!
# The document store

The operations on the documents of one table.  Each of them first sees to the
table and then runs its own statements.  Those that write several documents do
so in one transaction.

`updateWith` locks the documents that a query means, hands them to a function of
the caller, and saves what it gives back, all in one transaction.
-/

namespace DocStore

/-- A document store: its table, and how long an operation may take. -/
structure DocumentStore where
  table : DocumentTable
  timeout : Duration

namespace DocumentStore

open Script DocumentTable

variable {α : Type}

/-- A store for a table, if its name is one. -/
def ofTable (name : String) : Except StoreError DocumentStore :=
  (Sql.TableName.parse name).map fun name => ⟨⟨name, none⟩, .ofSeconds 30⟩

def withTimeout (s : DocumentStore) (timeout : Duration) : DocumentStore := { s with timeout }

/-- With documents to start the table with. -/
def withSeed (s : DocumentStore) (seed : Except StoreError (List Entry)) : DocumentStore :=
  { s with table := { s.table with seed := some seed } }

def tableName (s : DocumentStore) : String := s.table.name.text

/-- Reports failed operations. -/
def reporter (s : DocumentStore) : Reporter := ⟨"Document store operation failed", s.tableName⟩

/-- A fault of reading the documents of `key`. -/
def malformed (key : String) : DatabaseFault → StoreError
  | .columnDecode _ reason | .decode reason => .malformedDocument key reason
  | fault => fault.toError

/-- What was read, or the error of a fault. -/
def orError (r : Except DatabaseFault α) : Work α := lift (r.mapError DatabaseFault.toError)

/-- An operation that sees to the table first. -/
def operation (s : DocumentStore) (name : String) (body : TableLayout → Work α) :
    Operation TableLayout α :=
  .of name fun pinned => do
    let layout ← s.table.resolve pinned
    body layout

/-! ## Single documents -/

/-- Saves a document, in the place of another under its key. -/
def save (s : DocumentStore) (key : String) (data : Json) : Operation TableLayout Unit :=
  s.operation "save" fun layout => s.table.upsert layout ⟨key, data⟩

/-- The document under a key, if there is one. -/
def get (s : DocumentStore) (key : String) : Operation TableLayout (Option Json) :=
  s.operation "get" fun _ => do
    let answer ← sendOr (malformed key)
      (.execute ⟨"SELECT data FROM " ++ s.tableName ++ " WHERE id = $1", [.text key]⟩)
    lift ((answer.readFirst? fun row => Cell.atPlace Cell.readJson row 0).mapError (malformed key))

/-- All documents. -/
def getAll (s : DocumentStore) : Operation TableLayout (List Json) :=
  s.operation "get_all" fun _ => do
    let answer ← sendOr (malformed s.tableName)
      (.execute (.plain ("SELECT data FROM " ++ s.tableName)))
    lift ((answer.readAll fun row => Cell.atPlace Cell.readJson row 0).mapError
      (malformed s.tableName))

/-- Removes a document; tells whether there was one. -/
def delete (s : DocumentStore) (key : String) : Operation TableLayout Bool :=
  s.operation "delete" fun _ => do
    let answer ← execute ("DELETE FROM " ++ s.tableName ++ " WHERE id = $1") [.text key]
    return 0 < answer.affected

/-- Removes the documents of several keys; tells how many there were. -/
def deleteAll (s : DocumentStore) (keys : List String) : Operation TableLayout Nat :=
  s.operation "delete_all" fun _ => do
    let answer ← execute ("DELETE FROM " ++ s.tableName ++ " WHERE id = ANY($1)") [.textArray keys]
    return answer.affected

/-- Whether there is a document under a key. -/
def exists? (s : DocumentStore) (key : String) : Operation TableLayout Bool :=
  s.operation "exists" fun _ => do
    let answer ← execute
      ("SELECT EXISTS(SELECT 1 FROM " ++ s.tableName ++ " WHERE id = $1)") [.text key]
    orError (answer.readFirst fun row => Cell.atPlace Cell.readBoolean row 0)

/-- Version and time of the last change of several documents, in the order of the keys. -/
def metadata (s : DocumentStore) (keys : List String) : Operation TableLayout (List Metadata) :=
  s.operation "metadata" fun layout => do
    let answer ← execute (layout.metadataSql s.tableName) [.textArray keys]
    orError (answer.readAll fun row => do
      let key ← Cell.atPlace Cell.readText row 0
      let version ← Cell.atPlace Cell.readInteger row 1
      let lastUpdated ← Cell.atPlace Cell.readInstant row 2
      .ok ⟨key, version, lastUpdated⟩)

/-- Sees to the table and asks for a sign of life. -/
def check (s : DocumentStore) : Operation TableLayout Unit :=
  s.operation "check" fun _ => do
    let _ ← send .ping
    return ()

/-! ## Batches -/

/-- The refusal of a batch with more items than keys, or fewer. -/
def batchRefusal? (items : List Json) (keys : List String) : Option StoreError :=
  if items.length = keys.length then none
  else some (.mismatchedBatch items.length keys.length)

/-- Saves every item under the key of its place, all of them or none. -/
def saveAll (s : DocumentStore) (items : List Json) (keys : List String) :
    Operation TableLayout Unit where
  name := "save_all"
  refusal := batchRefusal? items keys
  script pinned := do
    let layout ← s.table.resolve pinned
    match batchRefusal? items keys with
    | some e => fail e
    | none =>
        transaction (s.table.upsertAll layout (List.zipWith Entry.mk keys items))
        note .debug
          ("Saved " ++ toString items.length ++ " documents to " ++ s.table.quoted)

/-! ## Queries -/

/-- A row with a key and a document. -/
def readEntry (row : List Cell) : Except StoreError Entry := do
  let columns := [keyColumn, dataColumn]
  let key ← (Cell.atName Cell.readText columns row keyColumn).mapError DatabaseFault.toError
  let data ← (Cell.atName Cell.readJson columns row dataColumn).mapError (malformed key)
  .ok ⟨key, data⟩

/-- The documents that a query means. -/
def query (s : DocumentStore) (q : Query) : Operation TableLayout (List Json) :=
  s.operation "query" fun _ => do
    let answer ← send (.execute (q.select s.tableName))
    lift (answer.rows.mapM fun row =>
      (Cell.atName Cell.readJson q.columns row dataColumn).mapError (malformed s.tableName))

/-- The documents that a query means, with their keys. -/
def queryEntries (s : DocumentStore) (q : Query) : Operation TableLayout (List Entry) :=
  s.operation "query_entries" fun _ => do
    let answer ← send (.execute (q.selectKeyed s.tableName false))
    lift (answer.rows.mapM readEntry)

/-- The projected fields of the documents that a query means. -/
def queryFields (s : DocumentStore) (q : Query) : Operation TableLayout (List FieldRow) :=
  s.operation "query_fields" fun _ => do
    let answer ← send (.execute (q.select s.tableName))
    orError (answer.readAll fun row => do
      let fields ← q.fields.mapM fun field => do
        let value ← Cell.atName Cell.readText? q.columns row field.dotted
        .ok (field.dotted, value)
      .ok (.ofColumns fields))

/-- How many documents a query means. -/
def count (s : DocumentStore) (q : Query) : Operation TableLayout Int :=
  s.operation "count" fun _ => do
    let answer ← send (.execute (q.count s.tableName))
    orError (answer.readFirst fun row => Cell.atPlace Cell.readInteger row 0)

/-- Removes the documents that a query means; gives their keys. -/
def deleteQuery (s : DocumentStore) (q : Query) : Operation TableLayout (List String) :=
  s.operation "delete_query" fun _ => do
    let answer ← send (.execute (q.delete s.tableName))
    let keys ← orError (answer.readAll fun row => Cell.atPlace Cell.readText row 0)
    note .debug
      ("Deleted " ++ toString keys.length ++ " documents from " ++ s.table.quoted)
    return keys

/-- Locks the documents that a query means and saves what a function makes of them, in one
transaction.  The function also says what the operation gives. -/
def updateWith (s : DocumentStore) (q : Query)
    (f : List Entry → Except StoreError (List Entry × α)) : Operation TableLayout α :=
  s.operation "query_and_update" fun layout =>
    transaction do
      let answer ← send (.execute (q.selectKeyed s.tableName true))
      let locked ← lift (answer.rows.mapM readEntry)
      let (updated, result) ← lift (f locked)
      s.table.upsertAll layout updated
      return result

/-- Locks the documents that a query means and saves what a function makes of them; gives
what was saved. -/
def queryAndUpdate (s : DocumentStore) (q : Query)
    (f : List Entry → Except StoreError (List Entry)) : Operation TableLayout (List Entry) :=
  s.updateWith q fun locked => (f locked).map fun updated => (updated, updated)

/-! ## In messages -/

/-- A layout, or that none is known. -/
def layoutText : Option TableLayout → String
  | none => "None"
  | some l =>
      "Some(TableLayout \x7b version: " ++ toString l.version ++ ", last_updated: " ++
        toString l.lastUpdated ++ ", date_created: " ++ toString l.dateCreated ++ " \x7d)"

/-- The store in messages, with the layout it remembers. -/
def shown (s : DocumentStore) (layout : Option TableLayout) : String :=
  "DocumentStore \x7b table: " ++ Text.shown s.tableName ++ ", timeout: " ++ s.timeout.shown ++
    ", layout: " ++ layoutText layout ++ " \x7d"

end DocumentStore

end DocStore

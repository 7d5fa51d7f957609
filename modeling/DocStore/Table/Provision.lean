import DocStore.Database.Row
import DocStore.Database.Script
import DocStore.Document.Entry
import DocStore.Sql.TableName
import DocStore.Table.Layout

/-!
# Providing a table

The first operation of a store looks for its table and makes it if it is
missing, with documents to start with.  Making it is one transaction.  Another
session may be faster: the server then refuses to make the table a second time,
and that is no failure.

What is found is remembered, so that later operations need not look.  On a
connection of the caller, where a transaction may be open, it is remembered only
if the table stood before: it was not made just now, and the transaction has
written nothing yet.
-/

namespace DocStore

/-- A table of documents: its name, and the documents it starts with, if any; giving them
can fail. -/
structure DocumentTable where
  name : Sql.TableName
  seed : Option (Except StoreError (List Entry))

namespace DocumentTable

open Script

/-- Operations of document stores remember the layout of the table. -/
abbrev Work (α : Type) : Type := Script TableLayout α

/-- The name in quotes for messages. -/
def quoted (t : DocumentTable) : String := "'" ++ t.name.text ++ "'"

/-- Saves a document under a key. -/
def upsert (layout : TableLayout) (t : DocumentTable) (e : Entry) : Work Unit := do
  let _ ← execute (layout.upsertSql t.name.text) [.text e.key, .text e.data.text]
  return ()

/-- Saves documents one after the other. -/
def upsertAll (layout : TableLayout) (t : DocumentTable) : List Entry → Work Unit
  | [] => return ()
  | e :: rest => do
      t.upsert layout e
      upsertAll layout t rest

/-- The names of the table's columns. -/
def columns (t : DocumentTable) : Work (List String) := do
  let answer ← execute TableLayout.columnsSql [.text t.name.text]
  lift ((answer.readAll fun row => Cell.atPlace Cell.readText row 0).mapError
    DatabaseFault.toError)

/-- Saves the documents that the table starts with. -/
def sow (t : DocumentTable) : Work Unit :=
  match t.seed with
  | none => return ()
  | some seed => do
      let entries ← lift seed
      t.upsertAll .full entries
      note .info ("Seeded " ++ toString entries.length ++ " documents into " ++ t.quoted)

/-- Makes the table; tells whether it was this session that did. -/
def create (t : DocumentTable) : Work Bool := do
  let _ ← send .begin
  ask (.execute (.plain (TableLayout.createTableSql t.name.text))) fun
    | .ok _ => do
        t.sow
        commit
        note .info ("Created document table " ++ t.quoted)
        return true
    | .error fault =>
        if fault.toError.isAlreadyExists then do
          let _ ← send .rollback
          note .debug ("Table " ++ t.quoted ++ " was created concurrently")
          return false
        else fail fault.toError

/-- The layout of the table, which is made if it is missing, and whether it was. -/
def provision (t : DocumentTable) : Work (TableLayout × Bool) := do
  match TableLayout.ofColumns? (← t.columns) with
  | some layout =>
      if !layout.version then
        note .debug ("Table " ++ t.quoted ++ " has no version column; defaulting to 1")
      return (layout, false)
  | none =>
      let created ← t.create
      return (.full, created)

/-- Asks whether the session's transaction, if any, has written nothing yet. -/
def unwrittenSql : String := "SELECT txid_current_if_assigned() IS NULL"

/-- Whether the session's transaction has written nothing yet. -/
def isUnwritten : Work Bool := do
  let answer ← execute unwrittenSql []
  lift ((answer.readFirst fun row => Cell.atPlace Cell.readBoolean row 0).mapError
    DatabaseFault.toError)

/-- The layout of the table, looked for unless it is remembered; `pinned` on a connection
of the caller. -/
def resolve (t : DocumentTable) (pinned : Bool) : Work TableLayout := do
  match ← remembered with
  | some layout => return layout
  | none =>
      let (layout, created) ← t.provision
      if !pinned then
        keep layout
        return layout
      else
        if !created then
          if ← isUnwritten then keep layout
        return (← remembered).getD layout

end DocumentTable

end DocStore

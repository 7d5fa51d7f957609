import DocStore.Database.Script

/-!
# Operations

An operation of a store: its name for messages, and the script it runs on a
connection, which may be the caller's own.  An operation can be refused before a
connection is asked for.

A failed operation is reported, as a warning if the caller is at fault.
-/

namespace DocStore

/-- An operation of a store that remembers a `κ`. -/
structure Operation (κ α : Type) where
  name : String
  /-- Why the operation is refused at once. -/
  refusal : Option StoreError
  /-- What it does on a connection; `pinned` on one of the caller. -/
  script : (pinned : Bool) → Script κ α

/-- An operation that is never refused. -/
def Operation.of {κ α : Type} (name : String) (script : Bool → Script κ α) : Operation κ α :=
  ⟨name, none, script⟩

/-- Who reports failed operations: a kind of store, and its table. -/
structure Reporter where
  message : String
  table : String

/-- The report of a failed operation. -/
def Reporter.failed (r : Reporter) (operation : String) (e : StoreError) : LogEvent :=
  ⟨if e.isUserError then .warn else .error, r.message,
    [("operation", operation), ("table", r.table), ("error", e.message)]⟩

/-- The error of an operation that took longer than it may. -/
def Reporter.overdue (r : Reporter) (operation : String) (limit : String) : StoreError :=
  .timeout (operation ++ " on " ++ r.table ++ " exceeded " ++ limit)

end DocStore

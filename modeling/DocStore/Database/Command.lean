import DocStore.Database.Fault
import DocStore.Sql.Piece

/-!
# Commands and replies

What is asked of a connection and what it answers.  Transactions can be nested:
inside one, beginning sets a savepoint, committing releases it and rolling back
goes back to it, so the text of these commands depends on how many transactions
are open.
-/

namespace DocStore

open Sql (Statement)

/-- What is asked of a connection. -/
inductive Command where
  | execute (s : Statement)
  | begin
  | commit
  | rollback
  /-- Asks for a sign of life. -/
  | ping
  deriving DecidableEq

/-- A value in a row. -/
inductive Cell where
  | null
  | text (s : String)
  | integer (n : Int)
  | boolean (b : Bool)
  deriving DecidableEq, Inhabited

/-- What a command gives: rows, and the number of rows it changed. -/
structure Answer where
  rows : List (List Cell)
  affected : Nat
  deriving DecidableEq, Inhabited

/-- An answer or the fault that came instead. -/
abbrev Reply : Type := Except DatabaseFault Answer

namespace Command

/-- The savepoint of the `n`-th transaction inside others. -/
def savepoint (n : Nat) : String := "_sqlx_savepoint_" ++ toString n

/-- The statement of a command where `depth` transactions are open. -/
def statement? (depth : Nat) : Command → Option Statement
  | execute s => some s
  | begin => some (.plain (if depth = 0 then "BEGIN" else "SAVEPOINT " ++ savepoint depth))
  | commit =>
      some (.plain (if depth ≤ 1 then "COMMIT" else "RELEASE SAVEPOINT " ++ savepoint (depth - 1)))
  | rollback =>
      some (.plain
        (if depth ≤ 1 then "ROLLBACK" else "ROLLBACK TO SAVEPOINT " ++ savepoint (depth - 1)))
  | ping => none

/-- How many transactions are open after the command succeeded. -/
def depthAfter (depth : Nat) : Command → Nat
  | begin => depth + 1
  | commit | rollback => depth - 1
  | execute _ | ping => depth

end Command

end DocStore

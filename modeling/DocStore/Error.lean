import DocStore.Json.Decode

/-!
# Errors

Every operation fails with a cause of one type.  `message` is its wording; the
other functions sort the causes: whether trying again can help, whether the
caller is at fault, and whether the database refused to create what another
session has already created.
-/

namespace DocStore

/-- Why an operation failed. -/
inductive StoreError where
  | configuration (reason : String)
  | invalidUrl (reason : String)
  | invalidIdentifier (name : String)
  | connectionFailed (reason : String)
  | connectionClosed
  | poolTimeout
  | timeout (what : String)
  | queryFailed (reason : String)
  /-- The server's own error; the code is empty when it gave none. -/
  | database (code message : String)
  | unknownOperator (name : String)
  | invalidOperands (operator reason : String)
  | transactionFailed (reason : String)
  | updateRejected (reason : String)
  | serialization (reason : String)
  | malformedDocument (key reason : String)
  | mismatchedBatch (items keys : Nat)
  | encryption (reason : String)
  | leadershipLost (reason : String)
  | internal (reason : String)
  deriving DecidableEq, Inhabited

namespace StoreError

/-- The error in words. -/
def message : StoreError → String
  | configuration reason => "configuration error: " ++ reason
  | invalidUrl reason => "invalid URL: " ++ reason
  | invalidIdentifier name => "invalid identifier: " ++ name
  | connectionFailed reason => "connection failed: " ++ reason
  | connectionClosed => "connection closed"
  | poolTimeout => "connection pool timeout"
  | timeout what => "timeout: " ++ what
  | queryFailed reason => "query failed: " ++ reason
  | database code message => "database error [" ++ code ++ "]: " ++ message
  | unknownOperator name => "unknown operator: " ++ name
  | invalidOperands operator reason => "invalid operands for " ++ operator ++ ": " ++ reason
  | transactionFailed reason => "transaction failed: " ++ reason
  | updateRejected reason => "update rejected: " ++ reason
  | serialization reason => "serialization error: " ++ reason
  | malformedDocument key reason => "malformed document " ++ key ++ ": " ++ reason
  | mismatchedBatch items keys =>
      "mismatched batch: " ++ toString items ++ " items for " ++ toString keys ++ " keys"
  | encryption reason => "encryption error: " ++ reason
  | leadershipLost reason => "leadership lost: " ++ reason
  | internal reason => "internal error: " ++ reason

/-- Trouble with the connection, which another attempt may not have. -/
def isRetryable : StoreError → Bool
  | connectionFailed _ | connectionClosed | poolTimeout | timeout _ => true
  | _ => false

/-- The caller asked for something that cannot be done. -/
def isUserError : StoreError → Bool
  | configuration _ | invalidUrl _ | invalidIdentifier _ | unknownOperator _
  | invalidOperands _ _ | mismatchedBatch _ _ | updateRejected _ => true
  | _ => false

/-- The server's code for an error, where it gave one. -/
def sqlState? : StoreError → Option String
  | database code _ => if code = "" then none else some code
  | _ => none

/-- The server's code for a table that exists already. -/
def duplicateTable : String := "42P07"

/-- The server's code for a key that exists already. -/
def uniqueViolation : String := "23505"

/-- Another session was first to create what this one wanted to create. -/
def isAlreadyExists (e : StoreError) : Bool :=
  e.sqlState? = some duplicateTable || e.sqlState? = some uniqueViolation

/-- A value that does not fit its model. -/
def ofMismatch (m : Mismatch) : StoreError := serialization m.message

end StoreError

/-- Reads a model out of a value, with a mismatch as an error. -/
def Decoder.run {α : Type} (d : Decoder α) (value : Json) : Except StoreError α :=
  (d value).mapError .ofMismatch

end DocStore

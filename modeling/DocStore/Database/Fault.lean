import DocStore.Error

/-!
# Faults of the database

What can go wrong between the library and the server, in the words of the
connection, and the error an operation makes of it.
-/

namespace DocStore

/-- A fault of a connection, of the pool or of the server. -/
inductive DatabaseFault where
  | poolTimedOut
  | poolClosed
  | workerCrashed
  | io (reason : String)
  | tls (reason : String)
  | configuration (reason : String)
  /-- The server's own error, and its code if it gave one. -/
  | server (code : Option String) (message : String)
  | rowNotFound
  | columnNotFound (name : String)
  | typeNotFound (name : String)
  /-- A column that does not hold what was expected; the column as it was asked for. -/
  | columnDecode (column reason : String)
  | decode (reason : String)
  | encode (reason : String)
  | protocol (reason : String)
  deriving DecidableEq, Inhabited

namespace DatabaseFault

/-- The fault in words. -/
def message : DatabaseFault → String
  | poolTimedOut => "pool timed out while waiting for an open connection"
  | poolClosed => "attempted to acquire a connection on a closed pool"
  | workerCrashed => "attempted to communicate with a crashed background worker"
  | io reason => "error communicating with database: " ++ reason
  | tls reason => "error occurred while attempting to establish a TLS connection: " ++ reason
  | configuration reason => "error with configuration: " ++ reason
  | server _ message => "error returned from database: " ++ message
  | rowNotFound =>
      "no rows returned by a query that expected to return at least one row"
  | columnNotFound name => "no column found for name: " ++ name
  | typeNotFound name => "type named " ++ name ++ " not found"
  | columnDecode column reason =>
      "error occurred while decoding column " ++ column ++ ": " ++ reason
  | decode reason => "error occurred while decoding: " ++ reason
  | encode reason => "error occurred while encoding a value: " ++ reason
  | protocol reason => "encountered unexpected or invalid data: " ++ reason

/-- The error of an operation that met the fault. -/
def toError : DatabaseFault → StoreError
  | poolTimedOut => .poolTimeout
  | poolClosed | workerCrashed => .connectionClosed
  | io reason | tls reason => .connectionFailed reason
  | configuration reason => .configuration reason
  | server code message => .database (code.getD "") message
  | fault => .queryFailed fault.message

end DatabaseFault

end DocStore

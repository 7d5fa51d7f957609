import DocStore.Database.Row
import DocStore.Database.Script
import DocStore.Election.LockKey

/-!
# Lock sessions

A session with the server that takes locks for as long as it lives.  It is no
connection of a pool.  Whether a lock is still held is asked of the server's list
of locks, where a key shows as its two halves.
-/

namespace DocStore.Election

/-- What is asked of the server in a lock session; such a session remembers nothing. -/
abbrev LockScript (α : Type) : Type := Script Empty α

namespace LockSession

open Script

/-- Takes a lock without waiting. -/
def tryLockSql : String := "SELECT pg_try_advisory_lock($1)"

/-- Gives a lock back. -/
def releaseSql : String := "SELECT pg_advisory_unlock($1)"

/-- Counts the locks with two halves that the session holds. -/
def heldSql : String :=
  "SELECT count(*) FROM pg_locks WHERE pid = pg_backend_pid() AND locktype = 'advisory' " ++
    "AND classid::bigint = $1 AND objid::bigint = $2 AND objsubid = 1"

/-- What was read, or the error of a fault. -/
def orError {α : Type} (r : Except DatabaseFault α) : LockScript α :=
  lift (r.mapError DatabaseFault.toError)

/-- Takes a lock if nobody holds it; tells whether the session holds it now. -/
def tryLock (key : LockKey) : LockScript Bool := do
  let answer ← execute tryLockSql [.bigint key.toInt]
  orError (answer.readFirst fun row => Cell.atPlace Cell.readBoolean row 0)

/-- Whether the session holds a lock. -/
def isHeld (key : LockKey) : LockScript Bool := do
  let answer ← execute heldSql [.bigint key.halves.1, .bigint key.halves.2]
  let count ← orError (answer.readFirst fun row => Cell.atPlace Cell.readInteger row 0)
  return 0 < count

/-- Gives a lock back; tells whether the session held it. -/
def release (key : LockKey) : LockScript Bool := do
  let answer ← execute releaseSql [.bigint key.toInt]
  orError (answer.readFirst fun row => Cell.atPlace Cell.readBoolean row 0)

/-- A lock session in messages. -/
def shown : String := "PgAdvisoryLock \x7b .. \x7d"

end LockSession

end DocStore.Election

import DocStore.Election.LockKey

/-!
# The lock table

Who owns which lock.  A session takes a lock only if nobody owns it, gives it
back, and loses all its locks when it ends.  From outside, an owner can be
removed or replaced.
-/

namespace DocStore.Election

/-- A session with the lock service, by number. -/
abbrev SessionId := Nat

/-- The locks that have an owner, and how many sessions there were. -/
structure LockTable where
  owners : List (LockKey × SessionId)
  opened : Nat
  deriving DecidableEq, Inhabited

namespace LockTable

def empty : LockTable := ⟨[], 0⟩

/-- The owner of a lock. -/
def owner? (t : LockTable) (key : LockKey) : Option SessionId := t.owners.lookup key

/-- A new session; sessions are numbered from one. -/
def connect (t : LockTable) : SessionId × LockTable :=
  (t.opened + 1, { t with opened := t.opened + 1 })

/-- Takes a lock that nobody owns; tells whether the session owns it now. -/
def tryLock (t : LockTable) (session : SessionId) (key : LockKey) : Bool × LockTable :=
  match t.owner? key with
  | none => (true, { t with owners := (key, session) :: t.owners })
  | some owner => (owner == session, t)

/-- Whether the session owns the lock. -/
def isHeld (t : LockTable) (session : SessionId) (key : LockKey) : Bool :=
  t.owner? key == some session

/-- Removes the owner of a lock. -/
def sever (t : LockTable) (key : LockKey) : LockTable :=
  { t with owners := t.owners.filter (·.1 != key) }

/-- Gives a lock back; tells whether the session owned it. -/
def release (t : LockTable) (session : SessionId) (key : LockKey) : Bool × LockTable :=
  if t.isHeld session key then (true, t.sever key) else (false, t)

/-- Frees what the session owned. -/
def endSession (t : LockTable) (session : SessionId) : LockTable :=
  { t with owners := t.owners.filter (·.2 != session) }

/-- Makes a session the owner of a lock, whoever owned it. -/
def steal (t : LockTable) (session : SessionId) (key : LockKey) : LockTable :=
  let rest := t.sever key
  { rest with owners := (key, session) :: rest.owners }

end LockTable

end DocStore.Election

import DocStore.Cipher.Envelope
import DocStore.Database.Operation
import DocStore.Database.Row
import DocStore.KeyValue.Key
import DocStore.Sql.Pattern
import DocStore.Sql.TableName
import DocStore.Text.Shown
import DocStore.Time.Duration

/-!
# The key/value store

Settings in a table of keys and values.  Every operation makes sure of the table
first, until it is known to be there.  Keys are brought into normal form on the
way in.

Secrets are kept sealed; a store without a cipher refuses them.
-/

namespace DocStore

open Sql (TableName)

/-- The settings of a table, in the order of their keys. -/
abbrev Settings : Type := List (String × String)

/-- A key/value store: its table, how long an operation may take, and how it keeps
secrets. -/
structure KeyValueStore where
  table : TableName
  timeout : Duration
  cipher : Option Cipher.SecretCipher

namespace KeyValueStore

open Script
open KeyValue (normalKey)

variable {α : Type}

/-- Operations of key/value stores remember that the table is there. -/
abbrev Work (α : Type) : Type := Script Unit α

/-- A store for a table, if its name is one. -/
def ofTable (name : String) : Except StoreError KeyValueStore :=
  (TableName.parse name).map fun name => ⟨name, .ofSeconds 30, none⟩

def withTimeout (s : KeyValueStore) (timeout : Duration) : KeyValueStore := { s with timeout }

def withCipher (s : KeyValueStore) (cipher : Cipher.SecretCipher) : KeyValueStore :=
  { s with cipher := some cipher }

/-- Reports failed operations. -/
def reporter (s : KeyValueStore) : Reporter :=
  ⟨"Key/value store operation failed", s.table.text⟩

/-- Makes the table unless it is there. -/
def createSql (s : KeyValueStore) : String :=
  "CREATE TABLE IF NOT EXISTS " ++ s.table.text ++
    " (key varchar(1000) PRIMARY KEY, value varchar(4000))"

/-- Makes sure of the table.  It does not matter if another session was faster. -/
def ensureTable (s : KeyValueStore) : Work Unit := do
  match ← remembered with
  | some () => return ()
  | none =>
      ask (.execute (.plain s.createSql)) fun
        | .ok _ => keep ()
        | .error fault =>
            if fault.toError.isAlreadyExists then keep () else fail fault.toError

/-- An operation that makes sure of the table first. -/
def operation (s : KeyValueStore) (name : String) (body : Work α) : Operation Unit α :=
  .of name fun _ => do
    s.ensureTable
    body

/-- What was read, or the error of a fault. -/
def orError (r : Except DatabaseFault α) : Work α := lift (r.mapError DatabaseFault.toError)

/-- Settings from rows in any order; of two with one key the later counts. -/
def readSettings (answer : Answer) : Except DatabaseFault Settings := do
  let rows ← answer.readAll fun row => do
    let key ← Cell.atPlace Cell.readText row 0
    let value ← Cell.atPlace Cell.readText row 1
    .ok (key, value)
  .ok (rows.foldl (fun acc (key, value) => put key value acc) [])
where
  /-- Sets one key, keeping the order. -/
  put (key value : String) : Settings → Settings
    | [] => [(key, value)]
    | (k, v) :: rest =>
        if key < k then (key, value) :: (k, v) :: rest
        else if key = k then (key, value) :: rest
        else (k, v) :: put key value rest

/-! ## Settings -/

/-- Makes sure of the table. -/
def init (s : KeyValueStore) : Operation Unit Unit := s.operation "init" (return ())

/-- The value under a key, if there is one. -/
def get (s : KeyValueStore) (key : String) : Operation Unit (Option String) :=
  s.operation "get" do
    let answer ← execute
      ("SELECT COALESCE(value, '') FROM " ++ s.table.text ++ " WHERE key = $1")
      [.text (normalKey key)]
    orError (answer.readFirst? fun row => Cell.atPlace Cell.readText row 0)

/-- Every setting. -/
def getAll (s : KeyValueStore) : Operation Unit Settings :=
  s.operation "get_all" do
    let answer ← execute ("SELECT key, COALESCE(value, '') FROM " ++ s.table.text) []
    orError (readSettings answer)

/-- The pattern of the keys that start with a text. -/
def startPattern (start : String) : String :=
  String.ofList (Sql.Pattern.startsWith (normalKey start).toList)

/-- The settings whose keys start with a text. -/
def getStarting (s : KeyValueStore) (start : String) : Operation Unit Settings :=
  s.operation "get_with_prefix" do
    let answer ← execute
      ("SELECT key, COALESCE(value, '') FROM " ++ s.table.text ++
        " WHERE key LIKE $1 ESCAPE '\\'")
      [.text (startPattern start)]
    orError (readSettings answer)

/-- Sets the value under a key. -/
def upsertSql (s : KeyValueStore) : String :=
  "INSERT INTO " ++ s.table.text ++ " (key, value) VALUES ($1, $2)" ++
    " ON CONFLICT (key) DO UPDATE SET value = EXCLUDED.value"

/-- Sets one value. -/
def put (s : KeyValueStore) (key value : String) : Work Unit := do
  let _ ← execute s.upsertSql [.text (normalKey key), .text value]
  return ()

/-- Sets values one after the other. -/
def putAll (s : KeyValueStore) : Settings → Work Unit
  | [] => return ()
  | (key, value) :: rest => do
      s.put key value
      putAll s rest

def set (s : KeyValueStore) (key value : String) : Operation Unit Unit :=
  s.operation "set" (s.put key value)

/-- Sets several values in the order of their keys as given, all of them or none. -/
def setMany (s : KeyValueStore) (items : Settings) : Operation Unit Unit :=
  s.operation "set_many" (transaction (s.putAll items))

/-- Removes a key; tells whether there was one. -/
def delete (s : KeyValueStore) (key : String) : Operation Unit Bool :=
  s.operation "delete" do
    let answer ← execute ("DELETE FROM " ++ s.table.text ++ " WHERE key = $1")
      [.text (normalKey key)]
    return 0 < answer.affected

/-! ## Secrets -/

/-- The cipher, which secrets need. -/
def needCipher (s : KeyValueStore) : Except StoreError Cipher.SecretCipher :=
  match s.cipher with
  | some cipher => .ok cipher
  | none => .error (.configuration "no encryption key available")

/-- Sets a secret, sealed under a nonce; fails at once if it cannot be sealed. -/
def setSecure (s : KeyValueStore) (nonce : Cipher.Nonce) (key secret : String) :
    Except StoreError (Operation Unit Unit) := do
  let cipher ← s.needCipher
  let sealed ← cipher.encrypt nonce secret
  .ok (s.set key sealed)

/-- The secret in what the store gave. -/
def openSecure (cipher : Cipher.SecretCipher) :
    Option String → Except StoreError (Option String)
  | none => .ok none
  | some sealed => (cipher.decrypt sealed).map some

/-! ## In messages -/

/-- The store in messages. -/
def shown (s : KeyValueStore) : String :=
  "KeyValueStore \x7b table: " ++ Text.shown s.table.text ++ ", secure: " ++
    toString s.cipher.isSome ++ " \x7d"

end KeyValueStore

end DocStore

import DocStore.Document.Typed
import DocStore.Election.Session
import DocStore.KeyValue.Store
import DocStore.Pool.Rehearsal

/-!
# Sessions

Stores, a pool and a lock session over one scripted server.  The stores share a
provider, apart from those that have their own.  Operations run on a connection
of the pool, or on a connection that the caller holds, in whatever transactions
are open on it.
-/

namespace DocStore

open Pool (Rehearsal Server)

/-- A store at work. -/
structure StoreInUse (σ κ : Type) where
  store : σ
  /-- What it remembers. -/
  memory : Option κ
  /-- Its provider, unless it shares that of the session. -/
  own : Option Rehearsal

/-- A key/value store at work. -/
abbrev SettingsInUse : Type := StoreInUse KeyValueStore Unit

/-- A document store at work. -/
abbrev DocumentsInUse : Type := StoreInUse DocumentStore TableLayout

/-- Stores over one server. -/
structure Session where
  config : StoreConfig
  /-- The provider that the stores share. -/
  shared : Rehearsal
  documents : List (String × DocumentsInUse)
  settings : List (String × SettingsInUse)
  /-- The connection that the caller holds and has the stores use. -/
  held : Option Link
  /-- The connection of the lock session. -/
  lock : Option Link

namespace StoreInUse

variable {σ κ α : Type}

/-- Runs an operation; also gives the shared provider and the held connection as they are
afterwards. -/
def perform (u : StoreInUse σ κ) (shared : Rehearsal) (held : Option Link)
    (reporter : Reporter) (timeout : Duration) (op : Operation κ α) :
    Except StoreError α × StoreInUse σ κ × Rehearsal × Option Link :=
  let r := match u.own with
    | none => shared
    | some own => own.beside shared
  let (performed, held) := match held with
    | none => (r.perform reporter timeout op u.memory, none)
    | some link =>
        let (performed, link) := r.performOn link reporter timeout op u.memory
        (performed, some link)
  let r := performed.rehearsal
  let u' := { u with memory := performed.memory, own := u.own.map fun _ => r }
  (performed.result, u', if u.own.isSome then shared.beside r else r, held)

end StoreInUse

namespace Session

variable {α : Type}

/-- A session without stores, if the configuration makes sense. -/
def ofConfig (config : StoreConfig) (network : ConnectOptions → Option DatabaseFault) :
    Except StoreError Session :=
  (ConnectionProvider.ofConfig config).map fun provider =>
    { config, shared := .ofProvider provider (.onNetwork network)
      documents := [], settings := [], held := none, lock := none }

/-- Lays down what the server answers next, and forgets what was seen so far. -/
def prepare (s : Session) (attempts : List Pool.Attempt) (outcomes : List Outcome) : Session :=
  let server := s.shared.server.withScript attempts outcomes
  { s with shared := { s.shared with server, log := [] } }

/-- What the server saw since then. -/
def seen (s : Session) : List Pool.Sighting := s.shared.server.seen

/-- What was reported since then. -/
def log (s : Session) : List LogEvent := s.shared.log

/-- Reports an event. -/
def report (s : Session) (event : LogEvent) : Session :=
  { s with shared := s.shared.report [event] }

/-! ## Stores -/

/-- A list with a value for one name, in the place of another. -/
def put {β : Type} (name : String) (b : β) (entries : List (String × β)) : List (String × β) :=
  (name, b) :: entries.filter (·.1 ≠ name)

/-- With a document store. -/
def withDocuments (s : Session) (name : String) (u : DocumentsInUse) : Session :=
  { s with documents := put name u s.documents, settings := s.settings.filter (·.1 ≠ name) }

/-- A document store on the table of the session's configuration, with its own provider. -/
def openDocuments (s : Session) : Except StoreError DocumentsInUse := do
  let table ← s.config.connection.tableName
  let provider ← ConnectionProvider.ofConfig s.config
  let store ← DocumentStore.ofTable table.text
  .ok ⟨store.withTimeout s.config.timeout.query, none,
    some (.ofProvider provider s.shared.server)⟩

/-- With a key/value store. -/
def withSettings (s : Session) (name : String) (u : SettingsInUse) : Session :=
  { s with settings := put name u s.settings, documents := s.documents.filter (·.1 ≠ name) }

/-- Runs an operation of a document store. -/
def performDocuments (s : Session) (name : String) (u : DocumentsInUse)
    (op : Operation TableLayout α) : Except StoreError α × Session :=
  let (result, u, shared, held) :=
    u.perform s.shared s.held u.store.reporter u.store.timeout op
  (result, { s with shared, held, documents := put name u s.documents })

/-- Runs an operation of a key/value store, always on a connection of the pool. -/
def performSettings (s : Session) (name : String) (u : SettingsInUse) (op : Operation Unit α) :
    Except StoreError α × Session :=
  let (result, u, shared, _) := u.perform s.shared none u.store.reporter u.store.timeout op
  (result, { s with shared, settings := put name u s.settings })

/-- Fails as an operation of a key/value store, and reports it. -/
def failSettings (s : Session) (u : SettingsInUse) (operation : String) (e : StoreError) :
    Except StoreError α × Session :=
  (.error e, s.report (u.store.reporter.failed operation e))

/-- Sets a secret. -/
def setSecure (s : Session) (name : String) (u : SettingsInUse) (nonce : Cipher.Nonce)
    (key secret : String) : Except StoreError Unit × Session :=
  match u.store.setSecure nonce key secret with
  | .error e => s.failSettings u "set_secure" e
  | .ok op => s.performSettings name u op

/-- The secret under a key. -/
def getSecure (s : Session) (name : String) (u : SettingsInUse) (key : String) :
    Except StoreError (Option String) × Session :=
  match u.store.needCipher with
  | .error e => s.failSettings u "get_secure" e
  | .ok cipher =>
      match s.performSettings name u (u.store.get key) with
      | (.error e, s) => (.error e, s)
      | (.ok found, s) =>
          match KeyValueStore.openSecure cipher found with
          | .error e => s.failSettings u "get_secure" e
          | .ok secret => (.ok secret, s)

/-- Closes the provider of a document store. -/
def closeDocuments (s : Session) (name : String) (u : DocumentsInUse) : Session :=
  match u.own with
  | none => { s with shared := s.shared.close }
  | some own =>
      let own := (own.beside s.shared).close
      { s with
        shared := s.shared.beside own
        documents := put name { u with own := some own } s.documents }

/-! ## The shared provider -/

/-- Runs a call at the shared provider. -/
def atPool (s : Session) (f : Rehearsal → α × Rehearsal) : α × Session :=
  let (a, shared) := f s.shared
  (a, { s with shared })

/-- Opens a unit of work and has the stores use its connection. -/
def openUnit (s : Session) : Except StoreError Rehearsal.OpenUnit × Session :=
  match s.shared.openUnit with
  | (.error e, shared) => (.error e, { s with shared })
  | (.ok u, shared) => (.ok u, { s with shared, held := some u.loan.link })

/-- Ends a unit of work. -/
def endUnit (s : Session) (u : Rehearsal.OpenUnit) : Session :=
  let loan := { u.loan with link := s.held.getD u.loan.link }
  { s with shared := s.shared.endUnit { u with loan }, held := none }

/-! ## Transactions of the caller -/

/-- How a transaction of the caller ends. -/
inductive TransactionEnd where
  | commit
  | rollback
  /-- It is dropped, which rolls it back. -/
  | drop
  deriving DecidableEq

/-- What is asked of the server then. -/
def TransactionEnd.script : TransactionEnd → Script Empty Unit
  | commit => Script.commit
  | rollback => Script.send .rollback >>= fun _ => pure ()
  | drop => pure ()

/-- Runs a script on the held connection. -/
def onHeld (s : Session) (script : Script Empty α) : Except StoreError α × Session :=
  match s.held with
  | none => (.error .connectionClosed, s)
  | some link =>
      let (result, link, server) := s.shared.server.run script link
      (result, { s with shared := { s.shared with server }, held := some link })

/-- Begins a transaction on the held connection. -/
def begin (s : Session) : Except StoreError Unit × Session :=
  s.onHeld (Script.send .begin >>= fun _ => pure ())

/-- Ends the innermost transaction on the held connection.  One that is still open then is
rolled back. -/
def endTransaction (s : Session) (how : TransactionEnd) : Except StoreError Unit × Session :=
  let depth := (s.held.getD .fresh).depth - 1
  let (result, s) := s.onHeld how.script
  match s.held with
  | none => (result, s)
  | some link =>
      let (link, server) := s.shared.server.unwind link depth
      (result, { s with shared := { s.shared with server }, held := some link })

/-! ## The lock session -/

/-- Opens a lock session in the place of another. -/
def connectLock (s : Session) : Except StoreError Unit × Session :=
  let config := s.config.connection
  let (result, server) := s.shared.server.dedicated config s.config.timeout.connect
  let s := { s with shared := { s.shared with server } }
  match result with
  | .error e => (.error e, s)
  | .ok link =>
      (.ok (), { s with lock := some link }.report
        ⟨.debug, "Opened election session", [("target", config.sanitized)]⟩)

/-- Asks something in the lock session; there has to be one. -/
def askLock (s : Session) (script : Election.LockScript α) :
    Option (Except StoreError α) × Session :=
  match s.lock with
  | none => (none, s)
  | some link =>
      let (result, link, server) := s.shared.server.run script link
      (some result, { s with shared := { s.shared with server }, lock := some link })

/-- Ends the lock session; tells whether there was one. -/
def dropLock (s : Session) : Bool × Session := (s.lock.isSome, { s with lock := none })

end Session

end DocStore

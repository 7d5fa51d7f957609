import DocStore.Config.Options
import DocStore.Database.Play

/-!
# A scripted server

A server whose answers are laid down beforehand: how attempts to connect go, and
what happens to statements.  When a list is used up, everything succeeds.  The
server keeps what it saw.

Between the library and the server is a network, which may not let a target be
reached at all.
-/

namespace DocStore.Pool

/-- What a server saw. -/
inductive Sighting where
  | connect (options : ConnectOptions)
  | statement (s : Sql.Statement)

/-- How an attempt to connect goes. -/
inductive Attempt where
  | opens
  | refused (code : Option String) (message : String)
  /-- The connection ends at once. -/
  | lost
  /-- No answer comes in time. -/
  | hang
  deriving DecidableEq, Inhabited

/-- A server and what it saw. -/
structure Server where
  /-- Why a target cannot be reached. -/
  network : ConnectOptions → Option DatabaseFault
  attempts : List Attempt
  outcomes : List Outcome
  seen : List Sighting

/-- What comes of an attempt to connect. -/
inductive Connected where
  | link (link : Link)
  | fault (fault : DatabaseFault)
  | never

namespace Server

/-- A server that was asked nothing yet. -/
def onNetwork (network : ConnectOptions → Option DatabaseFault) : Server := ⟨network, [], [], []⟩

/-- The answers for what comes next, in the place of those that are left. -/
def withScript (s : Server) (attempts : List Attempt) (outcomes : List Outcome) : Server :=
  { s with attempts, outcomes, seen := [] }

/-- Encryption that is asked for and not there. -/
def encryptionFault : DatabaseFault :=
  .tls "TLS upgrade required by connect options but SQLx was built without TLS support enabled"

/-- Whether a connection must be encrypted. -/
def needsEncryption (o : ConnectOptions) : Bool :=
  match o.encryption with
  | .mode .require | .mode .verifyCa | .mode .verifyFull => true
  | _ => false

/-- Connects. -/
def connect (s : Server) (o : ConnectOptions) : Connected × Server :=
  match s.network o with
  | some fault => (.fault fault, s)
  | none =>
      if needsEncryption o then (.fault encryptionFault, s)
      else
        let s' := { s with attempts := s.attempts.tail, seen := s.seen ++ [.connect o] }
        match s.attempts.head? with
        | none | some .opens => (.link .fresh, s')
        | some (.refused code message) => (.fault (.server code message), s')
        | some .lost => (.fault .ended, s')
        | some .hang => (.never, s')

/-- The server after a play. -/
def after (s : Server) (stage : Stage) : Server :=
  { s with outcomes := stage.outcomes, seen := s.seen ++ stage.sent.map Sighting.statement }

/-- Plays a script on a connection, and rolls back what it leaves open. -/
def play {κ α : Type} (s : Server) (script : Script κ α) (link : Link) (memory : Option κ) :
    Played κ α × Server :=
  let played := script.play ⟨link, s.outcomes, []⟩ memory
  (played, s.after played.stage)

/-- What happens to a statement whose sender waits as long as it takes. -/
def patiently : Outcome → Outcome
  | .hang => .answer .empty
  | outcome => outcome

/-- Runs a script that has no deadline.  What it leaves open stays open. -/
def run {α : Type} (s : Server) (script : Script Empty α) (link : Link) :
    Except StoreError α × Link × Server :=
  let played := script.playOn ⟨link, s.outcomes.map patiently, []⟩ none []
  let result := match played.ending with
    | .result result => result
    | .cutOff => .error .connectionClosed
  (result, played.stage.link, s.after played.stage)

/-- Rolls back what is open on a connection beyond a depth. -/
def unwind (s : Server) (link : Link) (depth : Nat) : Link × Server :=
  let stage := Stage.unwind ⟨link, s.outcomes, []⟩ depth
  (stage.link, s.after stage)

/-- Connects outside of any pool, within a limit. -/
def dedicated (s : Server) (config : ConnectionConfig) (limit : Duration) :
    Except StoreError Link × Server :=
  match ConnectOptions.ofConfig config with
  | .error e => (.error e, s)
  | .ok options =>
      match s.connect options with
      | (.link link, s) => (.ok link, s)
      | (.fault fault, s) => (.error fault.toError, s)
      | (.never, s) => (.error (config.overdue limit), s)

end Server

end DocStore.Pool

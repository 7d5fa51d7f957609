import DocStore.Database.Operation
import DocStore.Pool.Desk
import DocStore.Pool.Server

/-!
# Providers on a scripted server

A provider at work: its calls are made one after the other, its pool opens
connections on a scripted server, lends them and takes them back, and operations
of stores run on them.

Where no answer comes, the shortest of the limits ends the wait: the one for a
connection of the pool, the one for opening the pool, and the one of the
operation.  If several end at once, it is the first of these.
-/

namespace DocStore.Pool

/-- A connection that a pool lent. -/
structure Loan where
  pool : PoolId
  link : Link
  deriving DecidableEq

/-- A lease in messages: on a connection of the pool, or on one of the caller. -/
def leaseShown (pinned : Bool) : String := if pinned then "Lease::Pinned" else "Lease::Pooled"

/-- A provider and the connections of its pool. -/
structure Rehearsal where
  desk : Desk
  /-- The idle connections of the pool in use. -/
  idle : List Link
  /-- How many connections of the pool in use are lent. -/
  lent : Nat
  server : Server
  log : List LogEvent

/-- What a call for a connection comes to. -/
inductive Sought where
  | loan (grant : Grant) (loan : Loan)
  | failed (e : StoreError)
  /-- The operation's own time was up. -/
  | cutOff

/-- What an operation comes to. -/
structure Performed (κ α : Type) where
  result : Except StoreError α
  memory : Option κ
  rehearsal : Rehearsal

namespace Rehearsal

variable {κ α : Type}

/-- A provider before its first use. -/
def ofProvider (provider : ConnectionProvider) (server : Server) : Rehearsal :=
  ⟨.ofProvider provider, [], 0, server, []⟩

def provider (r : Rehearsal) : ConnectionProvider := r.desk.provider

/-- Reports events. -/
def report (r : Rehearsal) (events : List LogEvent) : Rehearsal :=
  { r with log := r.log ++ events }

/-- Tells the desk what happens.  Connections of a pool that is no longer in use do not
count any more. -/
def tell (r : Rehearsal) (event : Event) : Rehearsal :=
  let (desk, events) := r.desk.step event
  let kept := desk.provider.slot = r.provider.slot
  { r with
    desk, log := r.log ++ events
    idle := if kept then r.idle else []
    lent := if kept then r.lent else 0 }

/-- How a wait ends to which no answer comes. -/
inductive Limit where
  | acquire
  | connect
  | operation
  deriving DecidableEq

/-- Whether a limit is not after another, if there is another. -/
def within (limit : Duration) : Option Duration → Bool
  | none => true
  | some other => limit.inNanos ≤ other.inNanos

/-- The limit that ends a wait while a pool is opened. -/
def openingLimit (r : Rehearsal) (deadline : Option Duration) : Limit :=
  let acquire := r.provider.pool.acquireTimeout
  let connect := r.provider.connectTimeout
  if within acquire (some connect) && within acquire deadline then .acquire
  else if within connect deadline then .connect
  else .operation

/-! ## Getting a connection -/

/-- Lets a pool be opened that a call is about to open.  Its first connection is idle
then. -/
def openPool (r : Rehearsal) (deadline : Option Duration) : Rehearsal :=
  match r.desk.opening with
  | none => r
  | some (call, options) =>
      let (connected, server) := r.server.connect options
      let r := { r with server }
      match connected with
      | .link link => { r.tell (.opening .opened) with idle := [link] }
      | .fault fault => r.tell (.opening (.failed fault))
      | .never =>
          match r.openingLimit deadline with
          | .acquire => r.tell (.opening (.failed .poolTimedOut))
          | .connect => r.tell (.opening .overdue)
          | .operation => r.tell (.giveUp call.id)

/-- A call waits for a connection that does not come. -/
def waitInVain (r : Rehearsal) (call : CallId) (deadline : Option Duration) : Rehearsal :=
  if within r.provider.pool.acquireTimeout deadline then
    r.tell (.leased call (some .poolTimedOut))
  else r.tell (.giveUp call)

/-- Lets a call have a connection: an idle one, or a new one if the pool may have more. -/
def lease (r : Rehearsal) (call : CallId) (deadline : Option Duration) :
    Option Link × Rehearsal :=
  match r.idle.filter (·.alive) with
  | link :: idle => (some link, { r with idle, lent := r.lent + 1 }.tell (.leased call none))
  | [] =>
      let r := { r with idle := [] }
      if r.provider.pool.maxConnections ≤ r.lent then (none, r.waitInVain call deadline)
      else
        let (connected, server) := r.server.connect r.provider.options
        let r := { r with server }
        match connected with
        | .link link => (some link, { r with lent := r.lent + 1 }.tell (.leased call none))
        | .fault fault => (none, r.tell (.leased call (some fault)))
        | .never => (none, r.waitInVain call deadline)

/-- What a call came to. -/
def sought (r : Rehearsal) (call : CallId) (link : Option Link) : Sought :=
  match r.desk.result? call, link with
  | some (.error e), _ => .failed e
  | some (.ok (.lease pool)), some link => .loan (.lease pool) ⟨pool, link⟩
  | some (.ok (.unit pool number)), some link => .loan (.unit pool number) ⟨pool, link⟩
  | _, _ => .cutOff

/-- Asks for a connection. -/
def seek (r : Rehearsal) (want : Want) (deadline : Option Duration) : Sought × Rehearsal :=
  let call := r.desk.calls
  let r := ((r.tell (.ask want)).tell .turn).openPool deadline
  if (r.desk.result? call).isSome then (r.sought call none, r)
  else
    let (link, r) := r.lease call deadline
    (r.sought call link, r)

/-- A lent connection goes back to its pool, if that is still in use. -/
def giveBack (r : Rehearsal) (loan : Loan) : Rehearsal :=
  if r.provider.slot = some loan.pool then
    { r with lent := r.lent - 1, idle := if loan.link.alive then loan.link :: r.idle else r.idle }
  else r

/-- Takes a lease on a connection of the caller. -/
def pin (r : Rehearsal) : Rehearsal := r.tell .pin

/-! ## Operations -/

/-- Reports the failure of an operation. -/
def blame (r : Rehearsal) (reporter : Reporter) (operation : String) :
    Except StoreError α → Rehearsal
  | .ok _ => r
  | .error e => r.report [reporter.failed operation e]

/-- Runs an operation on a connection of its caller.  Also gives the connection, which may
have ended meanwhile. -/
def performOn (r : Rehearsal) (link : Link) (reporter : Reporter) (timeout : Duration)
    (op : Operation κ α) (memory : Option κ) : Performed κ α × Link :=
  match op.refusal with
  | some e => (⟨.error e, memory, r.report [reporter.failed op.name e]⟩, link)
  | none =>
      let (played, server) := r.server.play (op.script true) link memory
      let r := { r with server }.pin.report played.log
      let result := match played.ending with
        | .result result => result
        | .cutOff => .error (reporter.overdue op.name timeout.shown)
      (⟨result, played.memory, r.blame reporter op.name result⟩, played.stage.link)

/-- Runs an operation on a connection of the pool. -/
def perform (r : Rehearsal) (reporter : Reporter) (timeout : Duration) (op : Operation κ α)
    (memory : Option κ) : Performed κ α :=
  let ended (r : Rehearsal) (result : Except StoreError α) (memory : Option κ) :
      Performed κ α := ⟨result, memory, r.blame reporter op.name result⟩
  match op.refusal with
  | some e => ended r (.error e) memory
  | none =>
      match r.seek .lease (some timeout) with
      | (.failed e, r) => ended r (.error e) memory
      | (.cutOff, r) => ended r (.error (reporter.overdue op.name timeout.shown)) memory
      | (.loan _ loan, r) =>
          let (played, server) := r.server.play (op.script false) loan.link memory
          let r := ({ r with server }.giveBack { loan with link := played.stage.link })
          let r := r.report played.log
          match played.ending with
          | .result result => ended (r.tell .release) result played.memory
          | .cutOff =>
              ended (r.tell .dropLease) (.error (reporter.overdue op.name timeout.shown))
                played.memory

/-! ## The provider's own calls -/

/-- Asks the server for a sign of life over a connection of the pool. -/
def ping (r : Rehearsal) : Except StoreError Unit × Rehearsal :=
  match r.seek .lease none with
  | (.failed e, r) => (.error e, r)
  | (.cutOff, r) => (.error .poolTimeout, r)
  | (.loan _ loan, r) =>
      let sign : Script Empty Unit := Script.send .ping >>= fun _ => pure ()
      let (result, link, server) := r.server.run sign loan.link
      (result, ({ r with server }.giveBack { loan with link }).tell .release)

/-- Gives the provider a new target. -/
def replace (r : Rehearsal) (url : String) : Except StoreError Unit × Rehearsal :=
  let call := r.desk.calls
  let r := ((r.tell (.replace url)).tell .turn).openPool none
  match r.desk.result? call with
  | some (.error e) => (.error e, r)
  | _ => (.ok (), r)

/-- Closes the provider. -/
def close (r : Rehearsal) : Rehearsal := r.tell .close

/-- The statistics. -/
def stats (r : Rehearsal) : PoolStats := r.provider.stats (r.idle.length + r.lent) r.idle.length

/-- A unit of work. -/
structure OpenUnit where
  number : Nat
  loan : Loan

/-- The unit in messages. -/
def OpenUnit.shown (u : OpenUnit) : String :=
  "UnitOfWork \x7b id: " ++ toString u.number ++ " \x7d"

/-- Opens a unit of work. -/
def openUnit (r : Rehearsal) : Except StoreError OpenUnit × Rehearsal :=
  match r.seek .unit none with
  | (.failed e, r) => (.error e, r)
  | (.loan (.unit _ number) loan, r) => (.ok ⟨number, loan⟩, r)
  | (_, r) => (.error .poolTimeout, r)

/-- Ends a unit of work; what it left open is rolled back. -/
def endUnit (r : Rehearsal) (u : OpenUnit) : Rehearsal :=
  let (link, server) := r.server.unwind u.loan.link 0
  ({ r with server }.giveBack { u.loan with link }).tell .dropUnit

/-- The rehearsal on the server of another, as it is now. -/
def beside (r other : Rehearsal) : Rehearsal := { r with server := other.server, log := other.log }

end Rehearsal

end DocStore.Pool

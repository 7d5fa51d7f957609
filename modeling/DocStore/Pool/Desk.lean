import DocStore.Pool.Provider

/-!
# Calls at a provider

Any number of calls ask one provider for its pool, for a connection or for a unit
of work, or give it a new target.  A call that finds a pool in use goes on with
it.  All others queue up to open one, one at a time: the first of the queue looks
again and opens a pool if there still is none.  With a new target it opens one in
any case.

`close` waits for nobody.  A call can be given up at any time, and an opening
that is given up leaves nothing behind.

A pool that goes out of use is handed over for closing, and the driver closes it
in the background: until it has done so, calls that wait for a connection of the
pool can still get one.

The desk is where the calls stand.  Each step is what happens between two
moments at which other calls can get their turn.
-/

namespace DocStore.Pool

/-- Numbers calls in the order they were made, from zero. -/
abbrev CallId : Type := Nat

/-- What a call asks for. -/
inductive Want where
  | pool
  | lease
  | unit
  deriving DecidableEq

/-- What a call is about. -/
inductive Errand where
  | want (w : Want)
  /-- Opens a pool with these options in the place of the one in use. -/
  | replace (options : ConnectOptions)
  deriving DecidableEq

/-- A call that has not ended yet. -/
structure Call where
  id : CallId
  errand : Errand
  deriving DecidableEq

/-- What a call got. -/
inductive Grant where
  | pool (pool : PoolId)
  | lease (pool : PoolId)
  | unit (pool : PoolId) (number : Nat)
  /-- The pool in use was replaced. -/
  | replaced (pool : PoolId)
  deriving DecidableEq

/-- How the opening of a pool ends. -/
inductive Opening where
  | opened
  | failed (fault : DatabaseFault)
  /-- It took longer than it may. -/
  | overdue
  deriving DecidableEq

/-- A provider and the calls at it. -/
structure Desk where
  provider : ConnectionProvider
  /-- How many calls were made. -/
  calls : Nat
  /-- Calls that wait for their turn to open a pool, the first to come first. -/
  queue : List Call
  /-- The call that is opening a pool; nobody else does meanwhile. -/
  opening : Option (Call × ConnectOptions)
  /-- Calls that wait for a connection of a pool. -/
  leasing : List (Call × PoolId)
  ended : List (CallId × Except StoreError Grant)
  /-- How many leases are held. -/
  leases : Nat
  /-- How many units of work are open. -/
  units : Nat
  /-- The pools that were handed over for closing. -/
  retired : List PoolId
  /-- Those of them that the driver has closed. -/
  down : List PoolId

/-- What happens at a desk. -/
inductive Event where
  | ask (w : Want)
  | replace (url : String)
  /-- The first of the queue gets its turn. -/
  | turn
  | opening (result : Opening)
  /-- A call gets a connection of its pool, or a fault. -/
  | leased (call : CallId) (fault : Option DatabaseFault)
  | giveUp (call : CallId)
  | close
  /-- The driver closes a pool that was handed over.  Where no runtime is there to do it in the
  background, the pool is only let go of, and this never comes. -/
  | shutDown (pool : PoolId)
  /-- A lease is given back. -/
  | release
  /-- A lease is dropped; its connection goes back all the same. -/
  | dropLease
  | dropUnit
  /-- An operation takes a connection of its caller. -/
  | pin

/-- A desk and what was reported on the way to it. -/
abbrev Step : Type := Desk × List LogEvent

namespace Desk

/-- The desk of a provider that nobody has called. -/
def ofProvider (provider : ConnectionProvider) : Desk where
  provider := provider
  calls := 0
  queue := []
  opening := none
  leasing := []
  ended := []
  leases := 0
  units := 0
  retired := []
  down := []

/-- A call ends. -/
def finish (d : Desk) (call : CallId) (result : Except StoreError Grant) : Desk :=
  { d with ended := d.ended ++ [(call, result)] }

/-- A call comes to know the pool it asked for. -/
def goOn (d : Desk) (call : Call) (pool : PoolId) : Desk :=
  match call.errand with
  | .want .pool => d.finish call.id (.ok (.pool pool))
  | _ => { d with leasing := d.leasing ++ [(call, pool)] }

/-- A call waits for its turn. -/
def enqueue (d : Desk) (call : Call) : Desk := { d with queue := d.queue ++ [call] }

/-- A new call, and the desk where it is counted. -/
def newCall (d : Desk) (errand : Errand) : Call × Desk :=
  (⟨d.calls, errand⟩, { d with calls := d.calls + 1 })

/-- A call asks for something. -/
def onAsk (d : Desk) (w : Want) : Desk :=
  let (call, d) := d.newCall (.want w)
  if d.provider.closed then d.finish call.id (.error .connectionClosed)
  else
    match d.provider.slot with
    | some pool => d.goOn call pool
    | none => d.enqueue call

/-- A call gives the provider a new target, which can be none. -/
def onReplace (d : Desk) (url : String) : Desk :=
  match d.provider.optionsOf url with
  | .error e => { d with calls := d.calls + 1 }.finish d.calls (.error e)
  | .ok options =>
      let (call, d) := d.newCall (.replace options)
      d.enqueue call

/-- The first of the queue gets its turn, unless a pool is being opened. -/
def onTurn (d : Desk) : Desk :=
  match d.opening, d.queue with
  | none, call :: rest =>
      let d := { d with queue := rest }
      match call.errand, d.provider.slot with
      | .replace options, _ => { d with opening := some (call, options) }
      | .want _, some pool => d.goOn call pool
      | .want _, none => { d with opening := some (call, d.provider.options) }
  | _, _ => d

/-- The opening of a pool ends. -/
def onOpening (d : Desk) (result : Opening) : Step :=
  match d.opening with
  | none => (d, [])
  | some (call, options) =>
      let p := d.provider
      let d := { d with opening := none }
      match result with
      | .failed fault => (d.finish call.id (.error fault.toError), [p.refused fault])
      | .overdue => (d.finish call.id (.error p.overdue), [])
      | .opened =>
          match call.errand with
          | .want _ => ({ d with provider := p.useNext }.goOn call p.nextPool, [p.opened])
          | .replace _ =>
              let d := { d with
                provider := p.replaceBy options, retired := d.retired ++ p.slot.toList }
              (d.finish call.id (.ok (.replaced p.nextPool)), [p.opened])

/-- A call gets a connection.  A pool that the driver has closed lends none. -/
def onLeased (d : Desk) (id : CallId) (fault : Option DatabaseFault) : Step :=
  match d.leasing.find? (·.1.id = id) with
  | none => (d, [])
  | some (call, pool) =>
      let p := d.provider
      let d := { d with leasing := d.leasing.filter (·.1.id ≠ id) }
      match if d.down.contains pool then some .poolClosed else fault with
      | some fault => (d.finish id (.error fault.toError), [])
      | none =>
          match call.errand with
          | .want .unit =>
              let d := { d with provider := p.lendUnit, units := d.units + 1 }
              (d.finish id (.ok (.unit pool p.nextUnit)), [p.unitOpened])
          | _ =>
              let d := { d with provider := p.lend, leases := d.leases + 1 }
              (d.finish id (.ok (.lease pool)), [])

/-- A call is given up wherever it stands. -/
def onGiveUp (d : Desk) (id : CallId) : Desk :=
  { d with
    queue := d.queue.filter (·.id ≠ id)
    opening := d.opening.filter (·.1.id ≠ id)
    leasing := d.leasing.filter (·.1.id ≠ id) }

/-- The provider is closed, and its pool handed over. -/
def onClose (d : Desk) : Step :=
  let p := d.provider
  ({ d with provider := p.close, retired := d.retired ++ p.slot.toList },
    if p.slot.isSome then [p.closing] else [])

/-- A pool that was handed over is closed. -/
def onShutDown (d : Desk) (pool : PoolId) : Desk :=
  { d with down := if d.retired.contains pool then d.down ++ [pool] else d.down }

/-- One step. -/
def step (d : Desk) : Event → Step
  | .ask w => (d.onAsk w, [])
  | .replace url => (d.onReplace url, [])
  | .turn => (d.onTurn, [])
  | .opening result => d.onOpening result
  | .leased id fault => d.onLeased id fault
  | .giveUp id => (d.onGiveUp id, [])
  | .close => d.onClose
  | .shutDown pool => (d.onShutDown pool, [])
  | .release =>
      match d.leases with
      | 0 => (d, [])
      | leases + 1 => ({ d with provider := d.provider.takeBack, leases }, [])
  | .dropLease => ({ d with leases := d.leases - 1 }, [])
  | .dropUnit => ({ d with units := d.units - 1 }, [])
  | .pin => ({ d with provider := d.provider.reuse }, [])

/-- What a call got, once it has ended. -/
def result? (d : Desk) (id : CallId) : Option (Except StoreError Grant) := d.ended.lookup id

end Desk

end DocStore.Pool

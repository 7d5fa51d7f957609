import DocStore.Config.Options
import DocStore.Config.Store
import DocStore.Database.Fault
import DocStore.Log
import DocStore.Pool.Stats
import DocStore.Text.Shown

/-!
# The connection provider

A provider knows where the database is and which pool of connections is in use.
Making one touches no network: a pool is opened when a connection is first
needed.  A closed provider hands nothing out until it is given a new target.

This module holds the provider and the changes that can be made to it.  Which of
them a call makes, and what other calls can do in between, is in `Pool.Desk`.
-/

namespace DocStore

/-- Numbers pools in the order they were opened, from one. -/
abbrev PoolId : Type := Nat

/-- What the stores of one database share. -/
structure ConnectionProvider where
  /-- The target the provider was made for; it names the target in messages for good. -/
  config : ConnectionConfig
  pool : PoolConfig
  connectTimeout : Duration
  /-- How the next pool is opened. -/
  options : ConnectOptions
  /-- The pool in use. -/
  slot : Option PoolId
  closed : Bool
  poolsCreated : Nat
  totalAcquired : Nat
  totalReleased : Nat
  /-- How often an operation ran on a connection of its caller. -/
  pinnedReuse : Nat
  unitsOpened : Nat
  deriving DecidableEq

namespace ConnectionProvider

/-- A provider that has done nothing yet, if the configuration makes sense. -/
def ofConfig (c : StoreConfig) : Except StoreError ConnectionProvider :=
  (ConnectOptions.ofConfig c.connection).map fun options =>
    { config := c.connection, pool := c.pool, connectTimeout := c.timeout.connect
      options, slot := none, closed := false
      poolsCreated := 0, totalAcquired := 0, totalReleased := 0, pinnedReuse := 0
      unitsOpened := 0 }

/-- The target in messages. -/
def target (p : ConnectionProvider) : String := p.config.sanitized

/-- How to reach another target.  The table stays, and has to be one. -/
def optionsOf (p : ConnectionProvider) (url : String) : Except StoreError ConnectOptions := do
  let config ← ConnectionConfig.ofUrl url
  ConnectOptions.ofConfig { config with table := p.config.table }

/-! ## Opening a pool -/

/-- The report of a pool that could not be opened. -/
def refused (p : ConnectionProvider) (fault : DatabaseFault) : LogEvent :=
  ⟨.error, "Failed to open connection pool", [("target_db", p.target), ("error", fault.message)]⟩

/-- The error of a pool that takes too long to open. -/
def overdue (p : ConnectionProvider) : StoreError := p.config.overdue p.connectTimeout

/-- The number of the next pool. -/
def nextPool (p : ConnectionProvider) : PoolId := p.poolsCreated + 1

/-- The report of a pool that was opened. -/
def opened (p : ConnectionProvider) : LogEvent :=
  ⟨.info, "Opened connection pool to " ++ p.target ++ " (max " ++
    toString p.pool.maxConnections ++ " connections)", []⟩

/-- The next pool was opened for the first use. -/
def useNext (p : ConnectionProvider) : ConnectionProvider :=
  { p with poolsCreated := p.nextPool, slot := some p.nextPool }

/-- The next pool was opened for a new target. -/
def replaceBy (p : ConnectionProvider) (options : ConnectOptions) : ConnectionProvider :=
  { p.useNext with options, closed := false }

/-! ## Closing -/

/-- The report of a pool that is being closed. -/
def closing (p : ConnectionProvider) : LogEvent :=
  ⟨.info, "Closing connection pool to " ++ p.target, []⟩

/-- The provider without its pool. -/
def close (p : ConnectionProvider) : ConnectionProvider := { p with closed := true, slot := none }

/-! ## Counting -/

/-- A connection of the pool was lent. -/
def lend (p : ConnectionProvider) : ConnectionProvider :=
  { p with totalAcquired := p.totalAcquired + 1 }

/-- A lent connection was given back. -/
def takeBack (p : ConnectionProvider) : ConnectionProvider :=
  { p with totalReleased := p.totalReleased + 1 }

/-- An operation ran on a connection of its caller. -/
def reuse (p : ConnectionProvider) : ConnectionProvider :=
  { p with pinnedReuse := p.pinnedReuse + 1 }

/-- The number of the next unit of work. -/
def nextUnit (p : ConnectionProvider) : Nat := p.unitsOpened + 1

/-- A connection of the pool was lent for a unit of work. -/
def lendUnit (p : ConnectionProvider) : ConnectionProvider :=
  { p.lend with unitsOpened := p.nextUnit }

/-- The report of a unit of work. -/
def unitOpened (p : ConnectionProvider) : LogEvent :=
  ⟨.debug, "Opened unit of work " ++ toString p.nextUnit, []⟩

/-- The statistics, given how many connections the pool in use has and how many of them
are idle. -/
def stats (p : ConnectionProvider) (size idle : Nat) : PoolStats where
  poolsCreated := p.poolsCreated
  totalAcquired := p.totalAcquired
  totalReleased := p.totalReleased
  pinnedReuse := p.pinnedReuse
  currentSize := if p.slot.isSome then size else 0
  idle := if p.slot.isSome then idle else 0
  maxSize := p.pool.maxConnections
  minSize := p.pool.minConnections

/-! ## In messages -/

/-- The provider in messages. -/
def shown (p : ConnectionProvider) : String :=
  "ConnectionProvider \x7b target: " ++ Text.shown p.target ++ ", closed: " ++
    toString p.closed ++ " \x7d"

end ConnectionProvider

end DocStore

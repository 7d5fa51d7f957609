import DocStore.Config.Connection
import DocStore.Time.Duration

/-!
# Store configuration

Where a store is, how many connections it may use, and how long an operation may
take.
-/

namespace DocStore

/-- Size and timing of a connection pool. -/
structure PoolConfig where
  minConnections : Nat
  maxConnections : Nat
  acquireTimeout : Duration
  idleTimeout : Duration
  maxLifetime : Duration
  testOnAcquire : Bool
  deriving DecidableEq, Inhabited

/-- How long connecting and operations may take. -/
structure TimeoutConfig where
  connect : Duration
  /-- For each store operation as a whole. -/
  query : Duration
  deriving DecidableEq, Inhabited

/-- The configuration of a store. -/
structure StoreConfig where
  connection : ConnectionConfig
  pool : PoolConfig
  timeout : TimeoutConfig
  deriving DecidableEq, Inhabited

namespace PoolConfig

def default : PoolConfig where
  minConnections := 0
  maxConnections := 10
  acquireTimeout := .ofSeconds 30
  idleTimeout := .ofSeconds 600
  maxLifetime := .ofSeconds 1800
  testOnAcquire := true

def toJson (c : PoolConfig) : Json :=
  .ofMembers [("min_connections", .ofNat c.minConnections),
    ("max_connections", .ofNat c.maxConnections), ("acquire_timeout", c.acquireTimeout.toJson),
    ("idle_timeout", c.idleTimeout.toJson), ("max_lifetime", c.maxLifetime.toJson),
    ("test_on_acquire", .bool c.testOnAcquire)]

def decode : Decoder PoolConfig :=
  let sizes := Fields.seq (.map PoolConfig.mk (.required "min_connections" (.unsigned 32)))
    (.required "max_connections" (.unsigned 32))
  let times := Fields.seq (.seq (.seq sizes (.required "acquire_timeout" Duration.decode))
    (.required "idle_timeout" Duration.decode)) (.required "max_lifetime" Duration.decode)
  Fields.record "PoolConfig" (.seq times (.required "test_on_acquire" .bool))

end PoolConfig

namespace TimeoutConfig

def default : TimeoutConfig := ⟨.ofSeconds 10, .ofSeconds 30⟩

def toJson (c : TimeoutConfig) : Json :=
  .ofMembers [("connect", c.connect.toJson), ("query", c.query.toJson)]

def decode : Decoder TimeoutConfig :=
  Fields.record "TimeoutConfig" <|
    .seq (.map TimeoutConfig.mk (.required "connect" Duration.decode))
      (.required "query" Duration.decode)

end TimeoutConfig

namespace StoreConfig

def default : StoreConfig := ⟨.default, .default, .default⟩

/-- The configuration of a target. -/
def ofConnection (connection : ConnectionConfig) : StoreConfig := { default with connection }

/-- A host, a database and a table. -/
def ofHost (host database table : String) : StoreConfig :=
  .ofConnection { ConnectionConfig.default with host, database, table := some table }

/-- The configuration of a URL. -/
def ofUrl (url : String) : Except StoreError StoreConfig :=
  (ConnectionConfig.ofUrl url).map .ofConnection

def withTable (c : StoreConfig) (table : String) : StoreConfig :=
  { c with connection := c.connection.forTable table }

def withPoolSize (c : StoreConfig) (min max : Nat) : StoreConfig :=
  { c with pool := { c.pool with minConnections := min, maxConnections := max } }

def withConnectTimeout (c : StoreConfig) (timeout : Duration) : StoreConfig :=
  { c with timeout := { c.timeout with connect := timeout } }

def withQueryTimeout (c : StoreConfig) (timeout : Duration) : StoreConfig :=
  { c with timeout := { c.timeout with query := timeout } }

def toJson (c : StoreConfig) : Json :=
  .ofMembers [("connection", c.connection.toJson), ("pool", c.pool.toJson),
    ("timeout", c.timeout.toJson)]

def decode : Decoder StoreConfig :=
  Fields.record "StoreConfig" <|
    .seq (.seq (.map StoreConfig.mk (.required "connection" ConnectionConfig.decode))
      (.required "pool" PoolConfig.decode)) (.required "timeout" TimeoutConfig.decode)

end StoreConfig

end DocStore

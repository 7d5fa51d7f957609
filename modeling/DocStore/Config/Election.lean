import DocStore.Error
import DocStore.Text.Blank
import DocStore.Time.Duration

/-!
# Election timing

The name a leader is elected for, and the times an elector keeps.
-/

namespace DocStore

/-- What an election is about and how fast it goes. -/
structure ElectionConfig where
  /-- The lock's key is made from this name. -/
  lockName : String
  /-- How long a leader waits between checks that it still holds the lock. -/
  checkInterval : Duration
  /-- How long a candidate that failed waits before it tries again. -/
  retryInterval : Duration
  /-- How long one exchange with the server may take. -/
  checkTimeout : Duration
  deriving DecidableEq, Inhabited

namespace ElectionConfig

def default : ElectionConfig where
  lockName := "bastion_leader"
  checkInterval := .ofSeconds 60
  retryInterval := .ofSeconds 60
  checkTimeout := .ofSeconds 5

/-- A usable configuration has a lock name, and both intervals take time. -/
def validate (c : ElectionConfig) : Except StoreError Unit := do
  if Text.isAllBlank c.lockName then
    .error (.configuration "election lock name is empty")
  if c.checkInterval.isZero || c.retryInterval.isZero then
    .error (.configuration "election intervals must be non-zero")

def toJson (c : ElectionConfig) : Json :=
  .ofMembers [("lock_name", .string c.lockName), ("check_interval", c.checkInterval.toJson),
    ("retry_interval", c.retryInterval.toJson), ("check_timeout", c.checkTimeout.toJson)]

def decode : Decoder ElectionConfig :=
  let named := Fields.map ElectionConfig.mk (.required "lock_name" .string)
  Fields.record "ElectionConfig" <|
    .seq (.seq (.seq named (.required "check_interval" Duration.decode))
      (.required "retry_interval" Duration.decode)) (.required "check_timeout" Duration.decode)

end ElectionConfig

end DocStore

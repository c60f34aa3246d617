import HandlePool.Abort
import HandlePool.Duration
import HandlePool.Removal

/-!
# Configurations

A pool is bounded by a number of entries and an idle time.  A façade has two
pools, one for handles that read and one for handles that write, with one policy
for both.
-/

namespace HandlePool

/-- Something a configuration must not say. -/
inductive ConfigError where
  /-- A pool that may hold nothing. -/
  | zeroCapacity (pool : String)
  /-- A pool whose entries expire at once. -/
  | zeroIdle (pool : String)
  deriving DecidableEq, Repr

/-- The text of a configuration error. -/
def ConfigError.message : ConfigError → String
  | .zeroCapacity pool => pool ++ " cache max size must be at least 1"
  | .zeroIdle pool => pool ++ " cache idle expiration must be non-zero"

/-- The configuration of one pool. -/
structure PoolConfig where
  maxSize : UInt64
  idle : Duration
  policy : ReplacePolicy := .close
  deriving DecidableEq

namespace PoolConfig

/-- A pool must be able to hold an entry, and to keep it for some time. -/
def validate (config : PoolConfig) (pool : String) : Except ConfigError Unit :=
  if config.maxSize = 0 then .error (.zeroCapacity pool)
  else if config.idle.isZero then .error (.zeroIdle pool)
  else .ok ()

/-- The longest idle time a pool can measure: a thousand years of 365 days, in
nanoseconds. -/
def longestIdle : Nat := 365000 * Duration.daySeconds * nanosPerSecond

/-- A pool can be built with this configuration. -/
def isBuildable (config : PoolConfig) : Bool :=
  config.idle.totalNanos ≤ longestIdle

/-- The dump of a configuration. -/
def dump (config : PoolConfig) : String :=
  "HandleCacheConfig \x7b max_size: " ++ toString config.maxSize ++
    ", idle_expiration: " ++ config.idle.dump ++
    ", replace_policy: " ++ config.policy.label ++ " \x7d"

end PoolConfig

/-- The configuration of a façade. -/
structure FacadeConfig where
  readMaxSize : UInt64 := 128
  writeMaxSize : UInt64 := 64
  readIdle : Duration := .ofSeconds 60
  writeIdle : Duration := .ofSeconds 60
  policy : ReplacePolicy := .close
  deriving DecidableEq

namespace FacadeConfig

/-- The configuration of the pool of read handles. -/
def readPool (config : FacadeConfig) : PoolConfig :=
  ⟨config.readMaxSize, config.readIdle, config.policy⟩

/-- The configuration of the pool of write handles. -/
def writePool (config : FacadeConfig) : PoolConfig :=
  ⟨config.writeMaxSize, config.writeIdle, config.policy⟩

/-- Both pools must be valid; the read pool is looked at first. -/
def validate (config : FacadeConfig) : Except ConfigError Unit := do
  config.readPool.validate "read"
  config.writePool.validate "write"

/-- The dump of a configuration. -/
def dump (config : FacadeConfig) : String :=
  "FileSystemConfig \x7b read_cache_max_size: " ++
    toString config.readMaxSize ++
    ", write_cache_max_size: " ++ toString config.writeMaxSize ++
    ", read_idle_expiration: " ++ config.readIdle.dump ++
    ", write_idle_expiration: " ++ config.writeIdle.dump ++
    ", replace_policy: " ++ config.policy.label ++ " \x7d"

end FacadeConfig
end HandlePool

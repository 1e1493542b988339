import Metering.Redis.Retry

/-!
# Settings of the Redis connection

Settings are checked one rule after the other; the first one that is broken is told.
-/

namespace Metering.Redis

/-- How to reach the server; times in milliseconds. -/
structure Settings where
  url : String := "redis://127.0.0.1:6379"
  /-- Commands that may be in flight at once. -/
  poolSize : Nat := 16
  connectionTimeout : Nat := 5000
  commandTimeout : Nat := 1000
  tlsEnabled : Bool := false
  retryPolicy : RetryPolicy := {}

namespace Settings

/-- Most commands in flight that are accepted. -/
def maxPoolSize : Nat := 1000

/-- The first rule that the settings break. Encrypted connections are not available. -/
def fault? (s : Settings) : Option String :=
  if s.url = "" then some "redis.url must not be empty"
  else if s.poolSize = 0 ∨ maxPoolSize < s.poolSize then
    some s!"redis.pool_size must be within 1..={maxPoolSize}, got {s.poolSize}"
  else if s.connectionTimeout = 0 ∨ s.commandTimeout = 0 then
    some "redis timeouts must be greater than 0"
  else if s.tlsEnabled then some "redis.tls_enabled requires the 'redis-tls' feature"
  else if s.url.startsWith "rediss://" then
    some "redis.url must use rediss:// exactly when TLS is enabled"
  else none

end Settings

end Metering.Redis

import Metering.Config.Basic
import Metering.Value

/-!
# Reading and writing configurations

A configuration is a table of sections. A field that is absent takes its default, and a field that is
not known is passed over. `Config.toValue` names every field, so reading it back gives the same
configuration. A section may be given as a list of its fields in order, which may be too long where
`lax` is set.

Variables of the environment override single settings; one that does not fit is passed over.
-/

namespace Metering

open Value

/-- The fields of the backoff between attempts. -/
def Redis.RetryPolicy.fields : List (SectionField Redis.RetryPolicy) := [
  .of "max_retries" (natural 32) fun x s => { s with maxRetries := x },
  .of "initial_delay" (natural 64) fun x s => { s with initialDelay := x },
  .of "max_delay" (natural 64) fun x s => { s with maxDelay := x },
  .of "multiplier" real fun x s => { s with multiplier := x },
  .of "jitter" flag fun x s => { s with jitter := x }]

/-- Reads the backoff between attempts. -/
def Redis.RetryPolicy.ofValue (lax : Bool) : Value → Except Mismatch Redis.RetryPolicy :=
  readSection "struct RetryPolicy" fields lax {}

/-- The backoff as a value. -/
def Redis.RetryPolicy.toValue (p : Redis.RetryPolicy) : Value :=
  .table [
    ("max_retries", .integer p.maxRetries), ("initial_delay", .integer p.initialDelay),
    ("max_delay", .integer p.maxDelay), ("multiplier", .float p.multiplier),
    ("jitter", .bool p.jitter)]

/-- The fields of the settings of the Redis connection. -/
def Redis.Settings.fields (lax : Bool) : List (SectionField Redis.Settings) := [
  .of "url" string fun x s => { s with url := x },
  .of "pool_size" (natural 32) fun x s => { s with poolSize := x },
  .of "connection_timeout" (natural 64) fun x s => { s with connectionTimeout := x },
  .of "command_timeout" (natural 64) fun x s => { s with commandTimeout := x },
  .of "tls_enabled" flag fun x s => { s with tlsEnabled := x },
  .of "retry_policy" (RetryPolicy.ofValue lax) fun x s => { s with retryPolicy := x }]

/-- Reads the settings of the Redis connection. -/
def Redis.Settings.ofValue (lax : Bool) : Value → Except Mismatch Redis.Settings :=
  readSection "struct RedisConfig" (fields lax) lax {}

/-- The settings of the Redis connection as a value. -/
def Redis.Settings.toValue (s : Redis.Settings) : Value :=
  .table [
    ("url", .text s.url), ("pool_size", .integer s.poolSize),
    ("connection_timeout", .integer s.connectionTimeout),
    ("command_timeout", .integer s.commandTimeout), ("tls_enabled", .bool s.tlsEnabled),
    ("retry_policy", s.retryPolicy.toValue)]

namespace Config

/-- The fields of the hot section. -/
def Hot.fields : List (SectionField Hot) := [
  .of "key_prefix" string fun x s => { s with keyPrefix := x },
  .of "retention_hours" (natural 64) fun x s => { s with retentionHours := x },
  .of "ttl_grace_secs" (natural 64) fun x s => { s with ttlGraceSecs := x },
  .of "zone_offset_minutes" (signed 32) fun x s => { s with zoneOffsetMinutes := x }]

/-- Reads the hot section. -/
def Hot.ofValue (lax : Bool) : Value → Except Mismatch Hot :=
  readSection "struct HotConfig" fields lax {}

/-- The hot section as a value. -/
def Hot.toValue (c : Hot) : Value :=
  .table [
    ("key_prefix", .text c.keyPrefix), ("retention_hours", .integer c.retentionHours),
    ("ttl_grace_secs", .integer c.ttlGraceSecs),
    ("zone_offset_minutes", .integer c.zoneOffsetMinutes)]

/-- The fields of the compaction section. -/
def Compaction.fields : List (SectionField Compaction) := [
  .of "enabled" flag fun x s => { s with enabled := x },
  .of "interval_secs" (natural 64) fun x s => { s with intervalSecs := x },
  .of "max_keys_per_cycle" Value.size fun x s => { s with maxKeysPerCycle := x },
  .of "snapshot_batch" Value.size fun x s => { s with snapshotBatch := x },
  .of "concurrency" Value.size fun x s => { s with concurrency := x },
  .of "failure_warn_threshold" (natural 32) fun x s => { s with failureWarnThreshold := x },
  .of "trim_expired_buckets" flag fun x s => { s with trimExpiredBuckets := x }]

/-- Reads the compaction section. -/
def Compaction.ofValue (lax : Bool) : Value → Except Mismatch Compaction :=
  readSection "struct CompactionConfig" fields lax {}

/-- The compaction section as a value. -/
def Compaction.toValue (c : Compaction) : Value :=
  .table [
    ("enabled", .bool c.enabled), ("interval_secs", .integer c.intervalSecs),
    ("max_keys_per_cycle", .integer c.maxKeysPerCycle),
    ("snapshot_batch", .integer c.snapshotBatch), ("concurrency", .integer c.concurrency),
    ("failure_warn_threshold", .integer c.failureWarnThreshold),
    ("trim_expired_buckets", .bool c.trimExpiredBuckets)]

/-- The fields of the query section. -/
def Query.fields : List (SectionField Query) := [
  .of "max_page_size" Value.size fun x s => { s with maxPageSize := x },
  .of "row_cap" Value.size fun x s => { s with rowCap := x },
  .of "hot_read_concurrency" Value.size fun x s => { s with hotReadConcurrency := x }]

/-- Reads the query section. -/
def Query.ofValue (lax : Bool) : Value → Except Mismatch Query :=
  readSection "struct QueryConfig" fields lax {}

/-- The query section as a value. -/
def Query.toValue (c : Query) : Value :=
  .table [
    ("max_page_size", .integer c.maxPageSize), ("row_cap", .integer c.rowCap),
    ("hot_read_concurrency", .integer c.hotReadConcurrency)]

/-- The fields of the state section. -/
def State.fields : List (SectionField State) := [
  .of "quota_ttl_secs" (natural 64) fun x s => { s with quotaTtlSecs := x },
  .of "alert_ttl_secs" (natural 64) fun x s => { s with alertTtlSecs := x },
  .of "alert_thresholds" (listOf (natural 8)) fun x s => { s with alertThresholds := x }]

/-- Reads the state section. -/
def State.ofValue (lax : Bool) : Value → Except Mismatch State :=
  readSection "struct StateConfig" fields lax {}

/-- The state section as a value. -/
def State.toValue (c : State) : Value :=
  .table [
    ("quota_ttl_secs", .integer c.quotaTtlSecs), ("alert_ttl_secs", .integer c.alertTtlSecs),
    ("alert_thresholds", .list (c.alertThresholds.map fun level => .integer (Int.ofNat level)))]

/-- The fields of the logging section. -/
def Logging.fields : List (SectionField Logging) := [
  .of "level" string fun x s => { s with level := x },
  .of "json" flag fun x s => { s with json := x }]

/-- Reads the logging section. -/
def Logging.ofValue (lax : Bool) : Value → Except Mismatch Logging :=
  readSection "struct LoggingConfig" fields lax {}

/-- The logging section as a value. -/
def Logging.toValue (c : Logging) : Value :=
  .table [("level", .text c.level), ("json", .bool c.json)]

/-- The sections of a configuration. -/
def fields (lax : Bool) : List (SectionField Config) := [
  .of "redis" (Redis.Settings.ofValue lax) fun x c => { c with redis := x },
  .of "hot" (Hot.ofValue lax) fun x c => { c with hot := x },
  .of "compaction" (Compaction.ofValue lax) fun x c => { c with compaction := x },
  .of "query" (Query.ofValue lax) fun x c => { c with query := x },
  .of "state" (State.ofValue lax) fun x c => { c with state := x },
  .of "logging" (Logging.ofValue lax) fun x c => { c with logging := x }]

/-- Reads a configuration. -/
def ofValue (lax : Bool) : Value → Except Mismatch Config :=
  readSection "struct LedgerConfig" (fields lax) lax {}

/-- A configuration as a value. -/
def toValue (c : Config) : Value :=
  .table [
    ("redis", c.redis.toValue), ("hot", c.hot.toValue), ("compaction", c.compaction.toValue),
    ("query", c.query.toValue), ("state", c.state.toValue), ("logging", c.logging.toValue)]

/-! ## Environment -/

/-- Reads a flag as a variable holds it. -/
def parseFlag (text : String) : Option Bool :=
  if text = "true" then some true else if text = "false" then some false else none

/-- The configuration with the settings that variables of the environment give. -/
def override (c : Config) (setting? : String → Option String) : Config :=
  let number (bits : Nat) (name : String) (standard : Nat) : Nat :=
    ((setting? name).bind (Decimal.unsigned? (Nat.pow 2 bits - 1))).getD standard
  { c with
    redis := { c.redis with
      url := (setting? "LEDGER_REDIS_URL").getD c.redis.url
      poolSize := number 32 "LEDGER_REDIS_POOL_SIZE" c.redis.poolSize }
    hot := { c.hot with
      keyPrefix := (setting? "LEDGER_KEY_PREFIX").getD c.hot.keyPrefix
      retentionHours := number 64 "LEDGER_RETENTION_HOURS" c.hot.retentionHours
      zoneOffsetMinutes := ((setting? "LEDGER_ZONE_OFFSET_MINUTES").bind
        (Decimal.signed? (-0x80000000) 0x7fffffff)).getD c.hot.zoneOffsetMinutes }
    compaction := { c.compaction with
      intervalSecs := number 64 "LEDGER_COMPACTION_INTERVAL_SECS" c.compaction.intervalSecs
      concurrency := number 64 "LEDGER_COMPACTION_CONCURRENCY" c.compaction.concurrency }
    logging := {
      level := (setting? "LEDGER_LOG_LEVEL").getD c.logging.level
      json := ((setting? "LEDGER_LOG_JSON").bind parseFlag).getD c.logging.json } }

end Config

end Metering

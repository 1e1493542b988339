import Metering.Cold.Store
import Metering.Redis.Settings
import Metering.Text.Blank
import Metering.Time.Zone

/-!
# Configuration

The settings of a ledger in sections, each with a default. A configuration is checked one rule after
the other, and the first broken rule is told. The rule that ties two sections together is that a
record outlives the retention window by more than the time between two compaction cycles.
-/

namespace Metering

namespace Config

/-- The hot tier. -/
structure Hot where
  keyPrefix : String := "traffic"
  /-- Hours that are served from the hot tier. -/
  retentionHours : Nat := 24
  /-- Seconds that a record lives beyond the retention window. -/
  ttlGraceSecs : Nat := 3600
  /-- Business zone, in minutes east of UTC. -/
  zoneOffsetMinutes : Int := Zone.defaultMinutes

/-- The compaction of the hot tier. -/
structure Compaction where
  enabled : Bool := true
  /-- Seconds between two cycles. -/
  intervalSecs : Nat := 60
  maxKeysPerCycle : Nat := 10000
  /-- Keys that are read at a time. -/
  snapshotBatch : Nat := 256
  /-- Keys that are flushed at a time. -/
  concurrency : Nat := 16
  /-- Failures in a row from which on a key counts as failing. -/
  failureWarnThreshold : Nat := 5
  /-- Drain the buckets that left the retention window. -/
  trimExpiredBuckets : Bool := true

/-- Limits of queries. -/
structure Query where
  maxPageSize : Nat := 1000
  rowCap : Nat := Cold.defaultRowCap
  /-- Hot buckets that are read at a time. -/
  hotReadConcurrency : Nat := 8

/-- Quotas and alerts. -/
structure State where
  quotaTtlSecs : Nat := 31 * 86400
  alertTtlSecs : Nat := 31 * 86400
  /-- Percentages that raise an alert. -/
  alertThresholds : List Nat := [80, 90, 100]

/-- Logging. -/
structure Logging where
  level : String := "info"
  json : Bool := false

end Config

/-- The configuration of a ledger. -/
structure Config where
  redis : Redis.Settings := {}
  hot : Config.Hot := {}
  compaction : Config.Compaction := {}
  query : Config.Query := {}
  state : Config.State := {}
  logging : Config.Logging := {}

/-- Each element is less than the next one. -/
def isAscending : List Nat → Bool
  | a :: b :: rest => a < b && isAscending (b :: rest)
  | _ => true

namespace Config

/-- Seconds that are served from the hot tier. -/
def Hot.retentionSecs (c : Hot) : Nat := c.retentionHours * 3600

/-- Seconds that a record lives after a write. -/
def Hot.recordTtlSecs (c : Hot) : Nat := c.retentionSecs + c.ttlGraceSecs

/-- The first rule that the hot section breaks. -/
def Hot.fault? (c : Hot) : Option String :=
  if c.keyPrefix = "" then some "Key prefix cannot be empty"
  else if c.keyPrefix.toList.any isBlank then some "Key prefix cannot contain whitespace"
  else if c.retentionHours = 0 then some "Retention must be at least one hour"
  else if 24 * 60 ≤ c.zoneOffsetMinutes.natAbs then some "Zone offset must be within +/-24h"
  else none

/-- The first rule that the compaction section breaks, next to the hot section. -/
def Compaction.fault? (c : Compaction) (hot : Hot) : Option String :=
  if c.intervalSecs = 0 then some "Compaction interval must be > 0"
  else if hot.ttlGraceSecs ≤ c.intervalSecs then
    some (s!"TTL grace ({hot.ttlGraceSecs}s) must exceed the compaction interval " ++
      s!"({c.intervalSecs}s)")
  else if c.maxKeysPerCycle = 0 then some "Max keys per cycle must be > 0"
  else if c.snapshotBatch = 0 then some "Snapshot batch must be > 0"
  else if c.concurrency = 0 then some "Compaction concurrency must be > 0"
  else none

/-- The first rule that the query section breaks. -/
def Query.fault? (c : Query) : Option String :=
  if c.maxPageSize = 0 then some "Max page size must be > 0"
  else if c.rowCap = 0 then some "Row cap must be > 0"
  else if c.hotReadConcurrency = 0 then some "Hot read concurrency must be > 0"
  else none

/-- The first rule that the state section breaks. -/
def State.fault? (c : State) : Option String :=
  if c.quotaTtlSecs = 0 ∨ c.alertTtlSecs = 0 then some "State TTLs must be > 0"
  else if c.alertThresholds = [] then some "At least one alert threshold is required"
  else if !isAscending c.alertThresholds then some "Alert thresholds must be strictly ascending"
  else if c.alertThresholds.head? = some 0 then some "Alert thresholds must be > 0"
  else none

/-- The first rule that a configuration breaks. -/
def fault? (c : Config) : Option String :=
  c.redis.fault? <|> c.hot.fault? <|> c.compaction.fault? c.hot <|> c.query.fault? <|>
    c.state.fault?

end Config

end Metering

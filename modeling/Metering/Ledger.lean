import Metering.Alert
import Metering.Compaction.Cycle
import Metering.Query

/-!
# The ledger

Traffic is counted in the hot tier under the current hour, reported over both tiers, and removed or
seeded resource by resource. Traffic of the type `subscription` also counts against the quota of its
subscription; that the quota could not be updated never fails a write.
-/

namespace Metering

/-- What the parts of a ledger need to know. -/
structure Ledger where
  config : Config
  zone : Zone
  compaction : Compaction.Settings
  query : Query.Settings
  quota : Quota.Settings
  alert : Alert.Settings

namespace Ledger

open Procedure

/-- Nanoseconds in an hour. -/
def hourSpan : Int := 3600 * Instant.nanosPerSecond

/-- Life span of a hot record, given as it was asked for. -/
def hotLifespan (span : Int) : Int := Side.boundedSpan span (49 * hourSpan)

/-- The ledger of a configuration, if there is a cold store. -/
def build (config : Config) (hasColdStore : Bool) (resolver : Resolver) : Except Error Ledger := do
  if let some text := config.fault? then throw (.misconfigured (.setting text))
  if !hasColdStore then throw (.misconfigured .noColdStore)
  let zone ← Zone.ofMinutes config.hot.zoneOffsetMinutes
  let retention := Side.boundedSpan (config.hot.retentionSecs * Instant.nanosPerSecond)
    (24 * hourSpan)
  let alert ← Alert.Settings.of config.hot.keyPrefix config.state.alertThresholds
    (config.state.alertTtlSecs * Instant.nanosPerSecond)
  return {
    config, zone, alert
    compaction := ⟨zone, retention, config.compaction⟩
    query := ⟨zone, retention, config.query, resolver⟩
    quota := ⟨config.hot.keyPrefix, config.state.quotaTtlSecs * Instant.nanosPerSecond⟩ }

/-- An empty hot store for a ledger. -/
def emptyHotStore (l : Ledger) : Hot.Store :=
  { lifespan := hotLifespan (l.config.hot.recordTtlSecs * Instant.nanosPerSecond) }

/-- Key of a resource in the current bucket. -/
def currentKey (l : Ledger) (subscription : Id) (tag : String) (resource : Id) :
    Procedure (Except Rejection Key) := do
  return Key.ofTag (l.zone.bucketOf (← now)) subscription tag resource

/-! ## Writing -/

/-- Counts the traffic of a subscription against its quota. -/
def feedQuota (l : Ledger) (key : Key) (traffic : Traffic) : Procedure Unit := do
  if traffic.isZero ∨ key.type ≠ .subscription then return
  match ← (Quota.recordUsage l.quota key.subscription traffic).run with
  | .ok _ => return
  | .error _ => record (.failure "state" "record_usage")

/-- Counts the traffic of a resource in the current bucket. -/
def increment (l : Ledger) (subscription : Id) (tag : String) (resource : Id) (traffic : Traffic) :
    Task Unit := .mk do
  match ← l.currentKey subscription tag resource with
  | .error why =>
    record (.failure "validation" "increment")
    return .error (.rejected why)
  | .ok key =>
    let result ← hot (.increment key traffic)
    record (.increment traffic (result matches .ok _))
    match result with
    | .error e =>
      record (.failure "hot_tier" "increment")
      return .error e
    | .ok _ =>
      l.feedQuota key traffic
      return .ok ()

/-- Traffic to be counted. -/
structure Entry where
  subscription : Id
  tag : String
  resource : Id
  traffic : Traffic

/-- The key of an entry in a bucket, with its traffic. -/
def Entry.keyed (e : Entry) (bucket : Bucket) : Except Rejection (Key × Traffic) := do
  return (← Key.ofTag bucket e.subscription e.tag e.resource, e.traffic)

/-- Counts the traffic of many resources at once, or of none if one of them is not acceptable; tells
how many had any. -/
def incrementAll (l : Ledger) (entries : List Entry) : Task Nat := .mk do
  let bucket := l.zone.bucketOf (← now)
  match entries.mapM (·.keyed bucket) with
  | .error why =>
    record (.failure "validation" "batch_increment")
    return .error (.rejected why)
  | .ok keyed =>
    let writes := keyed.filter fun write => !write.2.isZero
    if writes.isEmpty then return .ok 0
    match ← hot (.incrementAll writes) with
    | .error e =>
      record (.failure "hot_tier" "batch_increment")
      writes.forM fun write => record (.increment write.2 false)
      return .error e
    | .ok _ =>
      writes.forM fun write => do
        record (.increment write.2 true)
        l.feedQuota write.1 write.2
      return .ok writes.length

/-! ## Reading -/

/-- The filter that a tag stands for. -/
def parseFilter (tag? : Option String) : Task (Option ResourceType) :=
  match tag? with
  | none => pure none
  | some tag => some <$> Task.check (ResourceType.parse tag)

/-- Everything in a window. -/
def total (l : Ledger) (tag? : Option String) (window : Window) : Task (Answer Traffic) := do
  Query.total l.query (← parseFilter tag?) window

/-- One page of the ranked groups. -/
def grouped (l : Ledger) (dimension : Dimension) (tag? : Option String) (window : Window)
    (page : Page) : Task (Answer GroupPage) := do
  Query.grouped l.query dimension (← parseFilter tag?) window page

/-- The largest groups. -/
def top (l : Ledger) (dimension : Dimension) (tag? : Option String) (window : Window)
    (count : Nat) : Task (Answer (List GroupRow)) := do
  Query.top l.query dimension (← parseFilter tag?) window count

/-- Traffic per period. -/
def trend (l : Ledger) (tag? : Option String) (window : Window) (g : Granularity) :
    Task (Answer (List (Moment × Traffic))) := do
  Query.trend l.query (← parseFilter tag?) window g

/-- What a dashboard shows. -/
structure Overview where
  total : Traffic := 0
  topSubscriptions : List GroupRow := []
  topResources : List GroupRow := []
  trend : List (Moment × Traffic) := []
  warnings : List Warning := []

/-- A query whose answer is put into an overview, with its warnings behind those before. -/
def part {α : Type} (query : Task (Answer α)) (put : α → Overview → Overview) :
    Procedure (Except Error (Overview → Overview)) := do
  return (← query.run).map fun answer o =>
    let o := put answer.value o
    { o with warnings := o.warnings ++ answer.warnings }

/-- Total, largest subscriptions, largest resources and hourly trend of a window, queried side by side
up to the first failure. -/
def overview (l : Ledger) (window : Window) (count : Nat) : Task Overview := .mk do
  let fills ← Program.untilFailure [
    part (Query.total l.query none window) fun x o => { o with total := x },
    part (Query.top l.query .subscription none window count) fun x o =>
      { o with topSubscriptions := x },
    part (Query.top l.query .resource none window count) fun x o => { o with topResources := x },
    part (Query.trend l.query none window .hour) fun x o => { o with trend := x }]
  return fills.map fun fills =>
    let o := fills.foldl (fun o fill => fill o) {}
    { o with warnings := o.warnings.eraseDups }

/-! ## Resources -/

/-- Removes one key from the hot tier; tells whether there was a record. -/
def cleanup (memory : Compactor) (key : Key) : Procedure (Compactor × Except Error Bool) := do
  match ← hot (.forget key) with
  | .ok removed => return (memory.forget key, .ok removed)
  | .error e => return (memory, .error e)

/-- Removes a resource from some buckets; tells how many records there were. -/
def cleanupBuckets (current : Key) :
    List Bucket → Nat → Compactor → Procedure (Compactor × Except Error Nat)
  | [], removed, memory => return (memory, .ok removed)
  | bucket :: rest, removed, memory => do
    match ← cleanup memory (current.inBucket bucket) with
    | (memory, .ok gone) => cleanupBuckets current rest (removed + gone.toNat) memory
    | (memory, .error e) => return (memory, .error e)

/-- Removes a resource from every bucket; tells how many records there were. -/
def cleanupEverywhere (l : Ledger) (memory : Compactor) (subscription : Id) (tag : String)
    (resource : Id) : Procedure (Compactor × Except Error Nat) := do
  match ← l.currentKey subscription tag resource with
  | .error why => return (memory, .error (.rejected why))
  | .ok current =>
    match ← hot .activeBuckets with
    | .error e => return (memory, .error e)
    | .ok buckets => cleanupBuckets current buckets 0 memory

/-! ## Quotas -/

/-- Raises an alert if a subscription with a known quota has reached a new threshold. -/
def checkQuota (l : Ledger) (subscription : Id) : Task (Option Alert.Notice) := do
  match ← Quota.status l.quota subscription with
  | some status => Alert.evaluate l.alert subscription status
  | none => return none

/-- Starts a new cycle of a subscription's quota. -/
def resetQuota (l : Ledger) (subscription : Id) : Task Unit := do
  let _ ← Quota.reset l.quota subscription
  let _ ← Alert.reset l.alert subscription

end Ledger

end Metering

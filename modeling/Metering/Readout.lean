import Metering.Config.Reader
import Metering.Group.Reader
import Metering.Ledger
import Metering.Service.Status

/-!
# Readouts

Results as values, ready to be written in a data format. Counts are whole numbers, buckets and keys
stand as their texts, and what is absent is null. Hot records are listed in the order of their keys.
-/

namespace Metering

namespace Value

/-- A count. -/
def ofNat (n : Nat) : Value := .integer n

/-- Something that may be absent. -/
def orNull {α : Type} (f : α → Value) : Option α → Value
  | some a => f a
  | none => .null

end Value

open Value (ofNat orNull)

/-! ## Time and keys -/

/-- A bucket with its bounds, its neighbours and the starts of its periods. -/
def Bucket.toValue (b : Bucket) : Value :=
  .table [("label", .text b.label), ("display", .text b.label), ("start", .text b.moment.text),
    ("start_utc", .integer b.startSeconds), ("end_utc", .integer b.stop.seconds),
    ("score", .integer b.score), ("next", .text b.next.label), ("prev", .text b.prev.label),
    ("hour", .text (b.periodStart .hour).text), ("day", .text (b.periodStart .day).text),
    ("month", .text (b.periodStart .month).text)]

/-- The first bucket, the bucket after the last, and the number of buckets. -/
def BucketRange.toValue (r : BucketRange) : Value :=
  .list [.text r.start.label, .text r.stop.label, ofNat r.length]

/-- A key with its parts. -/
def Key.toValue (k : Key) : Value :=
  .table [("encoded", .text k.encode), ("display", .text k.encode),
    ("bucket", .text k.bucket.label), ("bucket_utc", .integer k.bucket.startSeconds),
    ("sub", ofNat k.subscription.toNat), ("type", .text k.type.tag),
    ("variant", .text k.type.variant), ("id", ofNat k.resource.toNat)]

/-! ## Traffic -/

/-- Both directions. -/
def Traffic.toValue (t : Traffic) : Value :=
  .table [("upload", ofNat t.upload.toNat), ("download", ofNat t.download.toNat)]

/-- A record as its key, its counters and its markers. -/
def Hot.Record.toValue (r : Record) : Value :=
  .list [.text r.key.encode, ofNat r.traffic.upload.toNat, ofNat r.traffic.download.toNat,
    ofNat r.flushed.upload.toNat, ofNat r.flushed.download.toNat]

/-- Records in the order of their keys. -/
def Hot.Record.listed (records : List Record) : Value :=
  .list ((records.mergeSort fun a b => (compare a.key b.key).isLE).map toValue)

/-- A part of the cold tier, and whether it was cut at a row cap. -/
def Cold.Capped.toValue {α : Type} (f : α → Value) (c : Capped α) : Value :=
  .table [("value", f c.value), ("total_rows", ofNat c.totalRows), ("truncated", .bool c.isTruncated)]

/-- Sums by the texts of their groups. -/
def Cold.sumsToValue (sums : List (Group × Traffic)) : Value :=
  .list (sums.map fun (group, traffic) =>
    .list [.text group.text, ofNat traffic.upload.toNat, ofNat traffic.download.toNat])

/-- What of a record is not yet in the cold tier. -/
def Hot.Record.balance (r : Record) : Value :=
  .table [("traffic", r.traffic.toValue), ("flushed", r.flushed.toValue),
    ("pending", r.pending.toValue), ("counter_reset", .bool r.isReset)]

/-! ## Compaction -/

namespace Compaction

/-- The counts of a cycle. -/
def Report.toValue (r : Report) : Value :=
  .table [("scanned", ofNat r.scanned), ("flushed", ofNat r.flushed), ("settled", ofNat r.settled),
    ("purged", ofNat r.purged), ("busy", ofNat r.busy), ("missing", ofNat r.missing),
    ("counter_resets", ofNat r.counterResets), ("resources_gone", ofNat r.resourcesGone),
    ("failed", ofNat r.failed), ("skipped", ofNat r.skipped),
    ("bytes_flushed", r.bytesFlushed.toValue), ("cancelled", .bool r.isCancelled)]

/-- The counts of all cycles and the last report. -/
def Stats.toValue (s : Stats) : Value :=
  .table [("completed", ofNat s.completed), ("failed", ofNat s.failed),
    ("cancelled", ofNat s.cancelled), ("keys_flushed", ofNat s.keysFlushed),
    ("key_failures", ofNat s.keyFailures), ("bytes_flushed", s.bytesFlushed.toValue),
    ("last", orNull Report.toValue s.last)]

/-- The counts of a drained bucket. -/
def DrainReport.toValue (r : DrainReport) : Value :=
  .table [("records", ofNat r.records), ("flushed", ofNat r.flushed),
    ("restored", ofNat r.restored), ("resources_gone", ofNat r.resourcesGone),
    ("lost", ofNat r.lost), ("bytes_flushed", r.bytesFlushed.toValue)]

end Compaction

/-! ## Queries -/

/-- A warning under its name. -/
def Warning.toValue : Warning → Value
  | hotDegraded failedBuckets =>
    .table [("HotTierDegraded", .table [("failed_buckets", ofNat failedBuckets)])]
  | rowCapExceeded totalRows cap =>
    .table [("RowCapExceeded", .table [("total_rows", ofNat totalRows), ("cap", ofNat cap)])]

/-- The parts of a range. -/
def SplitRange.toValue (s : SplitRange) : Value :=
  .table [("cold", orNull BucketRange.toValue s.cold), ("hot", orNull BucketRange.toValue s.hot)]

/-- An answer with what it may lack. -/
def Answer.toValue {α : Type} (f : α → Value) (a : Answer α) : Value :=
  .table [("value", f a.value), ("warnings", .list (a.warnings.map Warning.toValue)),
    ("degraded", .bool a.isDegraded)]

/-- Rows of a report. -/
def GroupRow.listed (rows : List GroupRow) : Value :=
  .list (rows.map fun row => .table [("key", row.group.toValue), ("name", .text row.name),
    ("traffic", row.traffic.toValue)])

/-- A page of a report. -/
def GroupPage.toValue (p : GroupPage) : Value :=
  .table [("rows", GroupRow.listed p.rows), ("total_groups", ofNat p.totalGroups),
    ("page", ofNat p.page), ("page_size", ofNat p.pageSize)]

/-- Periods of a trend. -/
def Query.trendToValue (points : List (Moment × Traffic)) : Value :=
  .list (points.map fun (period, traffic) =>
    .table [("period", .text period.shortText), ("traffic", traffic.toValue)])

/-- What a dashboard shows. -/
def Ledger.Overview.toValue (o : Overview) : Value :=
  .table [("total", o.total.toValue), ("top_subscriptions", GroupRow.listed o.topSubscriptions),
    ("top_resources", GroupRow.listed o.topResources), ("trend", Query.trendToValue o.trend),
    ("warnings", .list (o.warnings.map Warning.toValue))]

/-! ## Quotas, settings and services -/

/-- A quota and what follows from it. -/
def Quota.Status.toValue (s : Status) : Value :=
  .table [("limit", orNull (fun limit => ofNat limit.toNat) s.limit), ("used", s.used.toValue),
    ("percent", orNull ofNat s.percent), ("exceeded", .bool s.exceeded),
    ("remaining", orNull (fun left => ofNat left.toNat) s.remaining)]

/-- An alert. -/
def Alert.Notice.toValue (n : Notice) : Value :=
  .table [("sub", ofNat n.subscription.toNat), ("level", ofNat n.level.toNat),
    ("previous", orNull (fun level : Level => ofNat level.toNat) n.previous),
    ("used", n.used.toValue), ("limit", ofNat n.limit.toNat),
    ("exhausted", .bool (isExhausted n.level))]

/-- A configuration, what is wrong with it, and the spans that follow from it. -/
def Config.summary (c : Config) : Value :=
  .table [("config", c.toValue), ("valid", orNull .text c.fault?),
    ("retention_secs", ofNat c.hot.retentionSecs), ("record_ttl_secs", ofNat c.hot.recordTtlSecs),
    ("interval_secs", ofNat c.compaction.intervalSecs),
    ("quota_ttl_secs", ofNat c.state.quotaTtlSecs), ("alert_ttl_secs", ofNat c.state.alertTtlSecs)]

/-- The state of a service; a failure with its reason. -/
def Service.Status.toValue : Status → Value
  | starting => .text "Starting"
  | running => .text "Running"
  | stopping => .text "Stopping"
  | stopped => .text "Stopped"
  | failed why => .table [("Failed", .text why)]

end Metering

import Metering.Hot.Record

/-!
# Reports of compaction

What happened to each key of a cycle and to each record of a drained bucket, counted. A cycle's
report is the count of its outcomes, and the statistics add up the reports.
-/

namespace Metering

namespace Compaction

/-- What happened to one key in a cycle. -/
inductive Outcome
  /-- The pending traffic was written and the markers were committed. -/
  | flushed (traffic : Traffic) (commit : Hot.Commit)
  /-- Nothing was pending; the key is no longer active. -/
  | settled
  /-- Nothing was pending; the key is no longer active and its record is gone. -/
  | purged
  /-- Traffic arrived after the snapshot; the key stays active. -/
  | busy
  /-- There was no record. -/
  | missing
  /-- The counter was below its markers, which were set to it. -/
  | rebased
  /-- The cold tier no longer knows the resource; the key was removed. -/
  | resourceGone
  /-- A call failed; the key stays active. -/
  | failed
  /-- The cycle was cancelled before the key's turn. -/
  | cancelled
deriving DecidableEq

/-- Word for an outcome. -/
def Outcome.label : Outcome → String
  | flushed .. => "flushed"
  | settled => "settled"
  | purged => "purged"
  | busy => "busy"
  | missing => "missing"
  | rebased => "rebased"
  | resourceGone => "resource_gone"
  | failed => "failed"
  | cancelled => "cancelled"

/-- Counts of a cycle. -/
structure Report where
  scanned : Nat := 0
  flushed : Nat := 0
  settled : Nat := 0
  purged : Nat := 0
  busy : Nat := 0
  missing : Nat := 0
  counterResets : Nat := 0
  resourcesGone : Nat := 0
  failed : Nat := 0
  skipped : Nat := 0
  bytesFlushed : Traffic := 0
  isCancelled : Bool := false
deriving DecidableEq, Inhabited

namespace Report

/-- Counts one outcome. -/
def count (r : Report) : Outcome → Report
  | .flushed traffic commit =>
    { r with
      flushed := r.flushed + 1
      bytesFlushed := r.bytesFlushed + traffic
      busy := if commit = .retained then r.busy + 1 else r.busy }
  | .settled => { r with settled := r.settled + 1 }
  | .purged => { r with settled := r.settled + 1, purged := r.purged + 1 }
  | .busy => { r with busy := r.busy + 1 }
  | .missing => { r with missing := r.missing + 1 }
  | .rebased => { r with counterResets := r.counterResets + 1 }
  | .resourceGone => { r with resourcesGone := r.resourcesGone + 1 }
  | .failed => { r with failed := r.failed + 1 }
  | .cancelled => { r with skipped := r.skipped + 1, isCancelled := true }

/-- Counts keys that a cancelled cycle did not read. -/
def skip (r : Report) (keys : Nat) : Report :=
  { r with skipped := r.skipped + keys, isCancelled := true }

end Report

/-- Counts of all cycles. -/
structure Stats where
  completed : Nat := 0
  failed : Nat := 0
  cancelled : Nat := 0
  keysFlushed : Nat := 0
  keyFailures : Nat := 0
  bytesFlushed : Traffic := 0
  last : Option Report := none
deriving DecidableEq, Inhabited

/-- Adds the end of a cycle. -/
def Stats.add {ε : Type} (s : Stats) : Except ε Report → Stats
  | .ok r =>
    { s with
      completed := if r.isCancelled then s.completed else s.completed + 1
      cancelled := if r.isCancelled then s.cancelled + 1 else s.cancelled
      keysFlushed := s.keysFlushed + r.flushed
      keyFailures := s.keyFailures + r.failed
      bytesFlushed := s.bytesFlushed + r.bytesFlushed
      last := some r }
  | .error _ => { s with failed := s.failed + 1 }

/-- What happened to one pending record of a drained bucket. -/
inductive DrainOutcome
  | flushed
  /-- The write failed; the traffic was counted in the hot tier again. -/
  | restored
  | resourceGone
  /-- The write and the restoring increment failed. -/
  | lost
deriving DecidableEq

/-- Counts of a drained bucket. -/
structure DrainReport where
  records : Nat := 0
  flushed : Nat := 0
  restored : Nat := 0
  resourcesGone : Nat := 0
  lost : Nat := 0
  bytesFlushed : Traffic := 0
deriving DecidableEq, Inhabited

/-- Counts one outcome. -/
def DrainReport.count (r : DrainReport) (pending : Traffic) : DrainOutcome → DrainReport
  | .flushed =>
    { r with flushed := r.flushed + 1, bytesFlushed := r.bytesFlushed + pending }
  | .restored => { r with restored := r.restored + 1 }
  | .resourceGone => { r with resourcesGone := r.resourcesGone + 1 }
  | .lost => { r with lost := r.lost + 1 }

end Compaction

end Metering

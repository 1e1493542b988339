import Metering.Compaction.Streaks
import Metering.Config.Basic
import Metering.Request

/-!
# Compaction

A cycle moves pending traffic from the hot to the cold tier. It reads the active keys and their
records in batches. For each key it writes what is pending to the key's row and then commits the
counter that it read as the new markers; the key stays active if more has arrived since. A key
without pending traffic leaves the active index, and its record is deleted if its bucket is older
than the retention window. A failed call leaves the key active for the next cycle.

A cancelled cycle skips the batches that are still to be read, also the one it is just waiting for.
Between the write and the commit nothing is asked about cancellation, so a key whose write was begun
always gets its commit. A drain empties one bucket as a whole, and counts again in the hot tier what
it could not write.
-/

namespace Metering

namespace Compaction

open Procedure

/-- What a compactor needs to know. -/
structure Settings where
  zone : Zone
  /-- Length of the retention window in nanoseconds. -/
  retention : Int
  config : Config.Compaction

/-- The first bucket inside the retention window at `now`. -/
def Settings.boundaryAt (c : Settings) (now : Instant) : Bucket :=
  c.zone.bucketOf (now.addNanos (-c.retention))

/-- The first bucket inside the retention window. -/
def Settings.boundary (c : Settings) : Procedure Bucket := do
  return c.boundaryAt (← now)

/-! ## One key -/

/-- Takes an active key without a record out of the active index. -/
def settleMissing (key : Key) : Procedure Outcome := do
  match ← hot (.settle key false) with
  | .ok _ => return .missing
  | .error _ => return .failed

/-- Takes a key without pending traffic out of the active index, and an old one out of the store. -/
def settleIdle (key : Key) (boundary : Bucket) : Procedure Outcome := do
  let purge : Bool := key.bucket < boundary
  match ← hot (.settle key purge) with
  | .ok true => return if purge then .purged else .settled
  | .ok false => return .busy
  | .error _ => return .failed

/-- Sets the markers of a counter that was reset. -/
def rebase (key : Key) (observed : Traffic) : Procedure Outcome := do
  match ← hot (.commit key observed observed) with
  | .ok _ => return .rebased
  | .error _ => return .failed

/-- Removes a key whose resource is gone. -/
def purgeGone (key : Key) : Procedure Outcome := do
  match ← hot (.forget key) with
  | .ok _ => return .resourceGone
  | .error _ => return .failed

/-- Commits what was observed, after its pending part has been written. -/
def commitFlushed (key : Key) (observed pending : Traffic) (boundary : Bucket) :
    Procedure Outcome := do
  match ← hot (.commit key observed observed) with
  | .ok commit =>
    if commit = .settled ∧ key.bucket < boundary then
      let _ ← hot (.settle key true)
    return .flushed pending commit
  | .error _ => return .failed

/-- Writes pending traffic to the cold tier and commits it. -/
def writePending (key : Key) (observed pending : Traffic) (boundary : Bucket) :
    Procedure Outcome := do
  match ← cold (.accumulate (.ofKey key) key.bucket pending) with
  | .ok _ => commitFlushed key observed pending boundary
  | .error e => if e.isNotFound then purgeGone key else return .failed

/-- Flushes a record as it was read. -/
def flushRecord (record : Hot.Record) (boundary : Bucket) : Procedure Outcome := do
  let key := record.key
  if record.isReset then
    Procedure.record (.counterReset key.type.tag)
  if !record.pending.isZero then writePending key record.traffic record.pending boundary
  else if record.isReset then rebase key record.traffic
  else settleIdle key boundary

/-- Handles an active key, unless the cycle was cancelled. -/
def handleKey (key : Key) (record? : Option Hot.Record) (boundary : Bucket) :
    Procedure (Key × Outcome) := do
  if ← isCancelled then return (key, .cancelled)
  match record? with
  | none => return (key, ← settleMissing key)
  | some record => return (key, ← flushRecord record boundary)

/-! ## A cycle -/

/-- A list in parts of `size` elements, of one where `size` is zero; the last may be shorter. -/
def chunks {α : Type} (size : Nat) : List α → List (List α)
  | [] => []
  | x :: xs => (x :: xs.take (size - 1)) :: chunks size (xs.drop (size - 1))
termination_by xs => xs.length
decreasing_by
  simp only [List.length_drop, List.length_cons]
  omega

/-- What a cycle keeps from batch to batch. -/
structure Progress where
  streaks : Streaks
  report : Report := {}

/-- Takes note of what happened to a key. -/
def Progress.note (p : Progress) (key : Key) (outcome : Outcome) : Progress :=
  ⟨p.streaks.note key outcome, p.report.count outcome⟩

/-- Handles the keys of a batch as they were read. -/
def handleBatch (c : Settings) (boundary : Bucket) (p : Progress)
    (batch : List (Key × Option Hot.Record)) : Procedure Progress := do
  let outcomes ← Program.all c.config.concurrency
    (batch.map fun (key, record?) => handleKey key record? boundary)
  outcomes.forM fun (_, outcome) => Procedure.record (.compactedKey outcome.label)
  return outcomes.foldl (fun p (key, outcome) => p.note key outcome)
    { p with report.scanned := p.report.scanned + batch.length }

/-- Reads the records of a batch, unless the cycle was cancelled or is while it waits for them. -/
def readBatch (batch : List Key) :
    Procedure (Option (Except Error (List (Option Hot.Record)))) := do
  if ← isCancelled then return none
  Program.abandonIf isCancelled (hot (.snapshot batch))

/-- Runs the batches; stops at the first one that cannot be read. -/
def runBatches (c : Settings) (boundary : Bucket) :
    List (List Key) → Progress → Procedure (Streaks × Except Error Report)
  | [], p => return (p.streaks, .ok p.report)
  | batch :: rest, p => do
    match ← readBatch batch with
    | none => runBatches c boundary rest { p with report := p.report.skip batch.length }
    | some (.error e) => return (p.streaks, .error e)
    | some (.ok records) =>
      runBatches c boundary rest (← handleBatch c boundary p (batch.zip records))

/-- Ends the streaks of keys without pending traffic; keeps them all if these cannot be read. -/
def pruneStreaks (streaks : Streaks) : Procedure Streaks := do
  if streaks.isEmpty then return streaks
  match ← hot (.snapshot streaks.keys) with
  | .ok records => return streaks.prune (streaks.keys.zip records)
  | .error _ => return streaks

/-- The work of a cycle, from the active keys to its report. -/
def cycle (c : Settings) (streaks : Streaks) : Procedure (Streaks × Except Error Report) := do
  match ← hot (.activeKeys c.config.maxKeysPerCycle) with
  | .error e => return (streaks, .error e)
  | .ok keys =>
    let boundary ← c.boundary
    let (streaks, result) ← runBatches c boundary (chunks c.config.snapshotBatch keys) ⟨streaks, {}⟩
    match result with
    | .ok report =>
      if report.isCancelled then return (streaks, result)
      return (← pruneStreaks streaks, result)
    | .error _ => return (streaks, result)

end Compaction

/-- What a compactor remembers. -/
structure Compactor where
  streaks : Compaction.Streaks := ∅
  stats : Compaction.Stats := {}

instance : Inhabited Compactor := ⟨{}⟩

namespace Compactor

open Compaction Procedure

/-- Runs a cycle, unless it was cancelled before. -/
def run (c : Settings) (memory : Compactor) :
    Procedure (Compactor × Except Error Report) := do
  if ← isCancelled then return (memory, .error .cancelled)
  let (streaks, result) ← cycle c memory.streaks
  record (.compactionCycle 0 (result matches .ok _))
  record (.failingKeys (streaks.failing c.config.failureWarnThreshold).length)
  if result matches .error _ then
    record (.failure "tier_unavailable" "compaction")
  return (⟨streaks, memory.stats.add result⟩, result)

/-- Forgets the streak of a key. -/
def forget (memory : Compactor) (key : Key) : Compactor :=
  { memory with streaks := memory.streaks.erase key }

/-- The keys that keep failing. -/
def failingKeys (c : Settings) (memory : Compactor) : List (Key × Nat) :=
  memory.streaks.failing c.config.failureWarnThreshold

end Compactor

namespace Compaction

open Procedure

/-! ## Draining a bucket -/

/-- Writes the pending traffic of a drained record, or counts it in the hot tier again. -/
def drainRecord (key : Key) (pending : Traffic) : Procedure (Traffic × DrainOutcome) := do
  match ← cold (.accumulate (.ofKey key) key.bucket pending) with
  | .ok _ => return (pending, .flushed)
  | .error e =>
    if e.isNotFound then return (pending, .resourceGone)
    match ← hot (.increment key pending) with
    | .ok _ => return (pending, .restored)
    | .error _ =>
      Procedure.record (.failure "data_loss" "drain_bucket")
      return (pending, .lost)

/-- Empties a bucket into the cold tier. -/
def drain (c : Settings) (memory : Compactor) (bucket : Bucket) :
    Procedure (Compactor × Except Error DrainReport) := do
  match ← hot (.takeBucket bucket) with
  | .error e => return (memory, .error e)
  | .ok records =>
    let memory := records.foldl (fun memory r => memory.forget r.key) memory
    let pending := records.filter fun r => !r.pending.isZero
    let outcomes ← Program.all c.config.concurrency
      (pending.map fun r => drainRecord r.key r.pending)
    return (memory, .ok (outcomes.foldl (fun report (traffic, outcome) =>
      report.count traffic outcome) { records := records.length }))

end Compaction

end Metering

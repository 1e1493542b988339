import Metering.Compaction.Cycle
import Metering.Service.Status

/-!
# The flush service

A round is one compaction cycle and then, if the settings say so, a drain of every hot bucket that
has left the retention window. While the service runs it begins a round at regular times, the first
one at once. A cancelled round is followed by no other.
-/

namespace Metering

/-- What the flush service counts. -/
structure Flusher where
  /-- Rounds begun. -/
  rounds : Nat := 0
  /-- Buckets drained. -/
  drained : Nat := 0
deriving DecidableEq, Inhabited

namespace Flusher

open Compaction Procedure

/-- Name of the service. -/
def name : String := "flush"

/-- The service is started again three times at most. -/
def policy : Service.RestartPolicy := .onFailure 3 30000

/-- The service and the compactor that it drives. -/
abbrev Memory := Flusher × Compactor

/-- Drains buckets one after another, until the work is cancelled or a drain fails. -/
def drainEach (c : Settings) : List Bucket → Memory → Procedure (Memory × Except Error Unit)
  | [], memory => return (memory, .ok ())
  | bucket :: rest, (flusher, compactor) => do
    if ← isCancelled then return ((flusher, compactor), .ok ())
    match ← drain c compactor bucket with
    | (compactor, .error e) => return ((flusher, compactor), .error e)
    | (compactor, .ok _) =>
      drainEach c rest ({ flusher with drained := flusher.drained + 1 }, compactor)

/-- Drains the buckets before the retention window. -/
def trim (c : Settings) (memory : Memory) : Procedure (Memory × Except Error Unit) := do
  let boundary ← c.boundary
  match ← hot .activeBuckets with
  | .error e => return (memory, .error e)
  | .ok buckets => drainEach c (buckets.filter (· < boundary)) memory

/-- One round. -/
def runOnce (c : Settings) (memory : Memory) : Procedure (Memory × Except Error Unit) := do
  let flusher := { memory.1 with rounds := memory.1.rounds + 1 }
  match ← memory.2.run c with
  | (compactor, .error e) => return ((flusher, compactor), .error e)
  | (compactor, .ok report) =>
    if report.isCancelled || !c.config.trimExpiredBuckets then
      return ((flusher, compactor), .ok ())
    else trim c (flusher, compactor)

/-- One round of the running service; that it failed is reported. -/
def round (c : Settings) (memory : Memory) : Procedure Memory := do
  let (memory, result) ← runOnce c memory
  match result with
  | .ok _ | .error .cancelled => return memory
  | .error _ =>
    record (.failure "flush_cycle" "flush_service")
    return memory

/-- Rounds that begin within some milliseconds. -/
def roundsWithin (c : Settings) (ms : Nat) : Nat :=
  let interval := max c.config.intervalSecs 1 * 1000
  (ms + interval - 1) / interval

/-- Runs rounds until the work is cancelled; tells the state of the service after them. -/
def runRounds (c : Settings) : Nat → Memory → Procedure (Memory × Service.Status)
  | 0, memory => do
    return (memory, if ← isCancelled then .stopped else .running)
  | rounds + 1, memory => do
    if ← isCancelled then return (memory, .stopped)
    runRounds c rounds (← round c memory)

/-- Runs the service for some milliseconds; tells its state at the end of them. -/
def serve (c : Settings) (ms : Nat) (memory : Memory) : Procedure (Memory × Service.Status) :=
  runRounds c (if c.config.enabled then roundsWithin c ms else 0) memory

end Flusher

end Metering

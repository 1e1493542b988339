import Metering.Config.Basic
import Metering.Page
import Metering.Request

/-!
# Queries over both tiers

A window is widened to whole buckets and cut at the start of the retention window: the buckets before
come from the cold tier, the others from the hot tier, one read per bucket up to the current one.
The parts have no bucket in common, so their sums add up.

A hot bucket that cannot be read counts as empty and is told in a warning; a cold read that fails
fails the query. Sums that were cut at the row cap are told in a warning, too.
-/

namespace Metering

/-- What an answer may lack. -/
inductive Warning
  | hotDegraded (failedBuckets : Nat)
  | rowCapExceeded (totalRows cap : Nat)
deriving DecidableEq

/-- An answer, and what it may lack. -/
structure Answer (α : Type) where
  value : α
  warnings : List Warning

/-- The answer may lack something. -/
def Answer.isDegraded {α : Type} (a : Answer α) : Bool := !a.warnings.isEmpty

/-- A group with its display name. -/
structure GroupRow where
  group : Group
  name : String
  traffic : Traffic
deriving DecidableEq

/-- One page of ranked groups. -/
structure GroupPage where
  rows : List GroupRow
  /-- Groups on all pages, named or not. -/
  totalGroups : Nat
  page : Nat
  pageSize : Nat

/-- Looks up display names for some groups; a group without a name no longer exists. -/
abbrev Resolver := List Group → Except Error (Group → Option String)

namespace Resolver

/-- Names every group by its key. -/
def passthrough : Resolver := fun _ => .ok fun group => some group.text

/-- Names each group by itself. -/
def ofNames (name : Group → Option String) : Resolver := fun _ => .ok name

/-- Knows nothing and fails. -/
def failing (e : Error) : Resolver := fun _ => .error e

end Resolver

/-- The parts of a range. -/
structure SplitRange where
  cold : Option BucketRange
  hot : Option BucketRange

namespace Query

open Procedure

/-- What the query engine needs to know. -/
structure Settings where
  zone : Zone
  /-- Length of the retention window in nanoseconds. -/
  retention : Int
  config : Config.Query
  resolver : Resolver

/-- The first bucket that is served from the hot tier at `now`. -/
def Settings.boundaryAt (c : Settings) (now : Instant) : Bucket :=
  c.zone.bucketOf (now.addNanos (-c.retention))

/-- Cuts a range at the start of the retention window. -/
def split (c : Settings) (range : BucketRange) : Procedure SplitRange := do
  let (cold, hot) := range.splitAt (c.boundaryAt (← now))
  return ⟨cold, hot⟩

/-! ## Reading the tiers -/

/-- Calls the cold tier and reports how it went. -/
def readCold {α : Type} (request : Cold.Request α) : Procedure (Except Error α) := do
  let result ← cold request
  record (.tierRead "cold" (result matches .ok _))
  if result matches .error _ then
    record (.failure "tier_unavailable" "query")
  return result

/-- The part of a range that can hold hot records at `now`: nothing lies beyond the current bucket. -/
def untilNow (c : Settings) (now : Instant) (range : BucketRange) : Option BucketRange :=
  BucketRange.between? range.start (range.stop.earlier (c.zone.bucketOf now).next)

/-- The records of several bucket reads, and the number of reads that failed. -/
def gather (results : List (Except Error (List Hot.Record))) : List Hot.Record × Nat :=
  results.foldl (fun (records, failures) result =>
    match result with
    | .ok more => (records ++ more, failures)
    | .error _ => (records, failures + 1)) ([], 0)

/-- Reads every bucket of the hot part, and counts the reads that failed. -/
def readHot (c : Settings) (range? : Option BucketRange) :
    Procedure (List Hot.Record × Nat) := do
  let some range := range? | return ([], 0)
  let some range := untilNow c (← now) range | return ([], 0)
  let results ← Program.all c.config.hotReadConcurrency
    (range.buckets.map fun bucket => hot (.readBucket bucket))
  results.forM fun result => record (.tierRead "hot" (result matches .ok _))
  return gather results

/-- The warning about a cut read. -/
def capWarnings (c : Settings) {α : Type} (capped : Cold.Capped α) : List Warning :=
  if capped.isTruncated then [.rowCapExceeded capped.totalRows c.config.rowCap] else []

/-- The warning about failed reads. -/
def hotWarnings (failures : Nat) : List Warning :=
  if 0 < failures then [.hotDegraded failures] else []

/-- The records that pass a filter. -/
def passing (filter : Option ResourceType) (records : List Hot.Record) : List Hot.Record :=
  records.filter fun record => Cold.passes filter record.key.type

/-- What has been read of both parts. -/
structure Reads (α : Type) where
  cold : Except Error (Option (Cold.Capped α)) := .ok none
  hot : List Hot.Record × Nat := ([], 0)

/-- Runs a read of the cold part, if there is one, and the reads of the hot part, side by side. -/
def readBoth (c : Settings) {α : Type} (parts : SplitRange)
    (request : BucketRange → Cold.Request (Cold.Capped α)) :
    Task (Option (Cold.Capped α) × List Hot.Record × Nat) := .mk do
  let cold : Procedure (Reads α → Reads α) := match parts.cold with
    | none => pure id
    | some range => do
      let result ← readCold (request range)
      return fun reads => { reads with cold := result.map some }
  let hot : Procedure (Reads α → Reads α) := do
    let result ← readHot c parts.hot
    return fun reads => { reads with hot := result }
  let reads := (← Program.together [cold, hot]).foldl (fun reads fill => fill reads) {}
  return reads.cold.map (·, reads.hot)

/-! ## Groups -/

/-- What the cold tier is asked for. -/
def coldQuery (c : Settings) (dimension : Dimension) (filter : Option ResourceType)
    (range : BucketRange) : Cold.Query :=
  ⟨dimension, filter, range, c.config.rowCap⟩

/-- Adds hot records to the sums of the cold tier. -/
def mergeGroups (dimension : Dimension) (filter : Option ResourceType) (cold : Cold.Sums Group)
    (records : List Hot.Record) : Cold.Sums Group :=
  (passing filter records).foldl
    (fun sums record => sums.add (.ofKey dimension record.key) record.traffic) cold

/-- Sums per group over both tiers. -/
def mergedGroups (c : Settings) (dimension : Dimension) (filter : Option ResourceType)
    (range : BucketRange) : Task (Answer (Cold.Sums Group)) := do
  let parts ← Task.perform (split c range)
  let (cold?, records, failures) ← readBoth c parts fun range =>
    .sumByGroup (coldQuery c dimension filter range)
  return {
    value := mergeGroups dimension filter ((cold?.map (·.value)).getD ∅) records
    warnings := (cold?.map (capWarnings c)).getD [] ++ hotWarnings failures }

/-- Gives groups their names and leaves out those without one. -/
def resolve (c : Settings) (groups : List (Group × Traffic)) : Except Error (List GroupRow) :=
  if groups.isEmpty then .ok []
  else do
    let name ← c.resolver (groups.map (·.1))
    return groups.filterMap fun (group, traffic) =>
      (name group).map fun name => ⟨group, name, traffic⟩

/-- Widens a window to the buckets that a query reads, also beyond the ends of the calendar. -/
def normalize (c : Settings) (window : Window) (align : Align) : Task BucketRange :=
  Task.check (window.normalize c.zone align)

/-- Reports that a query was answered. -/
def report (operation : String) : Task Unit := Task.perform (record (.query operation 0))

/-- One page of the ranked groups; the page size is limited. -/
def grouped (c : Settings) (dimension : Dimension) (filter : Option ResourceType)
    (window : Window) (page : Page) : Task (Answer GroupPage) := do
  let range ← normalize c window .hour
  let page ← Task.check (Page.of page.number (min page.size c.config.maxPageSize))
  let groups ← mergedGroups c dimension filter range
  let ranked := Group.ranked groups.value.toList
  let rows ← liftExcept (resolve c (page.slice ranked))
  report "grouped"
  return ⟨⟨rows, ranked.length, page.number, page.size⟩, groups.warnings⟩

/-- The `count` groups with the largest totals. Where the whole range is cold, the cold tier ranks
its own sums. -/
def top (c : Settings) (dimension : Dimension) (filter : Option ResourceType) (window : Window)
    (count : Nat) : Task (Answer (List GroupRow)) := do
  let range ← normalize c window .hour
  let ranked : Answer (List (Group × Traffic)) ←
    match ← Task.perform (split c range) with
    | ⟨some cold, none⟩ => do
      let capped ← .mk (readCold (.top (coldQuery c dimension filter cold) count))
      pure ⟨capped.value, capWarnings c capped⟩
    | _ => do
      let groups ← mergedGroups c dimension filter range
      pure ⟨(Group.ranked groups.value.toList).take count, groups.warnings⟩
  let rows ← liftExcept (resolve c ranked.value)
  report "top_n"
  return ⟨rows, ranked.warnings⟩

/-- Everything in a window. -/
def total (c : Settings) (filter : Option ResourceType) (window : Window) :
    Task (Answer Traffic) := do
  let range ← normalize c window .hour
  let groups ← mergedGroups c .platform filter range
  report "total"
  return ⟨(groups.value[Group.total]?).getD 0, groups.warnings⟩

/-! ## Trends -/

/-- How far a window is widened for a trend. -/
def alignOf : Granularity → Align
  | .hour => .hour
  | .day | .month => .day

/-- Adds hot records to the periods of the cold tier. -/
def mergePeriods (g : Granularity) (filter : Option ResourceType) (cold : List (Moment × Traffic))
    (records : List Hot.Record) : Cold.Sums Moment :=
  (passing filter records).foldl
    (fun sums record => sums.add (record.key.bucket.periodStart g) record.traffic) (.ofList cold)

/-- Sums per period, oldest first. -/
def trend (c : Settings) (filter : Option ResourceType) (window : Window) (g : Granularity) :
    Task (Answer (List (Moment × Traffic))) := do
  let range ← normalize c window (alignOf g)
  let parts ← Task.perform (split c range)
  let (cold?, records, failures) ← readBoth c parts fun range =>
    .trend filter range g c.config.rowCap
  report "trend"
  return {
    value := (mergePeriods g filter ((cold?.map (·.value)).getD []) records).toList
    warnings := (cold?.map (capWarnings c)).getD [] ++ hotWarnings failures }

end Query

end Metering

import Metering.Ledger
import Metering.Proofs.Cold.Sums
import Metering.Proofs.Hot.Buckets
import Metering.Proofs.Program.Sequence
import Metering.Proofs.Query.Parts

/-!
# What a query reads

A query of stores in memory that are there reads every part of its range without failure. What it
finds in the hot tier are the live records of the buckets in its hot part, each once, and its sums
are those of the rows and the records that pass.

Results:
1. `mem_hotRecords`, `nodup_hotRecords`: the records that a query reads.
2. `mem_findings`, `nodup_findings`: what a query finds for a key, which it finds once.
3. `settle_total`, `settle_grouped`: the answers of a ledger, in terms of what is found.
-/

namespace Metering

open Program (settleEach settle_all settle_together settle_bind)

/-! ## Tasks -/

section Tasks

variable {Op : Type → Type 1} {σ : Type} {answer : {β : Type} → Op β → σ → β × σ}

/-- A task goes on with what it has found. -/
theorem settle_task_bind {ε α β : Type} {x : ExceptT ε (Program Op) α}
    {f : α → ExceptT ε (Program Op) β} {s : σ} {a : α} (found : (x.run.settle answer s).1 = .ok a) :
    (x >>= f).run.settle answer s = (f a).run.settle answer (x.run.settle answer s).2 := by
  refine (settle_bind answer x.run _ s).trans ?_
  rw [found]
  rfl

/-- A task that fails does not go on. -/
theorem settle_task_error {ε α β : Type} {x : ExceptT ε (Program Op) α}
    {f : α → ExceptT ε (Program Op) β} {s : σ} {e : ε}
    (failed : (x.run.settle answer s).1 = .error e) :
    ((x >>= f).run.settle answer s).1 = .error e := by
  refine (congrArg Prod.fst (settle_bind answer x.run _ s)).trans ?_
  rw [failed]
  rfl

end Tasks

/-- The keyed rows of a list. -/
def Cold.Row.keyed (row : Cold.Row) : Key × Traffic :=
  (⟨row.1.bucket, row.1.target.subscription.getD 0, row.1.target.type, row.1.target.resource⟩,
    row.2)

namespace Hot.Store

/-- What has been dropped is not there to be dropped. -/
theorem recordsOf_expire_expire {s : Store} (hs : s.Scheduled) (now : Instant) (bucket : Bucket) :
    ((s.expire now).expire now).recordsOf bucket = (s.expire now).recordsOf bucket := by
  have members : ((s.expire now).expire now).membersOf bucket =
      (s.expire now).membersOf bucket := by
    unfold membersOf
    have indexes : ((s.expire now).expire now).buckets[bucket]? =
        (s.expire now).buckets[bucket]? := by
      simp only [expire, Std.ExtTreeMap.getElem?_filter', Option.filter_filter, Bool.and_self]
    rw [indexes]
  unfold recordsOf
  rw [members]
  simp only [records_expire (hs.expire now), live?_expire hs, records_expire hs]

end Hot.Store

namespace Query

variable {c : Settings} {w : World}

/-! ## Hot records -/

/-- The records that a query finds in some buckets. -/
def hotRecords (w : World) (buckets : List Bucket) : List Hot.Record :=
  buckets.flatMap fun bucket => (w.hot.expire w.now).recordsOf bucket

theorem mem_hotRecords (hs : w.hot.Scheduled) (indexed : w.hot.Indexed w.now)
    {buckets : List Bucket} {r : Hot.Record} :
    r ∈ hotRecords w buckets ↔ r.key.bucket ∈ buckets ∧
      (w.hot.live? w.now r.key).map (·.toRecord r.key) = some r := by
  simp only [hotRecords, List.mem_flatMap, Hot.Store.mem_recordsOf hs indexed]
  constructor
  · rintro ⟨_, member, rfl, told⟩
    exact ⟨member, told⟩
  · rintro ⟨member, told⟩
    exact ⟨_, member, rfl, told⟩

theorem nodup_hotRecords (hs : w.hot.Scheduled) (indexed : w.hot.Indexed w.now)
    {buckets : List Bucket} (nodup : buckets.Nodup) :
    ((hotRecords w buckets).map (·.key)).Nodup := by
  induction buckets with
  | nil => exact List.nodup_nil
  | cons bucket buckets ih =>
    obtain ⟨fresh, nodup⟩ := List.nodup_cons.1 nodup
    have split : hotRecords w (bucket :: buckets) =
        (w.hot.expire w.now).recordsOf bucket ++ hotRecords w buckets := List.flatMap_cons
    rw [split, List.map_append, List.nodup_append]
    refine ⟨Hot.Store.takeBucket_nodup hs w.now bucket, ih nodup, ?_⟩
    rintro _ here _ there rfl
    obtain ⟨r, member, rfl⟩ := List.mem_map.1 here
    obtain ⟨r', member', same⟩ := List.mem_map.1 there
    have bucket' := ((Hot.Store.mem_recordsOf hs indexed).1 member).1
    refine fresh ?_
    rw [← bucket', ← same]
    exact ((mem_hotRecords hs indexed).1 member').1

theorem settle_readBuckets (buckets : List Bucket) (hs : w.hot.Scheduled) : ∃ w',
    settleEach World.answer (buckets.map fun bucket => Procedure.hot (.readBucket bucket)) w =
      (buckets.map fun bucket => .ok ((w.hot.expire w.now).recordsOf bucket), w') := by
  induction buckets generalizing w with
  | nil => exact ⟨w, rfl⟩
  | cons bucket buckets ih =>
    obtain ⟨w', rest⟩ := ih (w := { w with hot := w.hot.expire w.now }) (hs.expire w.now)
    simp only [Hot.Store.recordsOf_expire_expire hs] at rest
    refine ⟨w', ?_⟩
    have first : (Procedure.hot (.readBucket bucket)).settle World.answer w =
        (.ok ((w.hot.expire w.now).recordsOf bucket), { w with hot := w.hot.expire w.now }) := rfl
    simp only [List.map_cons, settleEach, first, rest]

/-- Reads of which none failed add their records to those that were read before. -/
theorem gather_foldl (results : List (List Hot.Record)) (records : List Hot.Record) :
    (results.map Except.ok).foldl (fun (state : List Hot.Record × Nat)
      (result : Except Error (List Hot.Record)) =>
        match result with
        | .ok more => (state.1 ++ more, state.2)
        | .error _ => (state.1, state.2 + 1)) (records, 0) = (records ++ results.flatten, 0) := by
  induction results generalizing records with
  | nil => simp
  | cons result results ih =>
    rw [List.map_cons, List.foldl_cons, ih]
    simp

theorem gather_ok (results : List (List Hot.Record)) :
    gather (results.map .ok) = (results.flatten, 0) :=
  gather_foldl results []

theorem settle_now {α : Type} (f : Instant → Procedure α) (w : World) :
    (Procedure.now >>= f).settle World.answer w = (f w.now).settle World.answer w := rfl

theorem settle_readHot (c : Settings) (range? : Option BucketRange) (hs : w.hot.Scheduled) :
    ((readHot c range?).settle World.answer w).1 =
      (hotRecords w (hotBuckets c w.now range?), 0) := by
  cases range? with
  | none => rfl
  | some range =>
    unfold readHot hotBuckets
    rw [Option.bind_some]
    change (Program.settle World.answer (Procedure.now >>= _) w).1 = _
    rw [settle_now]
    cases untilNow c w.now range with
    | none => rfl
    | some part =>
      obtain ⟨w', found⟩ := settle_readBuckets part.buckets hs
      dsimp only
      refine (congrArg Prod.fst (settle_bind World.answer _ _ w)).trans ?_
      rw [settle_all, found]
      refine (congrArg Prod.fst (settle_bind World.answer _ _ w')).trans ?_
      change gather _ = _
      have results := gather_ok (part.buckets.map fun bucket =>
        (w.hot.expire w.now).recordsOf bucket)
      rw [List.map_map] at results
      exact results

/-! ## Both tiers -/

/-- A read of the cold tier calls it, and reports the answer. -/
theorem settle_readCold_eq {α : Type} (request : Cold.Request α) (w : World) :
    (readCold request).settle World.answer w =
      ((do
        Procedure.record (.tierRead "cold" ((w.cold.answer request).1 matches .ok _))
        if (w.cold.answer request).1 matches .error _ then
          Procedure.record (.failure "tier_unavailable" "query")
        return (w.cold.answer request).1) : Procedure _).settle World.answer
          { w with cold := (w.cold.answer request).2 } :=
  rfl

theorem settle_readCold {α : Type} {request : Cold.Request α} {a : α}
    (online : (w.cold.answer request).1 = .ok a) : ∃ metrics,
      (readCold request).settle World.answer w =
        (.ok a, { w with cold := (w.cold.answer request).2, metrics }) := by
  refine ⟨w.metrics.record (.tierRead "cold" true), ?_⟩
  rw [settle_readCold_eq, online]
  rfl

theorem settle_pure {α : Type} (a : α) (w : World) :
    (pure a : Procedure α).settle World.answer w = (a, w) := rfl

theorem settle_done {α β : Type} (p : Procedure α) (f : α → β) (w : World) :
    (p >>= fun a => pure (f a)).settle World.answer w =
      (f (p.settle World.answer w).1, (p.settle World.answer w).2) :=
  settle_bind World.answer p _ w

/-- Both parts of a range are read. -/
theorem settle_readBoth {α : Type} {parts : SplitRange}
    {request : BucketRange → Cold.Request (Cold.Capped α)}
    {capped : BucketRange → Cold.Capped α} (hs : w.hot.Scheduled)
    (online : ∀ range, w.cold.answer (request range) = (.ok (capped range), w.cold)) :
      ((readBoth c parts request).run.settle World.answer w).1 =
        .ok (parts.cold.map capped, hotRecords w (hotBuckets c w.now parts.hot), 0) := by
  unfold readBoth
  refine (congrArg Prod.fst (settle_bind World.answer _ _ w)).trans ?_
  rw [settle_together]
  cases cold : parts.cold with
  | none =>
    have read := settle_readHot c parts.hot hs
    simp only [settleEach, settle_done, settle_pure, read]
    rfl
  | some range =>
    have called := online range
    have answered : (w.cold.answer (request range)).1 = .ok (capped range) :=
      congrArg Prod.fst called
    obtain ⟨metrics, read⟩ := settle_readCold answered
    rw [called] at read
    have hot := settle_readHot (w := { w with metrics }) c parts.hot hs
    simp only [settleEach, settle_done, read, hot]
    rfl

/-! ## Answers -/

variable {dimension : Dimension} {filter : Option ResourceType} {range : BucketRange}

/-- The rows of a range that pass a filter and lie before the retention window. -/
def coldRows (c : Settings) (filter : Option ResourceType) (range : BucketRange) (w : World) :
    List Cold.Row :=
  w.cold.rows.toList.filter fun row =>
    range.contains row.1.bucket && row.1.bucket < c.boundaryAt w.now &&
      Cold.passes filter row.1.target.type

/-- What a query finds for each key of a range that passes a filter. -/
def findings (c : Settings) (filter : Option ResourceType) (range : BucketRange) (w : World) :
    List (Key × Traffic) :=
  (coldRows c filter range w).map (·.keyed) ++
    (passing filter (hotRecords w (hotBuckets c w.now
      (range.splitAt (c.boundaryAt w.now)).2))).map fun r => (r.key, r.traffic)

/-- The rows are those of hot counters. -/
def Keyed (cold : Cold.Store) : Prop := ∀ row ∈ cold.rows.toList, ∃ key, row.1 = .ofKey key

theorem group?_ofKey (dimension : Dimension) (key : Key) :
    (Cold.Target.ofKey key).group? dimension = some (Group.ofKey dimension key) := by
  cases dimension <;> rfl

theorem keyed_ofKey (key : Key) (traffic : Traffic) :
    Cold.Row.keyed (.ofKey key, traffic) = (key, traffic) := rfl

theorem start_splitAt_hot (zoned : range.start.zone = c.zone) {part : BucketRange}
    (cut : part ∈ (range.splitAt (c.boundaryAt w.now)).2) : part.start.zone = c.zone := by
  rw [BucketRange.start_of_mem_between? cut, Bucket.later]
  split
  · rfl
  · exact zoned

theorem mem_coldRows (keyed : Keyed w.cold) {key : Key} {traffic : Traffic} :
    (key, traffic) ∈ (coldRows c filter range w).map (·.keyed) ↔
      (range.contains key.bucket = true ∧ Cold.passes filter key.type = true) ∧
        key.bucket < c.boundaryAt w.now ∧ w.cold.rows[Cold.RowKey.ofKey key]? = some traffic := by
  rw [List.mem_map]
  constructor
  · rintro ⟨⟨address, _⟩, found, eq⟩
    obtain ⟨member, passes⟩ := List.mem_filter.1 found
    obtain ⟨key', rfl⟩ := keyed _ member
    obtain ⟨⟨⟩, rfl⟩ := Prod.mk.inj ((keyed_ofKey key' _).symm.trans eq)
    simp only [Bool.and_eq_true, decide_eq_true_eq] at passes
    exact ⟨⟨passes.1.1, passes.2⟩, passes.1.2,
      Std.ExtTreeMap.mem_toList_iff_getElem?_eq_some.1 member⟩
  · rintro ⟨⟨inside, passes⟩, before, row⟩
    refine ⟨(.ofKey key, traffic), List.mem_filter.2 ⟨?_, ?_⟩, keyed_ofKey key traffic⟩
    · exact Std.ExtTreeMap.mem_toList_iff_getElem?_eq_some.2 row
    · simp only [Bool.and_eq_true, decide_eq_true_eq]
      exact ⟨⟨inside, before⟩, passes⟩

theorem mem_hotFindings (hs : w.hot.Scheduled) (indexed : w.hot.Indexed w.now)
    (zoned : range.start.zone = c.zone) {key : Key} {traffic : Traffic} :
    (key, traffic) ∈ (passing filter (hotRecords w (hotBuckets c w.now
        (range.splitAt (c.boundaryAt w.now)).2))).map (fun r => (r.key, r.traffic)) ↔
      (range.contains key.bucket = true ∧ Cold.passes filter key.type = true) ∧
        c.boundaryAt w.now ≤ key.bucket ∧
          (key.bucket.zone = c.zone ∧ key.bucket ≤ c.zone.bucketOf w.now) ∧
          ∃ entry, w.hot.live? w.now key = some entry ∧ entry.traffic = traffic := by
  have walked : key.bucket ∈ hotBuckets c w.now (range.splitAt (c.boundaryAt w.now)).2 ↔
      (key.bucket.zone = c.zone ∧ key.bucket ≤ c.zone.bucketOf w.now) ∧
        range.contains key.bucket = true ∧ c.boundaryAt w.now ≤ key.bucket := by
    rw [mem_hotBuckets fun part cut => start_splitAt_hot zoned cut,
      BucketRange.contains_splitAt_hot]
    exact ⟨fun ⟨zone, inside, le⟩ => ⟨⟨zone, le⟩, inside⟩,
      fun ⟨⟨zone, le⟩, inside⟩ => ⟨zone, inside, le⟩⟩
  rw [List.mem_map]
  constructor
  · rintro ⟨record, found, ⟨⟩⟩
    obtain ⟨member, passes⟩ := List.mem_filter.1 found
    obtain ⟨bucket, told⟩ := (mem_hotRecords hs indexed).1 member
    obtain ⟨entry, live, made⟩ := Option.map_eq_some_iff.1 told
    obtain ⟨dated, inside, from'⟩ := walked.1 bucket
    exact ⟨⟨inside, passes⟩, from', dated, entry, live, congrArg Hot.Record.traffic made⟩
  · rintro ⟨⟨inside, passes⟩, from', dated, entry, live, rfl⟩
    refine ⟨entry.toRecord key, List.mem_filter.2 ⟨?_, passes⟩, rfl⟩
    exact (mem_hotRecords hs indexed).2 ⟨walked.2 ⟨dated, inside, from'⟩,
      congrArg (Option.map (·.toRecord key)) live⟩

/-- What a query finds for a key is its row before the retention window, and its record in it. -/
theorem mem_findings (hs : w.hot.Scheduled) (indexed : w.hot.Indexed w.now)
    (keyed : Keyed w.cold) (zoned : range.start.zone = c.zone) {key : Key} {traffic : Traffic} :
    (key, traffic) ∈ findings c filter range w ↔
      (range.contains key.bucket = true ∧ Cold.passes filter key.type = true) ∧
        (key.bucket < c.boundaryAt w.now ∧ w.cold.rows[Cold.RowKey.ofKey key]? = some traffic ∨
          c.boundaryAt w.now ≤ key.bucket ∧
            (key.bucket.zone = c.zone ∧ key.bucket ≤ c.zone.bucketOf w.now) ∧
            ∃ entry, w.hot.live? w.now key = some entry ∧ entry.traffic = traffic) := by
  unfold findings
  rw [List.mem_append, mem_coldRows keyed, mem_hotFindings hs indexed zoned, ← and_or_left]

theorem nodup_coldRows (keyed : Keyed w.cold) :
    (((coldRows c filter range w).map (·.keyed)).map Prod.fst).Nodup := by
  have distinct : (coldRows c filter range w).Pairwise fun a b => ¬ compare a.1 b.1 = .eq :=
    Std.ExtTreeMap.distinct_keys_toList.filter _
  rw [List.map_map, List.Nodup, List.pairwise_map]
  refine distinct.imp_of_mem fun {a b} here there differ same => differ ?_
  obtain ⟨key, own⟩ := keyed a (List.mem_filter.1 here).1
  obtain ⟨key', own'⟩ := keyed b (List.mem_filter.1 there).1
  obtain ⟨_, traffic⟩ := a
  obtain ⟨_, traffic'⟩ := b
  subst own own'
  have same : key = key' := same
  subst same
  exact Std.ReflOrd.compare_self

/-- A query finds no key twice: no bucket is in both parts of a range. -/
theorem nodup_findings (hs : w.hot.Scheduled) (indexed : w.hot.Indexed w.now)
    (keyed : Keyed w.cold) (zoned : range.start.zone = c.zone) :
    ((findings c filter range w).map Prod.fst).Nodup := by
  unfold findings
  rw [List.map_append, List.nodup_append]
  refine ⟨nodup_coldRows keyed, ?_, ?_⟩
  · have nodup := nodup_hotRecords hs indexed (nodup_hotBuckets c w.now
      (range.splitAt (c.boundaryAt w.now)).2)
    rw [List.map_map]
    exact nodup.sublist (List.filter_sublist.map _)
  · rintro key here _ there rfl
    obtain ⟨⟨_, row⟩, cold, rfl⟩ := List.mem_map.1 here
    obtain ⟨⟨_, record⟩, hot, rfl⟩ := List.mem_map.1 there
    have before := ((mem_coldRows keyed).1 cold).2.1
    exact Int.not_le.2 before ((mem_hotFindings hs indexed zoned).1 hot).2.1

theorem scan_eq_coldRows (keyed : Keyed w.cold) {part : BucketRange}
    (cut : (range.splitAt (c.boundaryAt w.now)).1 = some part) :
    (w.cold.scan part fun target => Cold.passes filter target.type &&
      (target.group? dimension).isSome) = coldRows c filter range w := by
  refine List.filter_congr fun row member => ?_
  obtain ⟨key, own⟩ := keyed row member
  have inside : (∃ cold ∈ (range.splitAt (c.boundaryAt w.now)).1,
      cold.contains row.1.bucket = true) ↔ _ := BucketRange.contains_splitAt_cold
  rw [cut] at inside
  have target : row.1.target = .ofKey key := congrArg Cold.RowKey.target own
  rw [Bool.eq_iff_iff]
  simp only [target, group?_ofKey, Option.isSome_some, Bool.and_true, Bool.and_eq_true,
    decide_eq_true_eq, ← inside]
  simp

theorem coldRows_eq_nil (cut : (range.splitAt (c.boundaryAt w.now)).1 = none) :
    coldRows c filter range w = [] := by
  refine List.filter_eq_nil_iff.2 fun row _ found => ?_
  have inside : (∃ cold ∈ (range.splitAt (c.boundaryAt w.now)).1,
      cold.contains row.1.bucket = true) ↔ _ := BucketRange.contains_splitAt_cold
  rw [cut] at inside
  simp only [Bool.and_eq_true, decide_eq_true_eq, ← inside] at found
  simp at found

/-- The rows that a read finds are grouped by their keys. -/
theorem grouped_rows (keyed : Keyed w.cold) :
    (coldRows c filter range w).filterMap (fun (key, traffic) =>
      (key.target.group? dimension).map (·, traffic)) =
    ((coldRows c filter range w).map (·.keyed)).map fun part =>
      (Group.ofKey dimension part.1, part.2) := by
  rw [List.map_map, ← List.filterMap_eq_map]
  refine List.filterMap_congr fun row member => ?_
  obtain ⟨key, own⟩ := keyed row (List.mem_filter.1 member).1
  obtain ⟨_, traffic⟩ := row
  subst own
  exact congrArg (Option.map _) (group?_ofKey dimension key)

/-- A read that is not cut tells the sums of all rows before the retention window. -/
theorem grouped_of_few (dimension : Dimension) (keyed : Keyed w.cold)
    (few : (coldRows c filter range w).length ≤ c.config.rowCap) {part : BucketRange}
    (cut : (range.splitAt (c.boundaryAt w.now)).1 = some part) :
    (w.cold.grouped (coldQuery c dimension filter part)).value =
        .ofList (((coldRows c filter range w).map (·.keyed)).map fun part =>
          (Group.ofKey dimension part.1, part.2)) ∧
      (w.cold.grouped (coldQuery c dimension filter part)).isTruncated = false := by
  unfold Cold.Store.grouped coldQuery Cold.Store.capped
  dsimp only
  rw [scan_eq_coldRows keyed cut, List.take_of_length_le few, grouped_rows keyed]
  exact ⟨rfl, decide_eq_false (Nat.not_lt.2 few)⟩

theorem mergeGroups_ofList (parts : List (Group × Traffic)) (records : List Hot.Record) :
    mergeGroups dimension filter (.ofList parts) records =
      .ofList (parts ++ ((passing filter records).map fun r => (r.key, r.traffic)).map fun part =>
        (Group.ofKey dimension part.1, part.2)) := by
  unfold mergeGroups Cold.Sums.ofList
  rw [List.foldl_append, List.map_map, List.foldl_map]
  rfl

/-- The sums by group of what a query finds. -/
def foundSums (c : Settings) (dimension : Dimension) (filter : Option ResourceType)
    (range : BucketRange) (w : World) : Cold.Sums Group :=
  .ofList ((findings c filter range w).map fun part => (Group.ofKey dimension part.1, part.2))

/-- The sums of a query are those of what it finds, if the cold read is not cut. -/
theorem settle_mergedGroups (hs : w.hot.Scheduled) (online : w.cold.isOffline = false)
    (keyed : Keyed w.cold) (few : (coldRows c filter range w).length ≤ c.config.rowCap) :
    ((mergedGroups c dimension filter range).run.settle World.answer w).1 =
      .ok ⟨foundSums c dimension filter range w, []⟩ := by
  have called : ∀ part, w.cold.answer (.sumByGroup (coldQuery c dimension filter part)) =
      (.ok (w.cold.grouped (coldQuery c dimension filter part)), w.cold) := by
    intro part
    unfold Cold.Store.answer Cold.Store.sumByGroup
    dsimp only
    rw [online]
    rfl
  have parts : (Task.perform (split c range)).run.settle World.answer w =
      (.ok ⟨(range.splitAt (c.boundaryAt w.now)).1, (range.splitAt (c.boundaryAt w.now)).2⟩, w) :=
    rfl
  unfold mergedGroups
  rw [settle_task_bind (congrArg Prod.fst parts), parts,
    settle_task_bind (settle_readBoth hs called)]
  change Except.ok (Answer.mk _ _) = Except.ok _
  cases cut : (range.splitAt (c.boundaryAt w.now)).1 with
  | none =>
    unfold foundSums findings
    rw [coldRows_eq_nil cut]
    exact congrArg (fun sums => Except.ok (Answer.mk sums [])) (mergeGroups_ofList [] _)
  | some part =>
    have read := grouped_of_few dimension keyed few cut
    rw [Option.map_some, Option.map_some, Option.map_some, Option.getD_some, Option.getD_some,
      read.1, mergeGroups_ofList, capWarnings, read.2, foundSums, findings, List.map_append]
    rfl

variable {window : Window}

theorem settle_check {α : Type} {result : Except Rejection α} {a : α} (accepted : result = .ok a)
    (w : World) : (Task.check result).run.settle World.answer w = (.ok a, w) := by
  subst accepted
  rfl

theorem settle_liftExcept {α : Type} (result : Except Error α) (w : World) :
    ((liftExcept result : Task α).run.settle World.answer w).1 = result := by
  cases result <;> rfl

theorem settle_total (hs : w.hot.Scheduled) (online : w.cold.isOffline = false)
    (keyed : Keyed w.cold)
    (few : (coldRows c filter (window.hours c.zone) w).length ≤ c.config.rowCap) :
    ((total c filter window).run.settle World.answer w).1 =
      .ok ⟨((foundSums c .platform filter (window.hours c.zone) w)[Group.total]?).getD 0, []⟩ := by
  have wide := settle_check (window.normalize_hour c.zone) w
  unfold total normalize
  rw [settle_task_bind (congrArg Prod.fst wide), wide,
    settle_task_bind (settle_mergedGroups hs online keyed few)]
  rfl

theorem settle_grouped (hs : w.hot.Scheduled) (online : w.cold.isOffline = false)
    (keyed : Keyed w.cold)
    (few : (coldRows c filter (window.hours c.zone) w).length ≤ c.config.rowCap)
    {page page' : Page}
    (paged : Page.of page.number (min page.size c.config.maxPageSize) = .ok page') :
    ((grouped c dimension filter window page).run.settle World.answer w).1 =
      (resolve c (page'.slice (Group.ranked
        (foundSums c dimension filter (window.hours c.zone) w).toList))).map fun rows =>
          ⟨⟨rows, (foundSums c dimension filter (window.hours c.zone) w).size,
            page'.number, page'.size⟩, []⟩ := by
  have wide := settle_check (window.normalize_hour c.zone) w
  have checked := settle_check paged w
  unfold grouped normalize
  rw [settle_task_bind (congrArg Prod.fst wide), wide,
    settle_task_bind (congrArg Prod.fst checked), checked,
    settle_task_bind (settle_mergedGroups hs online keyed few)]
  dsimp only
  have named := settle_liftExcept (resolve c (page'.slice (Group.ranked
    (foundSums c dimension filter (window.hours c.zone) w).toList)))
      ((mergedGroups c dimension filter (window.hours c.zone)).run.settle World.answer w).2
  cases found : resolve c (page'.slice (Group.ranked
      (foundSums c dimension filter (window.hours c.zone) w).toList)) with
  | error e =>
    rw [found] at named
    exact settle_task_error named
  | ok rows =>
    rw [found] at named
    rw [settle_task_bind named]
    change Except.ok _ = _
    rw [Group.ranked, List.length_mergeSort, Std.ExtTreeMap.length_toList]
    rfl

end Query

namespace Ledger

variable {l : Ledger} {w : World} {tag? : Option String} {filter : Option ResourceType}

/-- The tag of a filter is read first. -/
theorem settle_parseFilter (parsed : tag?.mapM ResourceType.parse = .ok filter) :
    (parseFilter tag?).run.settle World.answer w = (.ok filter, w) := by
  cases tag? with
  | none =>
    cases parsed
    rfl
  | some tag =>
    change (some <$> Task.check (ResourceType.parse tag) : Task _).run.settle World.answer w = _
    cases found : ResourceType.parse tag with
    | error why =>
      rw [Option.mapM_some, found] at parsed
      cases parsed
    | ok type =>
      rw [Option.mapM_some, found] at parsed
      cases parsed
      rfl

theorem settle_total (parsed : tag?.mapM ResourceType.parse = .ok filter) (window : Window) :
    ((l.total tag? window).run.settle World.answer w).1 =
      ((Query.total l.query filter window).run.settle World.answer w).1 := by
  have read := settle_parseFilter (w := w) parsed
  unfold total
  rw [settle_task_bind (congrArg Prod.fst read), read]

theorem settle_grouped (parsed : tag?.mapM ResourceType.parse = .ok filter) (dimension : Dimension)
    (window : Window) (page : Page) :
    ((l.grouped dimension tag? window page).run.settle World.answer w).1 =
      ((Query.grouped l.query dimension filter window page).run.settle World.answer w).1 := by
  have read := settle_parseFilter (w := w) parsed
  unfold grouped
  rw [settle_task_bind (congrArg Prod.fst read), read]

end Ledger

end Metering

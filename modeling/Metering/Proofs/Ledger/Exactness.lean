import Metering.Proofs.Ledger.Retained
import Metering.Proofs.Query.Reading

/-!
# Queries are exact

A query reads a bucket from one tier: from the rows of the cold store if it has left the retention
window, from the records of the hot store if it is in it. The same bytes are in both tiers most of
the time, since flushing leaves the record where it is. A query is exact if each tier is complete in
its part: all that was counted has been flushed before the window, and nothing is missing in it.

Results:
1. `complete_of_calm`: at the end of a calm run each tier is complete in its part.
2. `Complete.totals`: what a query finds for each key is all that was counted for it.
3. `answers_exact`: totals and grouped sums are those of the increments in the window.
4. `total_within_round`: a total that is read while a round holds bytes that are in neither tier.
-/

namespace Metering

open Compaction
open Cold (bytesWhere bytesWhere_filter bytesWhere_mono bytes_le_bytesWhere Totals)

theorem Compaction.HasCounters.keyed {cold : Cold.Store} (h : HasCounters cold) :
    Query.Keyed cold :=
  fun _ member => (h _ _ (Std.ExtTreeMap.mem_toList_iff_getElem?_eq_some.1 member)).1

namespace Compaction.Stage

/-! ## Conditions -/

/-- Some record has expired with traffic that was not flushed. -/
def Abandons (s : Stage) : Prop :=
  ∃ entry ∈ s.world.hot.records.toList, entry.2.expiry ≤ s.world.now ∧ entry.2.pending ≠ 0

instance : DecidablePred Abandons := fun s =>
  inferInstanceAs (Decidable (∃ entry ∈ s.world.hot.records.toList, _ ∧ _))

/-- No live record of a bucket before `boundary` has pending traffic. -/
def IsFlushed (boundary : Bucket) (s : Stage) : Prop :=
  ∀ entry ∈ s.world.hot.records.toList, entry.1.bucket < boundary →
    s.world.now < entry.2.expiry → entry.2.pending = 0

instance (boundary : Bucket) : DecidablePred (IsFlushed boundary) := fun s =>
  inferInstanceAs (Decidable (∀ entry ∈ s.world.hot.records.toList, _))

/-- No drain holds bytes that it has taken out of a bucket and not written yet. -/
def IsStill (s : Stage) : Prop := ∀ key d, (s.phase key).inTransit d = 0

variable {s : Stage} {key : Key}

theorem abandons_of_forfeits (forfeits : s.world.hot.Forfeits s.world.now key) : s.Abandons := by
  obtain ⟨entry, found, expired, pending⟩ := forfeits
  exact ⟨(key, entry), Std.ExtTreeMap.mem_toList_iff_getElem?_eq_some.2 found, expired, pending⟩

theorem IsFlushed.pendingOf_eq {boundary : Bucket} (h : s.IsFlushed boundary)
    (old : key.bucket < boundary) (d : Way) : pendingOf d (s.live? key) = 0 := by
  cases live : s.live? key with
  | none => rfl
  | some entry =>
    obtain ⟨found, lives⟩ := Hot.Store.live?_eq_some.1 live
    have member := Std.ExtTreeMap.mem_toList_iff_getElem?_eq_some.2 found
    simp only [pendingOf, Option.elim_some]
    rw [h (key, entry) member old lives, Traffic.bytes_zero]

/-! ## Increments in a range -/

/-- The increments in the buckets of a range, of the resources that pass a filter. -/
def incrementsIn (s : Stage) (filter : Option ResourceType) (range : BucketRange) :
    List (Key × Traffic) :=
  s.increments.filter fun write =>
    range.contains write.1.bucket = true ∧ Cold.passes filter write.1.type = true

variable {filter : Option ResourceType} {range : BucketRange} {d : Way}

theorem mem_incrementsIn {write : Key × Traffic} :
    write ∈ s.incrementsIn filter range ↔ write ∈ s.increments ∧
      range.contains write.1.bucket = true ∧ Cold.passes filter write.1.type = true := by
  rw [incrementsIn, List.mem_filter, decide_eq_true_eq]

/-- Of a key in the range all increments are in it. -/
theorem accepted_eq_incrementsIn (inside : range.contains key.bucket = true)
    (passes : Cold.passes filter key.type = true) :
    (s.tally key).accepted d = bytesWhere (· = key) d (s.incrementsIn filter range) := by
  refine (Tally.accepted_eq s.log).trans ?_
  rw [incrementsIn, bytesWhere_filter (fun key : Key => range.contains key.bucket = true ∧
    Cold.passes filter key.type = true)]
  refine Nat.le_antisymm (bytesWhere_mono ?_ _) (bytesWhere_mono (fun key' own => own.1) _)
  rintro _ rfl
  exact ⟨rfl, inside, passes⟩

/-! ## Complete tiers -/

/-- The rows before the retention window and the records in it tell all that was counted, if it fits
in a counter. -/
structure Complete (l : Ledger) (s : Stage) : Prop where
  counters : HasCounters s.world.cold
  dated : s.IsDated l.zone
  flushed : ∀ {key : Key}, (∀ d, (s.tally key).accepted d ≤ Count.top) →
    key.bucket < l.query.boundaryAt s.world.now →
      ∀ d, (s.row key).bytes d = (s.tally key).accepted d
  retained : ∀ {key : Key}, (∀ d, (s.tally key).accepted d ≤ Count.top) →
    key.bucket.zone = l.zone → l.query.boundaryAt s.world.now ≤ key.bucket →
      ∃ deadline, Retains s.world.hot s.world.now key deadline (s.tally key).accepted

namespace Complete

variable {l : Ledger} {lifespan : Int} {traffic : Traffic}

section Room

variable (h : s.Complete l) (orderly : s.Orderly lifespan) (zoned : l.query.zone = l.zone)
  (started : range.start.zone = l.query.zone)
  (room : ∀ key d, bytesWhere (· = key) d (s.incrementsIn filter range) ≤ Count.top)
include h orderly zoned started room

/-- What a query finds is not nothing, and is all that was counted for its key. -/
theorem tells (found : (key, traffic) ∈ Query.findings l.query filter range s.world) :
    traffic ≠ 0 ∧ ∀ d, traffic.bytes d = bytesWhere (· = key) d (s.incrementsIn filter range) := by
  obtain ⟨scope, place⟩ := (Query.mem_findings orderly.scheduled orderly.indexed h.counters.keyed
    started).1 found
  have all : ∀ d, (s.tally key).accepted d = _ := fun d => accepted_eq_incrementsIn scope.1 scope.2
  have fits : ∀ d, (s.tally key).accepted d ≤ Count.top := fun d => all d ▸ room key d
  obtain ⟨before, row⟩ | ⟨inside, dated, entry, live, rfl⟩ := place
  · refine ⟨(h.counters _ _ row).2, fun d => ?_⟩
    have told : s.row key = traffic := congrArg (Option.getD · 0) row
    rw [← all, ← h.flushed fits before d, told]
  · obtain ⟨deadline, retains⟩ := h.retained fits (dated.1.trans zoned) inside
    refine ⟨retains.nonempty entry live, fun d => ?_⟩
    have told := retains.traffic d
    rw [live, Nat.min_eq_left (fits d)] at told
    rw [← all]
    exact told

/-- The key of an increment in the range is found, by its row or by its record. -/
theorem finds {amount : Traffic} (member : (key, amount) ∈ s.incrementsIn filter range) :
    ∃ traffic, (key, traffic) ∈ Query.findings l.query filter range s.world := by
  have found : ∀ traffic, (key, traffic) ∈ Query.findings l.query filter range s.world ↔ _ :=
    fun _ => Query.mem_findings orderly.scheduled orderly.indexed h.counters.keyed started
  obtain ⟨counted, scope⟩ := mem_incrementsIn.1 member
  obtain ⟨zone, dated, nonzero⟩ := h.dated _ counted
  have all : ∀ d, (s.tally key).accepted d = _ := fun d => accepted_eq_incrementsIn scope.1 scope.2
  have fits : ∀ d, (s.tally key).accepted d ≤ Count.top := fun d => all d ▸ room key d
  -- an increment is not nothing, so there is a row or a record to tell it
  obtain ⟨d, pos⟩ := Traffic.ne_zero_iff.1 nonzero
  have some : 0 < (s.tally key).accepted d :=
    all d ▸ Nat.lt_of_lt_of_le pos (bytes_le_bytesWhere member rfl)
  rcases Int.lt_or_le key.bucket.startSeconds
    (l.query.boundaryAt s.world.now).startSeconds with before | inside
  · rw [← h.flushed fits before d] at some
    cases row : s.world.cold.rows[Cold.RowKey.ofKey key]? with
    | none =>
      have empty : s.row key = 0 := congrArg (Option.getD · 0) row
      rw [empty, Traffic.bytes_zero] at some
      exact (Nat.lt_irrefl 0 some).elim
    | some traffic => exact ⟨traffic, (found traffic).2 ⟨scope, .inl ⟨before, row⟩⟩⟩
  · obtain ⟨deadline, retains⟩ := h.retained fits zone inside
    have told := retains.traffic d
    rw [Nat.min_eq_left (fits d)] at told
    cases live : s.world.hot.live? s.world.now key with
    | none =>
      rw [live] at told
      exact (Nat.ne_of_gt some told.symm).elim
    | some entry =>
      refine ⟨entry.traffic, (found _).2 ⟨scope, .inr ⟨inside, ⟨?_, ?_⟩, entry, live, rfl⟩⟩⟩
      · exact zone.trans zoned.symm
      · rw [zoned]
        exact dated

/-- What a query finds for each key is all that was counted for it, whichever tier it is read
from. -/
theorem totals : Totals (Query.findings l.query filter range s.world) (s.incrementsIn filter range)
    where
  nodup := Query.nodup_findings orderly.scheduled orderly.indexed h.counters.keyed started
  tells found := tells h orderly zoned started room found
  covers write member := by
    obtain ⟨traffic, found⟩ := finds h orderly zoned started room member
    exact List.mem_map.2 ⟨(write.1, traffic), found, rfl⟩

end Room

section Sums

variable {window : Window} {dimension : Dimension}
  (h : s.Complete l) (orderly : s.Orderly lifespan) (zoned : l.query.zone = l.zone)
  (room : ∀ group d, bytesWhere (Group.ofKey dimension · = group) d
    (s.incrementsIn filter (window.hours l.zone)) ≤ Count.top)
include h orderly zoned room

/-- The sums by group of what a query finds are those of the increments. -/
theorem foundSums_eq :
    Query.foundSums l.query dimension filter (window.hours l.query.zone) s.world =
      .ofList ((s.incrementsIn filter (window.hours l.zone)).map fun write =>
        (Group.ofKey dimension write.1, write.2)) := by
  rw [zoned]
  refine Cold.Sums.ofList_totals (h.totals orderly zoned zoned.symm fun key d => ?_) _
  refine Nat.le_trans (bytesWhere_mono ?_ _) (room (Group.ofKey dimension key) d)
  rintro _ rfl
  rfl

theorem bytes_foundSums (group : Group) (d : Way) :
    (((Query.foundSums l.query dimension filter (window.hours l.query.zone)
      s.world)[group]?).getD 0).bytes d =
        bytesWhere (Group.ofKey dimension · = group) d
          (s.incrementsIn filter (window.hours l.zone)) := by
  rw [foundSums_eq h orderly zoned room, Cold.Sums.bytes_ofList, Cold.bytesWhere_map]
  exact Nat.min_eq_left (room group d)

theorem isSome_foundSums (group : Group) :
    ((Query.foundSums l.query dimension filter (window.hours l.query.zone)
      s.world)[group]?).isSome = true ↔
        ∃ write ∈ s.incrementsIn filter (window.hours l.zone),
          Group.ofKey dimension write.1 = group := by
  rw [foundSums_eq h orderly zoned room, Cold.Sums.isSome_ofList, List.map_map, List.mem_map]
  rfl

end Sums

end Complete

end Compaction.Stage

namespace Station

variable {l : Ledger}

/-- At the end of a calm run in which nothing expired unflushed, each tier is complete in its
part. -/
theorem complete_of_calm {grace : Int} (aligned : l.Aligned grace)
    (hour : 3600 * Instant.nanosPerSecond ≤ grace) {now : Instant} {schedule : List Choice}
    (calm : ∀ choice ∈ schedule, choice.IsCalm) {s : Station}
    (reached : (Station.empty l.emptyHotStore.lifespan now).play l schedule = s)
    (held : (Station.empty l.emptyHotStore.lifespan now).Throughout l (¬ ·.Abandons) schedule)
    (flushed : s.IsFlushed (l.query.boundaryAt s.world.now)) (rest : s.IsIdle ∨ s.IsStill) :
    s.Complete l := by
  have kept : ∀ {key : Key}, (∀ d, (s.tally key).accepted d ≤ Count.top) →
      s.IsKept key ∧ (s.IsIdle → ∀ d, (s.phase key).inTransit d = 0) := fun room =>
    kept_of_calm calm reached
      (held.mono fun s kept forfeits => kept (Stage.abandons_of_forfeits forfeits)) room
  refine ⟨hasCounters_of_calm calm reached, ?_, fun {key} room old d => ?_,
    fun {key} room zoned inside => ?_⟩
  · exact reached ▸ (throughout_dated (l := l) calm).last
  · obtain ⟨kept, still⟩ := kept room
    have still : ∀ d, (s.phase key).inTransit d = 0 := rest.elim still fun still => still key
    have clean : s.IsClean key := reached ▸ (throughout_clean key _ now calm).last
    exact kept.row_eq clean still (flushed.pendingOf_eq old) d
  · exact retains_in_window aligned hour calm reached zoned (aligned.boundary _ ▸ inside)
      (kept room).1.2

/-- At the end of a calm run both tiers can be read. -/
theorem readable_of_calm {lifespan : Int} {now : Instant} {schedule : List Choice}
    (calm : ∀ choice ∈ schedule, choice.IsCalm) {s : Station}
    (reached : (Station.empty lifespan now).play l schedule = s) :
    s.Orderly lifespan ∧ s.world.cold.isOffline = false ∧ Query.Keyed s.world.cold := by
  have grounded : s.Grounded := reached ▸ (throughout_grounded _ now calm).last
  exact ⟨reached ▸ (throughout_orderly (l := l) (orderly_empty _ now) schedule).last,
    grounded.online, (hasCounters_of_calm calm reached).keyed⟩

/-- Queries of a ledger are exact at every moment of a calm run at which nothing has expired
unflushed, nothing is pending before the retention window, and no drain is under way with bytes that
it has taken: every total and every sum of a group is what was counted in the hours of the window,
if the sums fit in a counter and the cold rows are within the cap. -/
theorem answers_exact {config : Config} {hasColdStore : Bool} {resolver : Resolver}
    (built : Ledger.build config hasColdStore resolver = .ok l)
    (fits : config.hot.recordTtlSecs * Instant.nanosPerSecond ≤ Side.longestSpan)
    (hour : 3600 ≤ config.hot.ttlGraceSecs) {now : Instant} {schedule : List Choice}
    (calm : ∀ choice ∈ schedule, choice.IsCalm) {s : Station}
    (reached : (Station.empty l.emptyHotStore.lifespan now).play l schedule = s)
    (held : (Station.empty l.emptyHotStore.lifespan now).Throughout l (¬ ·.Abandons) schedule)
    (flushed : s.IsFlushed (l.query.boundaryAt s.world.now)) (rest : s.IsIdle ∨ s.IsStill)
    {tag? : Option String} {filter : Option ResourceType}
    (parsed : tag?.mapM ResourceType.parse = .ok filter) (window : Window)
    (few : (Query.coldRows l.query filter (window.hours l.zone) s.world).length ≤
      config.query.rowCap) :
    ((∀ d, bytesWhere (fun _ => True) d (s.incrementsIn filter (window.hours l.zone)) ≤
        Count.top) →
      ∃ traffic, ((l.total tag? window).run.settle World.answer s.world).1 = .ok ⟨traffic, []⟩ ∧
        ∀ d, traffic.bytes d =
          bytesWhere (fun _ => True) d (s.incrementsIn filter (window.hours l.zone))) ∧
    ∀ dimension, (∀ group d, bytesWhere (Group.ofKey dimension · = group) d
        (s.incrementsIn filter (window.hours l.zone)) ≤ Count.top) →
      ∃ sums : Cold.Sums Group,
        (∀ group, (sums[group]?).isSome = true ↔
          ∃ write ∈ s.incrementsIn filter (window.hours l.zone),
            Group.ofKey dimension write.1 = group) ∧
        (∀ group d, ((sums[group]?).getD 0).bytes d =
          bytesWhere (Group.ofKey dimension · = group) d
            (s.incrementsIn filter (window.hours l.zone))) ∧
        ∀ page page', Page.of page.number (min page.size config.query.maxPageSize) = .ok page' →
          ((l.grouped dimension tag? window page).run.settle World.answer s.world).1 =
            (Query.resolve l.query (page'.slice (Group.ranked sums.toList))).map fun rows =>
              ⟨⟨rows, sums.size, page'.number, page'.size⟩, []⟩ := by
  have aligned := Ledger.aligned_of_build built fits
  have query := (Ledger.of_build built).2.2.2
  have zoned : l.query.zone = l.zone := congrArg Query.Settings.zone query
  have config' : l.query.config = config.query := congrArg Query.Settings.config query
  have grace : 3600 * Instant.nanosPerSecond ≤
      config.hot.ttlGraceSecs * Instant.nanosPerSecond := by
    simp only [Instant.nanosPerSecond]
    omega
  have complete := complete_of_calm aligned grace calm reached held flushed rest
  obtain ⟨orderly, online, keyed⟩ := readable_of_calm calm reached
  rw [← config', ← zoned] at few
  refine ⟨fun room => ?_, fun dimension room => ?_⟩
  · -- all keys are in the one group of the platform
    have all : ∀ d, bytesWhere (Group.ofKey .platform · = Group.total) d
        (s.incrementsIn filter (window.hours l.zone)) = bytesWhere (fun _ => True) d _ := fun d =>
      Nat.le_antisymm (bytesWhere_mono (fun _ _ => trivial) _) (bytesWhere_mono (fun _ _ => rfl) _)
    have room : ∀ group d, bytesWhere (Group.ofKey .platform · = group) d
        (s.incrementsIn filter (window.hours l.zone)) ≤ Count.top := fun group d =>
      Nat.le_trans (bytesWhere_mono (fun _ _ => trivial) _) (room d)
    refine ⟨_, (Ledger.settle_total parsed window).trans
      (Query.settle_total orderly.scheduled online keyed few), fun d => ?_⟩
    rw [complete.bytes_foundSums orderly zoned room, all]
  · refine ⟨_, complete.isSome_foundSums orderly zoned room,
      complete.bytes_foundSums orderly zoned room, fun page page' paged => ?_⟩
    rw [← config'] at paged
    exact (Ledger.settle_grouped parsed dimension window page).trans
      (Query.settle_grouped orderly.scheduled online keyed few paged)

/-- A day after two resources were counted and flushed, the hour of the first has left the window
and that of the second has not. Both are live in the hot store and have a row in the cold store, and
a total over both days has each of them once. -/
theorem total_after_a_day :
    let zone : Zone := { offset := 28800 }
    let first : Key := ⟨⟨zone, 474804⟩, 1, .node, 1⟩
    let second : Key := ⟨⟨zone, 474805⟩, 1, .node, 2⟩
    let l : Ledger := {
      config := {}, zone, compaction := ⟨zone, 86400000000000, {}⟩
      query := ⟨zone, 86400000000000, {}, .passthrough⟩
      quota := ⟨"traffic", 2678400000000000⟩
      alert := ⟨"traffic", [80, 90, 100], 2678400000000000⟩ }
    let window : Window := ⟨.ofSeconds 1709266200, .ofSeconds 1709355600, by decide⟩
    let s := (Station.empty l.emptyHotStore.lifespan (.ofSeconds 1709266200)).play l
      (.occasion (.report 0 ⟨1, "node", 1, .ofNats 10 10⟩) :: .round false :: (Choice.moves 17 ++
        .occasion (.incident (.passing 3000000000000)) ::
        .occasion (.report 0 ⟨1, "node", 2, .ofNats 5 7⟩) :: .round false :: (Choice.moves 17 ++
        [.occasion (.incident (.passing 86400000000000)),
          .occasion (.report 0 ⟨2, "node", 1, .ofNats 25 0⟩)])))
    Ledger.build {} true .passthrough = .ok l ∧
      first.bucket < l.query.boundaryAt s.world.now ∧
      l.query.boundaryAt s.world.now = second.bucket ∧
      (s.row first = .ofNats 10 10 ∧ s.row second = .ofNats 5 7) ∧
      ((s.live? first).isSome = true ∧ (s.live? second).isSome = true) ∧
      ((l.total (some "node") window).run.settle World.answer s.world).1 =
        .ok ⟨.ofNats 40 17, []⟩ ∧
      ∃ sums : Cold.Sums Group, (sums[Group.resource .node 1]?).getD 0 = .ofNats 35 10 ∧
        ((l.grouped .resource (some "node") window ⟨1, 20⟩).run.settle World.answer s.world).1 =
          (Query.resolve l.query (Page.slice ⟨1, 20⟩ (Group.ranked sums.toList))).map fun rows =>
            ⟨⟨rows, sums.size, 1, 20⟩, []⟩ := by
  intro zone first second l window s
  have built : Ledger.build {} true .passthrough = .ok l :=
    Ledger.build_eq (by decide +kernel) rfl rfl
  refine ⟨built, by decide +kernel, by decide +kernel, by decide +kernel, by decide +kernel, ?_⟩
  have room : ∀ d, bytesWhere (fun _ => True) d
      (s.incrementsIn (some .node) (window.hours l.zone)) ≤ Count.top := by decide +kernel
  have parsed : (some "node").mapM ResourceType.parse = .ok (some .node) := rfl
  obtain ⟨total, grouped⟩ := answers_exact built (by decide +kernel) (by decide +kernel) (s := s)
    (by decide +kernel) rfl (by decide +kernel) (by decide +kernel) (.inl (by decide +kernel))
    parsed window (by decide +kernel)
  obtain ⟨traffic, told, bytes⟩ := total room
  obtain ⟨sums, -, bytes', page⟩ := grouped .resource fun group d =>
    Nat.le_trans (bytesWhere_mono (fun _ _ => trivial) _) (room d)
  refine ⟨?_, sums, Traffic.ext_bytes fun d => ?_, page ⟨1, 20⟩ _ rfl⟩
  · have all : traffic = .ofNats 40 17 := by
      refine Traffic.ext_bytes fun d => ?_
      rw [bytes]
      cases d <;> decide +kernel
    rw [told, all]
  · rw [bytes']
    cases d <;> decide +kernel

/-- A cycle may flush one key at a time, so that a round goes on to drain an hour with a record that
is pending. When it has taken the hour out of the hot store and not yet written what was pending, these
bytes are in neither tier. Nothing has expired and nothing is pending before the retention window, but
a total over the hour leaves them out. -/
theorem total_within_round :
    let zone : Zone := { offset := 28800 }
    let key : Key := ⟨⟨zone, 474804⟩, 1, .node, 2⟩
    let l : Ledger := {
      config := { compaction := { maxKeysPerCycle := 1 } }
      zone, compaction := ⟨zone, 86400000000000, { maxKeysPerCycle := 1 }⟩
      query := ⟨zone, 86400000000000, {}, .passthrough⟩
      quota := ⟨"traffic", 2678400000000000⟩
      alert := ⟨"traffic", [80, 90, 100], 2678400000000000⟩ }
    let window : Window := ⟨.ofSeconds 1709265600, .ofSeconds 1709269199, by decide⟩
    let start := Station.empty l.emptyHotStore.lifespan (.ofSeconds 1709266200)
    let schedule := .occasion (.report 0 ⟨1, "node", 1, .ofNats 10 10⟩) ::
      .occasion (.report 0 ⟨1, "node", 2, .ofNats 5 7⟩) ::
      .occasion (.incident (.passing 89700000000000)) :: .round false :: Choice.moves 19
    let s := start.play l schedule
    Ledger.build { compaction := { maxKeysPerCycle := 1 } } true .passthrough = .ok l ∧
      l.config.hot.recordTtlSecs * Instant.nanosPerSecond ≤ Side.longestSpan ∧
      3600 ≤ l.config.hot.ttlGraceSecs ∧
      (∀ choice ∈ schedule, choice.IsCalm) ∧ start.Throughout l (¬ ·.Abandons) schedule ∧
      s.IsFlushed (l.query.boundaryAt s.world.now) ∧
      (Query.coldRows l.query none (window.hours l.zone) s.world).length ≤ l.config.query.rowCap ∧
      (∀ d, (s.phase key).inTransit d = (Traffic.ofNats 5 7).bytes d) ∧
      (∀ d, bytesWhere (fun _ => True) d (s.incrementsIn none (window.hours l.zone)) =
        (Traffic.ofNats 15 17).bytes d) ∧
      ((l.total none window).run.settle World.answer s.world).1 = .ok ⟨.ofNats 10 10, []⟩ := by
  intro zone key l window start schedule s
  have built : Ledger.build { compaction := { maxKeysPerCycle := 1 } } true .passthrough = .ok l :=
    Ledger.build_eq (by decide +kernel) rfl rfl
  have calm : ∀ choice ∈ schedule, choice.IsCalm := by decide +kernel
  have few : (Query.coldRows l.query none (window.hours l.zone) s.world).length ≤
      l.config.query.rowCap := by decide +kernel
  have found : ((Query.foundSums l.query .platform none (window.hours l.query.zone)
    s.world)[Group.total]?).getD 0 = .ofNats 10 10 := by decide +kernel
  refine ⟨built, by decide +kernel, by decide +kernel, calm, by decide +kernel, by decide +kernel,
    few, by decide +kernel, by decide +kernel, ?_⟩
  obtain ⟨orderly, online, keyed⟩ := readable_of_calm calm (rfl : _ = s)
  rw [← found]
  exact (Ledger.settle_total rfl window).trans
    (Query.settle_total orderly.scheduled online keyed few)

end Station

end Metering

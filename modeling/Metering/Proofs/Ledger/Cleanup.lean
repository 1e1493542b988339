import Metering.Proofs.Compaction.Trimming
import Metering.Proofs.Hot.Seeding
import Metering.Proofs.Ledger.Absence
import Metering.Proofs.Program.Always

/-!
# Cleaning up a resource

A resource is removed from every bucket that the hot store lists. Each live record stands in the
index of its bucket, so none is missed, and the listing drops what has expired, so no expired record
is counted. Other keys are left alone. Time may pass between the calls.

Results:
1. `always_cleanupEverywhere`: what a cleanup removes, what it leaves and what it tells.
2. `cleanup_is_complete`: at a ledger in any state, with any work under way. The removed keys stay
   out of sight of what comes later, until they are counted or seeded again.
3. `seeded_after_cleanup`: a seed brings a removed key back.
-/

namespace Metering

/-! ## Removing several keys -/

namespace Hot.Store

variable {s : Store} {now : Instant} {key : Key} {keys : List Key}

/-- Removes some keys. -/
def forgetAll (s : Store) (keys : List Key) : Store := keys.foldl (fun s key => (s.forget key).2) s

theorem records_forgetAll (s : Store) (keys : List Key) (key : Key) :
    (s.forgetAll keys).records[key]? = if key ∈ keys then none else s.records[key]? := by
  unfold forgetAll
  induction keys generalizing s with
  | nil => simp
  | cons head keys ih =>
    rw [List.foldl_cons, ih, records_forget]
    by_cases same : key = head
    · simp [same]
    · simp [same]

theorem mem_active_forgetAll : key ∈ (s.forgetAll keys).active ↔ key ∉ keys ∧ key ∈ s.active := by
  unfold forgetAll
  induction keys generalizing s with
  | nil => simp
  | cons head keys ih =>
    rw [List.foldl_cons, ih, forget, (sameIndex_dropRecord ..).active, List.mem_cons, not_or,
      and_assoc, and_left_comm]
    exact and_congr_right fun _ => mem_active_deactivate

theorem activeExpiry_forgetAll (s : Store) (keys : List Key) :
    (s.forgetAll keys).activeExpiry = s.activeExpiry := by
  unfold forgetAll
  induction keys generalizing s with
  | nil => rfl
  | cons head keys ih =>
    rw [List.foldl_cons, ih]
    exact (sameIndex_dropRecord ..).activeExpiry

theorem Scheduled.forgetAll (hs : s.Scheduled) (keys : List Key) :
    (s.forgetAll keys).Scheduled := by
  unfold Store.forgetAll
  induction keys generalizing s with
  | nil => exact hs
  | cons head keys ih => exact ih (hs.forget head)

theorem nodup_activeBuckets (s : Store) (now : Instant) : (s.activeBuckets now).1.Nodup := by
  unfold activeBuckets
  refine List.Pairwise.filterMap _ ?_ (s.expire now).buckets.distinct_keys_toList
  rintro ⟨a, index⟩ ⟨b, index'⟩ distinct _ told _ told'
  obtain ⟨-, ⟨⟩⟩ := Option.ite_none_left_eq_some.1 told
  obtain ⟨-, ⟨⟩⟩ := Option.ite_none_left_eq_some.1 told'
  rintro rfl
  exact distinct Std.ReflOrd.compare_self

end Hot.Store

/-- The key counts a resource of a subscription, in some bucket. -/
structure Key.Counts (subscription : Id) (type : ResourceType) (resource : Id) (key : Key) :
    Prop where
  subscription : key.subscription = subscription
  type : key.type = type
  resource : key.resource = resource

/-- A resource has one key in each bucket. -/
theorem Key.counts_iff {subscription resource : Id} {type : ResourceType} (bucket : Bucket)
    (key : Key) : Key.Counts subscription type resource key ↔
      key = Key.inBucket ⟨bucket, subscription, type, resource⟩ key.bucket := by
  constructor
  · rintro ⟨rfl, rfl, rfl⟩
    rfl
  · intro own
    rw [own]
    exact ⟨rfl, rfl, rfl⟩

/-- The same world at a later time. -/
def World.Waits (w t : World) : Prop := ∃ nanos : Nat, t = { w with now := w.now.addNanos nanos }

theorem World.Waits.refl (w : World) : w.Waits w := by
  refine ⟨0, ?_⟩
  rw [Instant.addNanos, Int.natCast_zero, Int.add_zero]

namespace Ledger

open Program

variable {current : Key} {w : World}

/-- A removal from some buckets forgets their keys, and tells how many had records. -/
theorem always_cleanupBuckets {buckets : List Bucket}
    (nodup : (buckets.map current.inBucket).Nodup) (removed : Nat) (memory : Compactor) :
    Always World.answer World.Waits (cleanupBuckets current buckets removed memory) w
      fun result t => w.now ≤ t.now ∧ t.hot = w.hot.forgetAll (buckets.map current.inBucket) ∧
        t.cold = w.cold ∧ t.side = w.side ∧
        result.2 = .ok (removed + (buckets.map current.inBucket).countP fun key =>
          (w.hot.records[key]?).isSome) := by
  induction buckets generalizing removed memory w with
  | nil => exact ⟨Int.le_refl _, rfl, rfl, rfl, rfl⟩
  | cons bucket buckets ih =>
    rw [List.map_cons, List.nodup_cons] at nodup
    unfold cleanupBuckets cleanup
    rintro _ ⟨nanos, rfl⟩
    refine (ih nodup.2 _ _).mono ?_
    rintro result t ⟨later, hot, cold, side, told⟩
    refine ⟨?_, hot, cold, side, ?_⟩
    · exact Int.le_trans (Int.le_add_of_nonneg_right (Int.natCast_nonneg nanos)) later
    · -- the keys of the other buckets are not touched by this removal
      have rest : (buckets.map current.inBucket).countP (fun key =>
          (((w.hot.forget (current.inBucket bucket)).2).records[key]?).isSome) =
          (buckets.map current.inBucket).countP fun key => (w.hot.records[key]?).isSome := by
        refine List.countP_congr fun key member => ?_
        have other : key ≠ current.inBucket bucket := fun same => nodup.1 (same ▸ member)
        rw [Hot.Store.records_forget, if_neg other]
      refine told.trans (congrArg Except.ok ?_)
      change removed + (w.hot.records[current.inBucket bucket]?).isSome.toNat +
        (buckets.map current.inBucket).countP (fun key =>
          (((w.hot.forget (current.inBucket bucket)).2).records[key]?).isSome) = _
      rw [rest, List.map_cons, List.countP_cons]
      cases (w.hot.records[current.inBucket bucket]?).isSome with
      | false => simp
      | true => simp only [Bool.toNat_true, if_true]; omega

/-- What a cleanup that begins at `w` and lists the buckets at `listed` has left at `t`. Some keys
are removed, which are just those of the resource that were live. -/
structure Cleaned (owns : Key → Prop) (w : World) (listed : Instant) (keys : List Key) (t : World) :
    Prop where
  within : w.now ≤ listed ∧ listed ≤ t.now
  nodup : keys.Nodup
  mem_keys : ∀ key, key ∈ keys ↔ owns key ∧ (w.hot.live? listed key).isSome = true
  removed : ∀ key, owns key → t.hot.records[key]? = none
  inactive : ∀ key ∈ keys, key ∉ t.hot.active
  kept : ∀ key, ¬ owns key → ∀ later, listed ≤ later →
    t.hot.live? later key = w.hot.live? later key
  active : ∀ key, ¬ owns key → ∀ later, listed ≤ later →
    (t.hot.isActive later key).1 = (w.hot.isActive later key).1
  scheduled : t.hot.Scheduled
  cold : t.cold = w.cold
  side : t.side = w.side

/-- The keys of a resource in the buckets that are listed. -/
def keysListed (current : Key) (hot : Hot.Store) (listed : Instant) : List Key :=
  (hot.activeBuckets listed).1.map current.inBucket

theorem nodup_keysListed (current : Key) (hot : Hot.Store) (listed : Instant) :
    (keysListed current hot listed).Nodup := by
  refine List.Pairwise.map _ ?_ (Hot.Store.nodup_activeBuckets hot listed)
  exact fun a b distinct same => distinct (congrArg Key.bucket same)

/-- No live record of the resource is missed. -/
theorem mem_keysListed {hot : Hot.Store} {listed : Instant} (indexed : hot.Indexed listed)
    {key : Key} (own : key = current.inBucket key.bucket) (live : hot.live? listed key ≠ none) :
    key ∈ keysListed current hot listed := by
  obtain ⟨entry, live⟩ := Option.ne_none_iff_exists'.1 live
  have member := Hot.Store.mem_activeBuckets.2 ⟨key, indexed.mem_membersOf live⟩
  exact List.mem_map.2 ⟨key.bucket, member, own.symm⟩

/-- The store after a cleanup. -/
theorem cleaned_forgetAll {owns : Key → Prop} {listed : Instant} {t : World}
    (owned : ∀ key, owns key ↔ key = current.inBucket key.bucket) (hs : w.hot.Scheduled)
    (indexed : w.hot.Indexed listed) (within : w.now ≤ listed ∧ listed ≤ t.now)
    (hot : t.hot = (w.hot.expire listed).forgetAll (keysListed current w.hot listed))
    (cold : t.cold = w.cold) (side : t.side = w.side) :
    Cleaned owns w listed ((keysListed current w.hot listed).filter fun key =>
      (w.hot.live? listed key).isSome) t := by
  have owns_of_mem : ∀ key ∈ keysListed current w.hot listed, owns key := by
    intro key member
    obtain ⟨bucket, -, rfl⟩ := List.mem_map.1 member
    exact (owned _).2 rfl
  have records (key : Key) : t.hot.records[key]? =
      if key ∈ keysListed current w.hot listed then none else w.hot.live? listed key := by
    rw [hot, Hot.Store.records_forgetAll, Hot.Store.records_expire hs]
  refine ⟨within, (nodup_keysListed ..).filter _, fun key => ?_, fun key own => ?_,
    fun key member => ?_, fun key other later le => ?_, fun key other later le => ?_, ?_,
    cold, side⟩
  · rw [List.mem_filter]
    refine and_congr_left fun live => ⟨owns_of_mem key, fun own => ?_⟩
    exact mem_keysListed indexed ((owned key).1 own) (Option.isSome_iff_ne_none.1 live)
  · rw [records]
    split
    · rfl
    · next unlisted =>
      exact Classical.byContradiction fun live =>
        unlisted (mem_keysListed indexed ((owned key).1 own) live)
  · rw [hot, Hot.Store.mem_active_forgetAll]
    exact fun still => still.1 (List.mem_filter.1 member).1
  · rw [Hot.Store.live?, records, if_neg fun member => other (owns_of_mem key member),
      Hot.Store.live?_later le]
  · have unlisted : key ∉ keysListed current w.hot listed :=
      fun member => other (owns_of_mem key member)
    rw [Bool.eq_iff_iff, Hot.Store.isActive_fst, Hot.Store.isActive_fst,
      ← Hot.Store.active_expire_expire w.hot le, Hot.Store.mem_active_expire,
      Hot.Store.mem_active_expire, Hot.Store.Overdue, Hot.Store.Overdue, hot,
      Hot.Store.mem_active_forgetAll, Hot.Store.activeExpiry_forgetAll, and_iff_right unlisted]
  · exact hot ▸ (hs.expire listed).forgetAll _

theorem cleaned_cleanupBuckets {owns : Key → Prop}
    (owned : ∀ key, owns key ↔ key = current.inBucket key.bucket)
    (enumerable : w.hot.Enumerable w.now) (memory : Compactor) {listed : Instant}
    (le : w.now ≤ listed) :
    Always World.answer World.Waits (cleanupBuckets current (w.hot.activeBuckets listed).1 0 memory)
      { w with now := listed, hot := w.hot.expire listed } fun result t =>
        ∃ keys, Cleaned owns w listed keys t ∧ result.2 = .ok keys.length := by
  refine (always_cleanupBuckets (nodup_keysListed ..) 0 memory).mono ?_
  rintro result t ⟨later, hot, cold, side, told⟩
  refine ⟨_, cleaned_forgetAll owned enumerable.scheduled (enumerable.indexed.pass le) ⟨le, later⟩
    hot cold side, told.trans (congrArg Except.ok ?_)⟩
  simp only [Nat.zero_add, List.countP_eq_length_filter,
    Hot.Store.records_expire enumerable.scheduled]
  rfl

variable {subscription resource : Id} {tag : String} {type : ResourceType}

theorem currentKey_of_valid (l : Ledger) (valid : ResourceType.parse tag = .ok type) :
    l.currentKey subscription tag resource = do
      return .ok ⟨l.zone.bucketOf (← Procedure.now), subscription, type, resource⟩ := by
  unfold currentKey
  simp only [Key.ofTag, valid]
  rfl

/-- A cleanup removes the live records of its resource and tells how many there were. -/
theorem always_cleanupEverywhere (l : Ledger) (valid : ResourceType.parse tag = .ok type)
    (enumerable : w.hot.Enumerable w.now) (memory : Compactor) :
    Always World.answer World.Waits (l.cleanupEverywhere memory subscription tag resource) w
      fun result t => ∃ listed keys,
        Cleaned (Key.Counts subscription type resource) w listed keys t ∧
          result.2 = .ok keys.length := by
  unfold cleanupEverywhere
  rw [currentKey_of_valid l valid]
  rintro _ ⟨nanos, rfl⟩
  rintro _ ⟨more, rfl⟩
  have le (n : Nat) (t : Instant) : t ≤ t.addNanos n :=
    Int.le_add_of_nonneg_right (Int.natCast_nonneg n)
  have within := Int.le_trans (le nanos w.now) (le more (w.now.addNanos nanos))
  refine (cleaned_cleanupBuckets (Key.counts_iff _) enumerable memory within).mono ?_
  exact fun result t cleaned => ⟨_, cleaned⟩

end Ledger

/-! ## Stations -/

namespace Station

open Compaction Program

variable {l : Ledger}

theorem enumerable_play (lifespan : Int) (start : Instant) (schedule : List Choice) :
    let s := (empty lifespan start).play l schedule
    s.world.hot.Enumerable s.world.now := by
  have fit : ∀ choice ∈ schedule, (fun _ => True) choice := fun _ _ => trivial
  have orderly : (empty lifespan start).Throughout l (Stage.Orderly lifespan) schedule :=
    throughout (fun _ held => held.attend l _)
      (fun _ held => ⟨held.scheduled, held.indexed, held.lifespan⟩)
      (fun _ _ request _ held => held.answer _ request) fit
      ⟨Hot.Store.scheduled_empty lifespan, Hot.Store.indexed_empty lifespan start, rfl⟩
  exact ⟨orderly.last.scheduled, orderly.last.indexed⟩

/-- What is told of a key that stays away after a cleanup: nothing. -/
structure Vanished (base : List Occurrence) (key : Key) (removed : Prop) (s : Stage) : Prop where
  /-- The snapshot of a key finds no record. -/
  snapshot : ∀ now, s.world.hot.snapshot now [key] = [none]
  /-- No enumeration of a bucket finds one. -/
  readBucket : ∀ now bucket, ∀ r ∈ (s.world.hot.readBucket now bucket).1, r.key ≠ key
  /-- A key that was removed is not active. -/
  activeKeys : removed → ∀ now limit, key ∉ (s.world.hot.activeKeys now limit).1
  /-- The work has not found it. -/
  quiet : Quiet key removed (since base s.log)

theorem vanished_of_absent {base : List Occurrence} {key : Key} {removed : Prop} {s : Stage}
    (hs : s.world.hot.Scheduled) (absent : s.Absent base key removed) :
    Vanished base key removed s := by
  refine ⟨fun now => ?_, fun now bucket r told => absent.lacks.key_ne_of_mem hs told,
    fun gone => Hot.Store.not_mem_activeKeys (absent.lacks.inactive gone), absent.quiet⟩
  rw [Hot.Store.snapshot, List.map_singleton, absent.lacks.live? now]
  rfl

/-- The station after a cleanup has left a world and a memory. -/
def cleaned (s : Station) (world : World) (memory : Compactor) : Station :=
  { s with world, memory := (s.memory.1, memory) }

theorem live?_cleaned (s : Station) (world : World) (memory : Compactor) (key : Key) :
    (s.cleaned world memory).live? key = world.hot.live? world.now key := rfl

/-- A cleanup at a ledger in any state, with any work under way. It removes every live record of its
resource, in every bucket, tells how many there were when the buckets were listed, and leaves all
other keys, their markers and the active index as they were. The resource then stays away from all
that happens later, until one of its keys is counted or seeded again. -/
theorem cleanup_is_complete {lifespan : Int} {start : Instant} {schedule : List Choice}
    {s : Station} (reached : (empty lifespan start).play l schedule = s)
    (subscription resource : Id) {tag : String} {type : ResourceType}
    (valid : ResourceType.parse tag = .ok type) :
    Always World.answer World.Waits (l.cleanupEverywhere s.memory.2 subscription tag resource)
      s.world fun result world => ∃ listed keys,
        Ledger.Cleaned (Key.Counts subscription type resource) s.world listed keys world ∧
        result.2 = .ok keys.length ∧
        ∀ key, Key.Counts subscription type resource key → ∀ later : List Choice,
          let t := s.cleaned world result.1
          (∀ o ∈ since t.log (t.play l later).log, ¬ o.Renews key) →
            Vanished t.log key (key ∈ keys) (t.play l later).toStage := by
  subst reached
  refine (l.always_cleanupEverywhere valid (enumerable_play lifespan start schedule) _).mono ?_
  rintro result world ⟨listed, keys, cleaned, told⟩
  refine ⟨listed, keys, cleaned, told, ?_⟩
  intro key own later t still
  have lacks : t.world.hot.Lacks key (key ∈ keys) := ⟨cleaned.removed key own, cleaned.inactive key⟩
  have working : Invariant.Working (protocol key .any) (Stage.phase key) (Ended False) t :=
    working_play lifespan start schedule key
  refine vanished_of_absent ?_ (absent_of_play cleaned.scheduled working lacks still)
  exact (throughout_scheduled cleaned.scheduled later).last

/-- One of a node's records has expired and two are live. The cleanup removes and counts these two,
and the cycle that follows flushes the other node only. -/
theorem cleanup_of_a_node :
    let key (hour : Int) (node : Id) : Key := ⟨⟨default, hour⟩, 1, .node, node⟩
    let c : Settings := { zone := default, retention := 3600000000000, config := {} }
    let l : Ledger := {
      config := {}, zone := default, compaction := c, quota := ⟨"traffic", 0⟩
      query := ⟨default, 86400000000000, {}, .passthrough⟩, alert := ⟨"traffic", [], 0⟩ }
    let schedule : List Choice := [
      .occasion (.incident (.arrival (key 474790 1) (.ofNats 1 1))),
      .occasion (.incident (.passing 10800000000000)),
      .occasion (.incident (.arrivals [(key 474798 1, .ofNats 10 10),
        (key 474799 1, .ofNats 20 20), (key 474799 2, .ofNats 30 30)]))]
    let s := (empty 10800000000000 (.ofSeconds 1709266200)).play l schedule
    let run := (l.cleanupEverywhere s.memory.2 1 "node" 1).settle World.answer s.world
    let t := s.cleaned run.2 run.1.1
    let u := t.play l (.cycle false :: Choice.moves 40)
    ResourceType.parse "node" = .ok .node ∧ run.1.2 = .ok 2 ∧
      t.live? (key 474799 2) = s.live? (key 474799 2) ∧
      Vanished t.log (key 474799 1) True u.toStage ∧
      u.memory.2.stats.last.map (·.flushed) = some 1 := by
  intro key c l schedule s run t u
  have valid : ResourceType.parse "node" = .ok .node := by decide +kernel
  have count : run.1.2 = .ok 2 := by decide +kernel
  -- no time passes between the calls of the cleanup
  have still : run.2.now = s.world.now := by decide +kernel
  have live : (s.world.hot.live? s.world.now (key 474799 1)).isSome = true := by decide +kernel
  have unrenewed : ∀ o ∈ since t.log u.log, ¬ o.Renews (key 474799 1) := by decide +kernel
  have flushed : u.memory.2.stats.last.map (·.flushed) = some 1 := by decide +kernel
  have other : ¬ Key.Counts 1 .node 1 (key 474799 2) := fun own => absurd own.resource (by decide)
  -- from here on the run is known by these facts only
  have reached : (empty 10800000000000 (.ofSeconds 1709266200)).play l schedule = s := rfl
  have ran : (l.cleanupEverywhere s.memory.2 1 "node" 1).settle World.answer s.world = run := rfl
  have cleared : s.cleaned run.2 run.1.1 = t := rfl
  have played : t.play l (.cycle false :: Choice.moves 40) = u := rfl
  clear_value u t run s
  have result := Always.settle World.Waits.refl (cleanup_is_complete reached 1 1 valid)
  rw [ran] at result
  obtain ⟨listed, keys, cleaned, -, gone⟩ := result
  have instant : listed = s.world.now :=
    Instant.ext (Int.le_antisymm (still ▸ cleaned.within.2) cleaned.within.1)
  have removed : key 474799 1 ∈ keys := (cleaned.mem_keys _).2 ⟨⟨rfl, rfl, rfl⟩, instant ▸ live⟩
  have vanished := gone (key 474799 1) ⟨rfl, rfl, rfl⟩ (.cycle false :: Choice.moves 40)
  simp only [cleared, played] at vanished
  refine ⟨valid, count, ?_, eq_true removed ▸ vanished unrenewed, flushed⟩
  rw [← cleared, live?_cleaned, still]
  exact cleaned.kept _ other _ (Int.le_of_eq (congrArg Instant.nanos instant))

/-- A baseline is no traffic, yet a removed key has a record again when one is seeded. -/
theorem seeded_after_cleanup :
    let key : Key := ⟨⟨default, 474804⟩, 1, .node, 1⟩
    let c : Settings := { zone := default, retention := 3600000000000, config := {} }
    let l : Ledger := {
      config := {}, zone := default, compaction := c, quota := ⟨"traffic", 0⟩
      query := ⟨default, 86400000000000, {}, .passthrough⟩, alert := ⟨"traffic", [], 0⟩ }
    let s := (empty 10800000000000 (.ofSeconds 1709266200)).play l
      [.occasion (.incident (.arrival key (.ofNats 10 10)))]
    let run := (l.cleanupEverywhere s.memory.2 1 "node" 1).settle World.answer s.world
    let t := (s.cleaned run.2 run.1.1).play l [.occasion (.incident (.seeding key (.ofNats 5 5)))]
    run.1.2 = .ok 1 ∧ run.2.hot.snapshot run.2.now [key] = [none] ∧
      t.world.hot.snapshot t.world.now [key] = [some ⟨key, .ofNats 5 5, .ofNats 5 5⟩] := by
  decide +kernel

end Station

end Metering

import Metering.Proofs.Outage
import Metering.Proofs.Program.Steady
import Metering.Proofs.Query.Reading

/-!
# Sums that are exact or flagged

The sums of a query are made of the rows that lie before the retention window, the first of them up
to the row cap, and of the live records from there on, up to the current hour. Rows that were left
out and hours that could not be read are told in the warnings, and the warnings tell nothing else. A
cold read that fails fails the query.

The reads run side by side and come in in any order. None of them changes what the others find, so
the order does not show.

Results: `merged_exact_or_flagged`.
-/

namespace Metering

open Program (Steady Reaches)

/-- The reads of a bucket fail. -/
def Outage.isDown (o : Outage) (bucket : Bucket) : Bool :=
  (o.failure? (.hot (.readBucket bucket))).isSome

namespace Query

/-! ## What there is to read -/

section Parts

variable (c : Settings) (o : Outage) (dimension : Dimension) (filter : Option ResourceType)
  (range : BucketRange) (w : World)

/-- The rows of a range before the retention window that pass a filter and have a group, in the
order of hours and targets. -/
def matchingRows : List Cold.Row :=
  (coldRows c filter range w).filter fun row => (row.1.target.group? dimension).isSome

/-- What the cold tier has: the first of the matching rows, up to the row cap. -/
def coldParts : List (Group × Traffic) :=
  ((matchingRows c dimension filter range w).take c.config.rowCap).filterMap fun (key, traffic) =>
    (key.target.group? dimension).map (·, traffic)

/-- The hours of a range that the hot tier serves: from the retention window on, and none after the
current one. -/
def servedHours : List Bucket :=
  range.buckets.filter fun bucket =>
    c.boundaryAt w.now ≤ bucket && bucket < (c.zone.bucketOf w.now).next

/-- What the hot tier has: the live records of the served hours that can be read. -/
def hotParts : List (Group × Traffic) :=
  (w.hot.records.toList.filter fun (key, entry) =>
    w.now < entry.expiry && Cold.passes filter key.type &&
      key.bucket ∈ servedHours c range w && !o.isDown key.bucket).map fun (key, entry) =>
        (Group.ofKey dimension key, entry.traffic)

/-- Number of served hours that cannot be read. -/
def failedReads : Nat := (servedHours c range w).countP o.isDown

/-- How the read of the cold part fails, if there is a cold part and its read fails. -/
def coldFailure? : Option Error :=
  (range.splitAt (c.boundaryAt w.now)).1.bind fun part =>
    (o.failure? (.cold (.sumByGroup (coldQuery c dimension filter part)))).or
      (if w.cold.isOffline then some Cold.Store.offlineError else none)

/-- What the sums may lack. -/
def lacks : List Warning :=
  (if c.config.rowCap < (matchingRows c dimension filter range w).length then
    [.rowCapExceeded (matchingRows c dimension filter range w).length c.config.rowCap] else []) ++
  (if 0 < failedReads c o range w then [.hotDegraded (failedReads c o range w)] else [])

end Parts

variable {c : Settings} {o : Outage} {dimension : Dimension} {filter : Option ResourceType}
  {range : BucketRange} {w w₀ : World}

/-! ## Reads -/

/-- A world in which nothing was written: reads drop what has expired, and report. -/
structure AsFound (w₀ w : World) : Prop where
  now : w.now = w₀.now
  cold : w.cold = w₀.cold
  scheduled : w.hot.Scheduled
  records : ∀ bucket,
    (w.hot.expire w.now).recordsOf bucket = (w₀.hot.expire w₀.now).recordsOf bucket

theorem asFound_self (scheduled : w.hot.Scheduled) : AsFound w w :=
  ⟨rfl, rfl, scheduled, fun _ => rfl⟩

/-- The answer to a read of a bucket. -/
def bucketRead (o : Outage) (w : World) (bucket : Bucket) : Except Error (List Hot.Record) :=
  match o.failure? (.hot (.readBucket bucket)) with
  | some e => .error e
  | none => .ok ((w.hot.expire w.now).recordsOf bucket)

/-- The answer to a read of the cold tier. -/
def coldRead (o : Outage) (w : World) {α : Type} (request : Cold.Request α) : Except Error α :=
  match o.failure? (.cold request) with
  | some e => .error e
  | none => (w.cold.answer request).1

theorem steady_now : Steady o.answer (AsFound w₀) Procedure.now (· = w₀.now) := by
  refine Steady.ask fun w found => ?_
  cases failure : o.failure? .now <;>
    simpa [Outage.answer, Compaction.Stage.reply, failure, World.answer] using ⟨found, found.now⟩

theorem steady_record (event : Event) :
    Steady o.answer (AsFound w₀) (Procedure.record event) fun _ => True := by
  refine Steady.ask fun w found => ⟨?_, trivial⟩
  cases failure : o.failure? (.record event) <;>
    simpa [Outage.answer, Compaction.Stage.reply, failure, World.answer] using
      ⟨found.now, found.cold, found.scheduled, found.records⟩

theorem steady_readBucket (bucket : Bucket) :
    Steady o.answer (AsFound w₀) (Procedure.hot (.readBucket bucket))
      (bucketRead o w₀ bucket = ·) := by
  refine Steady.ask fun w found => ?_
  unfold Outage.answer bucketRead
  cases o.failure? (.hot (.readBucket bucket)) with
  | some e => exact ⟨found, rfl⟩
  | none =>
    refine ⟨⟨found.now, found.cold, found.scheduled.expire w.now, fun b => ?_⟩, ?_⟩
    · exact (Hot.Store.recordsOf_expire_expire found.scheduled w.now b).trans (found.records b)
    · exact congrArg Except.ok (found.records bucket).symm

theorem steady_cold {α : Type} {request : Cold.Request α}
    (unchanged : (w₀.cold.answer request).2 = w₀.cold) :
    Steady o.answer (AsFound w₀) (Procedure.cold request) (· = coldRead o w₀ request) := by
  refine Steady.ask fun w found => ?_
  unfold Outage.answer coldRead
  cases o.failure? (.cold request) with
  | some e => exact ⟨found, rfl⟩
  | none =>
    have same := found.cold
    refine ⟨⟨found.now, ?_, found.scheduled, found.records⟩, ?_⟩
    · exact (congrArg (fun cold => (cold.answer request).2) same).trans unchanged
    · exact congrArg (fun cold => (cold.answer request).1) same

theorem steady_readCold {α : Type} {request : Cold.Request α}
    (unchanged : (w₀.cold.answer request).2 = w₀.cold) :
    Steady o.answer (AsFound w₀) (readCold request) (· = coldRead o w₀ request) := by
  refine (steady_cold unchanged).bind fun result eq => ?_
  subst eq
  refine (steady_record _).bind fun _ _ => ?_
  split
  · exact (steady_record _).bind fun _ _ => rfl
  · rfl

/-- The reads that failed are counted, and the others add their records. -/
theorem gather_reads (order : List Bucket) :
    gather (order.map (bucketRead o w)) =
      (hotRecords w (order.filter fun bucket => !o.isDown bucket), order.countP o.isDown) := by
  unfold gather
  induction order using List.reverseRecOn with
  | nil => rfl
  | append_singleton order bucket ih =>
    rw [List.map_append, List.foldl_append, ih, List.filter_append, List.countP_append]
    unfold bucketRead Outage.isDown hotRecords
    cases failure : o.failure? (.hot (.readBucket bucket)) <;> simp [failure]

/-- The hours come in in some order. -/
theorem steady_readHot (range? : Option BucketRange) :
    Steady o.answer (AsFound w₀) (readHot c range?) fun found =>
      ∃ order : List Bucket, order.Perm (hotBuckets c w₀.now range?) ∧
        found = gather (order.map (bucketRead o w₀)) := by
  unfold readHot hotBuckets
  cases range? with
  | none => exact ⟨[], .refl _, rfl⟩
  | some range =>
    refine steady_now.bind fun now eq => ?_
    subst eq
    rw [Option.bind_some]
    cases untilNow c w₀.now range with
    | none => exact ⟨[], .refl _, rfl⟩
    | some part =>
      refine (Steady.all c.config.hotReadConcurrency
        fun bucket _ => steady_readBucket bucket).bind ?_
      -- whatever came in between, each hour has told what it tells by itself
      rintro results ⟨order, perm, told⟩
      refine (Steady.forM fun result _ => steady_record _).bind fun _ _ => ⟨order, perm, ?_⟩
      have results : order.map (bucketRead o w₀) = results :=
        List.forall₂_eq_eq_eq ▸ List.forall₂_map_left_iff.2 told
      rw [results]

/-- The cold part and the hot part are read side by side. -/
theorem steady_readBoth {α : Type} (parts : SplitRange)
    (request : BucketRange → Cold.Request (Cold.Capped α))
    (unchanged : ∀ part, (w₀.cold.answer (request part)).2 = w₀.cold) :
    Steady o.answer (AsFound w₀) (readBoth c parts request).run fun result =>
      ∃ order : List Bucket, order.Perm (hotBuckets c w₀.now parts.hot) ∧
        result = (parts.cold.mapM fun part => coldRead o w₀ (request part)).map
          (·, gather (order.map (bucketRead o w₀))) := by
  unfold readBoth
  have hot : Steady o.answer (AsFound w₀)
      (do let result ← readHot c parts.hot; return fun reads => { reads with hot := result })
      fun fill : Reads α → Reads α => ∃ order : List Bucket,
        order.Perm (hotBuckets c w₀.now parts.hot) ∧
          fill = fun reads => { reads with hot := gather (order.map (bucketRead o w₀)) } :=
    (steady_readHot parts.hot).bind fun _ ⟨order, perm, eq⟩ => ⟨order, perm, eq ▸ rfl⟩
  cases cold : parts.cold with
  | none =>
    refine (Steady.pair (Steady.pure (Q := (· = id)) rfl) hot).bind ?_
    rintro _ ⟨_, _, rfl, ⟨order, perm, rfl⟩, rfl⟩
    exact ⟨order, perm, rfl⟩
  | some part =>
    have called : Steady o.answer (AsFound w₀)
        (do
          let result ← readCold (request part)
          return fun reads => { reads with cold := result.map some })
        fun fill : Reads α → Reads α => fill = fun reads =>
          { reads with cold := (coldRead o w₀ (request part)).map some } :=
      (steady_readCold (unchanged part)).bind fun _ eq => eq ▸ rfl
    refine (Steady.pair called hot).bind ?_
    rintro _ ⟨_, _, rfl, ⟨order, perm, rfl⟩, rfl⟩
    refine ⟨order, perm, ?_⟩
    rw [Option.mapM_some]
    cases coldRead o w₀ (request part) <;> rfl

/-! ## What was read -/

theorem zone_of_normalize {window : Window} {z : Zone} {align : Align}
    (normal : window.normalize z align = .ok range) : range.start.zone = z := by
  unfold Window.normalize BucketRange.between at normal
  split at normal
  · next made =>
    cases normal
    rw [BucketRange.start_of_mem_between? made]
    cases align <;> rfl
  · cases normal

theorem perm_servedHours (zoned : range.start.zone = c.zone) :
    (hotBuckets c w.now (range.splitAt (c.boundaryAt w.now)).2).Perm (servedHours c range w) := by
  have nodup : (servedHours c range w).Nodup :=
    (BucketRange.nodup_hoursFrom range.start range.stop).filter _
  refine (List.perm_ext_iff_of_nodup (nodup_hotBuckets ..) nodup).2 fun bucket => ?_
  rw [mem_hotBuckets fun part cut => start_splitAt_hot zoned cut,
    BucketRange.contains_splitAt_hot, servedHours, List.mem_filter, BucketRange.mem_buckets, zoned]
  simp only [Bool.and_eq_true, decide_eq_true_eq]
  constructor
  · rintro ⟨zone, ⟨inside, from'⟩, le⟩
    exact ⟨⟨zone, inside⟩, from', (Bucket.lt_next_iff zone).2 le⟩
  · rintro ⟨⟨zone, inside⟩, from', lt⟩
    exact ⟨zone, ⟨inside, from'⟩, (Bucket.lt_next_iff zone).1 lt⟩

/-- A query goes on with what is read of both parts, where the served hours come in in some order,
or fails with its cold read. -/
theorem steady_readParts (zoned : range.start.zone = c.zone) {α β : Type}
    {request : BucketRange → Cold.Request (Cold.Capped α)}
    (unchanged : ∀ part, (w.cold.answer (request part)).2 = w.cold)
    {failure? : Option Error} {told? : Option (Cold.Capped α)}
    (read : ((range.splitAt (c.boundaryAt w.now)).1.mapM fun part => coldRead o w (request part)) =
      failure?.elim (.ok told?) .error)
    {f : Option (Cold.Capped α) × List Hot.Record × Nat → Task β} {b : β}
    (rest : ∀ order : List Bucket, order.Perm (servedHours c range w) →
      Steady o.answer (AsFound w) (f (told?, hotRecords w (order.filter fun bucket =>
        !o.isDown bucket), order.countP o.isDown)).run (· = .ok b)) :
    Steady o.answer (AsFound w) (readBoth c ⟨(range.splitAt (c.boundaryAt w.now)).1,
        (range.splitAt (c.boundaryAt w.now)).2⟩ request >>= f).run
      (· = failure?.elim (.ok b) .error) := by
  refine (steady_readBoth _ request unchanged).task_bind ?_ ?_
  · rintro reads ⟨order, perm, eq⟩
    rw [read, gather_reads] at eq
    cases failure? with
    | some e => cases eq
    | none =>
      cases eq
      exact rest order (perm.trans (perm_servedHours zoned))
  · rintro e ⟨order, perm, eq⟩
    rw [read] at eq
    cases failure? with
    | some e' =>
      cases eq
      rfl
    | none => cases eq

theorem steady_split : Steady o.answer (AsFound w) (Task.perform (split c range)).run
    (· = .ok ⟨(range.splitAt (c.boundaryAt w.now)).1, (range.splitAt (c.boundaryAt w.now)).2⟩) :=
  steady_now.bind fun _ eq => eq ▸ rfl

/-- What the served hours tell that can be read, hour by hour. -/
def readParts (c : Settings) (o : Outage) (filter : Option ResourceType) (range : BucketRange)
    (w : World) : List (Key × Traffic) :=
  (passing filter (hotRecords w ((servedHours c range w).filter fun bucket =>
    !o.isDown bucket))).map fun r => (r.key, r.traffic)

theorem perm_readParts {order : List Bucket} (perm : order.Perm (servedHours c range w)) :
    ((passing filter (hotRecords w (order.filter fun bucket => !o.isDown bucket))).map
      fun r => (r.key, r.traffic)).Perm (readParts c o filter range w) :=
  (((perm.filter _).flatMap_right _).filter _).map _

/-- The live records of the served hours that can be read. -/
def liveParts (c : Settings) (o : Outage) (filter : Option ResourceType) (range : BucketRange)
    (w : World) : List (Key × Traffic) :=
  (w.hot.records.toList.filter fun (key, entry) =>
    w.now < entry.expiry && Cold.passes filter key.type &&
      key.bucket ∈ servedHours c range w && !o.isDown key.bucket).map fun (key, entry) =>
        (key, entry.traffic)

theorem hotParts_eq : hotParts c o dimension filter range w =
    (liveParts c o filter range w).map fun part => (Group.ofKey dimension part.1, part.2) := by
  rw [hotParts, liveParts, List.map_map]
  rfl

theorem mem_liveParts {key : Key} {traffic : Traffic} :
    (key, traffic) ∈ liveParts c o filter range w ↔
      Cold.passes filter key.type = true ∧
        (key.bucket ∈ servedHours c range w ∧ o.isDown key.bucket = false) ∧
          ∃ entry, w.hot.live? w.now key = some entry ∧ entry.traffic = traffic := by
  simp only [liveParts, List.mem_map, List.mem_filter, Prod.exists, Prod.mk.injEq,
    Std.ExtTreeMap.mem_toList_iff_getElem?_eq_some, Hot.Store.live?_eq_some, Bool.and_eq_true,
    decide_eq_true_eq, Bool.not_eq_true']
  constructor
  · rintro ⟨_, entry, ⟨found, ⟨⟨live, passes⟩, served⟩, up⟩, rfl, rfl⟩
    exact ⟨passes, ⟨served, up⟩, entry, ⟨found, live⟩, rfl⟩
  · rintro ⟨passes, ⟨served, up⟩, entry, ⟨found, live⟩, rfl⟩
    exact ⟨key, entry, ⟨found, ⟨⟨live, passes⟩, served⟩, up⟩, rfl, rfl⟩

theorem nodup_liveParts : (liveParts c o filter range w).Nodup := by
  have distinct := (Std.ExtTreeMap.distinct_keys_toList (t := w.hot.records)).filter
    fun (key, entry) => w.now < entry.expiry && Cold.passes filter key.type &&
      key.bucket ∈ servedHours c range w && !o.isDown key.bucket
  rw [liveParts, List.Nodup, List.pairwise_map]
  refine distinct.imp fun differ same => differ ?_
  rw [congrArg Prod.fst same]
  exact Std.ReflOrd.compare_self

/-- The hours that can be read tell their live records that pass, each once. -/
theorem perm_liveParts (hs : w.hot.Scheduled) (indexed : w.hot.Indexed w.now) :
    (readParts c o filter range w).Perm (liveParts c o filter range w) := by
  have served : ((servedHours c range w).filter fun bucket => !o.isDown bucket).Nodup :=
    ((BucketRange.nodup_hoursFrom _ _).filter _).filter _
  have nodup : (readParts c o filter range w).Nodup := by
    refine List.Nodup.of_map Prod.fst ?_
    rw [readParts, List.map_map]
    exact (nodup_hotRecords hs indexed served).sublist (List.filter_sublist.map _)
  refine (List.perm_ext_iff_of_nodup nodup nodup_liveParts).2 fun ⟨key, traffic⟩ => ?_
  rw [mem_liveParts, readParts, List.mem_map]
  constructor
  · rintro ⟨r, found, ⟨⟩⟩
    obtain ⟨member, passes⟩ := List.mem_filter.1 found
    obtain ⟨hour, told⟩ := (mem_hotRecords hs indexed).1 member
    obtain ⟨entry, live, made⟩ := Option.map_eq_some_iff.1 told
    obtain ⟨hour, up⟩ := List.mem_filter.1 hour
    refine ⟨passes, ⟨hour, ?_⟩, entry, live, congrArg Hot.Record.traffic made⟩
    simpa using up
  · rintro ⟨passes, ⟨hour, up⟩, entry, live, rfl⟩
    refine ⟨entry.toRecord key, List.mem_filter.2 ⟨?_, passes⟩, rfl⟩
    refine (mem_hotRecords hs indexed).2 ⟨List.mem_filter.2 ⟨hour, ?_⟩, ?_⟩
    · exact congrArg not up
    · exact congrArg (Option.map (·.toRecord key)) live

/-! ## The cold part -/

theorem matchingRows_eq {part : BucketRange}
    (cut : (range.splitAt (c.boundaryAt w.now)).1 = some part) :
    (w.cold.scan part fun target => Cold.passes filter target.type &&
      (target.group? dimension).isSome) = matchingRows c dimension filter range w := by
  rw [matchingRows, coldRows, List.filter_filter]
  refine List.filter_congr fun row member => ?_
  have inside : (∃ cold ∈ (range.splitAt (c.boundaryAt w.now)).1,
      cold.contains row.1.bucket = true) ↔ _ := BucketRange.contains_splitAt_cold
  rw [cut] at inside
  rw [Bool.eq_iff_iff]
  simp only [Bool.and_eq_true, decide_eq_true_eq, ← inside]
  simp [and_assoc, and_comm]

/-- Where there is no cold part, no row matches. -/
theorem matchingRows_eq_nil (cut : (range.splitAt (c.boundaryAt w.now)).1 = none) :
    matchingRows c dimension filter range w = [] := by
  rw [matchingRows, coldRows_eq_nil cut]
  rfl

/-- What the cold tier tells: the sums of the first matching rows, and how many rows matched. -/
def coldSums (c : Settings) (dimension : Dimension) (filter : Option ResourceType)
    (range : BucketRange) (w : World) : Cold.Capped (Cold.Sums Group) where
  value := .ofList (coldParts c dimension filter range w)
  totalRows := (matchingRows c dimension filter range w).length
  isTruncated := c.config.rowCap < (matchingRows c dimension filter range w).length

theorem coldRead_part :
    ((range.splitAt (c.boundaryAt w.now)).1.mapM fun part =>
      coldRead o w (.sumByGroup (coldQuery c dimension filter part))) =
      (coldFailure? c o dimension filter range w).elim
        (.ok ((range.splitAt (c.boundaryAt w.now)).1.map fun _ =>
          coldSums c dimension filter range w)) .error := by
  unfold coldFailure?
  cases cut : (range.splitAt (c.boundaryAt w.now)).1 with
  | none => rfl
  | some part =>
    unfold coldRead coldSums coldParts
    rw [Option.mapM_some, Option.bind_some, ← matchingRows_eq cut]
    cases o.failure? (.cold (.sumByGroup (coldQuery c dimension filter part))) with
    | some e => rfl
    | none =>
      change some <$> w.cold.sumByGroup _ = _
      unfold Cold.Store.sumByGroup
      cases w.cold.isOffline <;> rfl

/-! ## Merged groups -/

theorem mergeGroups_parts {order : List Bucket} (perm : order.Perm (servedHours c range w)) :
    mergeGroups dimension filter
        ((((range.splitAt (c.boundaryAt w.now)).1.map fun _ =>
          coldSums c dimension filter range w).map (·.value)).getD ∅)
        (hotRecords w (order.filter fun bucket => !o.isDown bucket)) =
      .ofList (coldParts c dimension filter range w ++
        (readParts c o filter range w).map fun part => (Group.ofKey dimension part.1, part.2)) := by
  have cold : (((range.splitAt (c.boundaryAt w.now)).1.map fun _ =>
      coldSums c dimension filter range w).map (·.value)).getD ∅ =
        .ofList (coldParts c dimension filter range w) := by
    cases cut : (range.splitAt (c.boundaryAt w.now)).1 with
    | some part => rfl
    | none =>
      rw [coldParts, matchingRows_eq_nil cut, List.take_nil]
      rfl
  rw [cold, mergeGroups_ofList]
  exact Cold.Sums.ofList_perm (((perm_readParts perm).map _).append_left _)

theorem warnings_eq_lacks {order : List Bucket} (perm : order.Perm (servedHours c range w)) :
    (((range.splitAt (c.boundaryAt w.now)).1.map fun _ =>
        coldSums c dimension filter range w).map (capWarnings c)).getD [] ++
      hotWarnings (order.countP o.isDown) = lacks c o dimension filter range w := by
  unfold lacks failedReads
  rw [perm.countP_eq]
  refine congrArg (· ++ _) ?_
  cases cut : (range.splitAt (c.boundaryAt w.now)).1 with
  | none =>
    rw [matchingRows_eq_nil cut]
    rfl
  | some part => simp [capWarnings, coldSums]

/-- The sums of what is read, or the failure of the cold read. -/
def mergedReads (c : Settings) (o : Outage) (dimension : Dimension) (filter : Option ResourceType)
    (range : BucketRange) (w : World) : Except Error (Answer (Cold.Sums Group)) :=
  (coldFailure? c o dimension filter range w).elim
    (.ok ⟨.ofList (coldParts c dimension filter range w ++
      (readParts c o filter range w).map fun part => (Group.ofKey dimension part.1, part.2)),
      lacks c o dimension filter range w⟩) .error

/-- In whatever order the hours come in, the sums are the same. -/
theorem steady_mergedReads (zoned : range.start.zone = c.zone) :
    Steady o.answer (AsFound w) (mergedGroups c dimension filter range).run
      (· = mergedReads c o dimension filter range w) := by
  unfold mergedGroups
  refine steady_split.task_ok ?_
  refine steady_readParts zoned ?_ coldRead_part fun order perm => ?_
  · exact fun _ => rfl
  · dsimp only
    rw [mergeGroups_parts perm, warnings_eq_lacks perm]
    rfl

/-- The sums of a query, or the failure of its cold read. -/
def merged (c : Settings) (o : Outage) (dimension : Dimension) (filter : Option ResourceType)
    (range : BucketRange) (w : World) : Except Error (Answer (Cold.Sums Group)) :=
  match coldFailure? c o dimension filter range w with
  | some e => .error e
  | none => .ok ⟨.ofList (coldParts c dimension filter range w ++
      hotParts c o dimension filter range w), lacks c o dimension filter range w⟩

/-- Where the indexes of the hot tier list its records, the live records are read. -/
theorem mergedReads_eq (hs : w.hot.Scheduled) (indexed : w.hot.Indexed w.now) :
    mergedReads c o dimension filter range w = merged c o dimension filter range w := by
  have live : (readParts c o filter range w).Perm (liveParts c o filter range w) :=
    perm_liveParts hs indexed
  unfold mergedReads merged
  rw [hotParts_eq, Cold.Sums.ofList_perm ((live.map _).append_left _)]
  cases coldFailure? c o dimension filter range w <;> rfl

theorem steady_mergedGroups (hs : w.hot.Scheduled) (indexed : w.hot.Indexed w.now)
    (zoned : range.start.zone = c.zone) :
    Steady o.answer (AsFound w) (mergedGroups c dimension filter range).run
      (· = merged c o dimension filter range w) :=
  mergedReads_eq hs indexed ▸ steady_mergedReads zoned

open Hot (Call) in
/-- The merged groups of a query on stores that answer calls in the order of a clock, while some of
the calls of the query fail. The query comes to its end, and has one result in whatever order the
reads come in. That is the failure of its cold read; or each group has the bytes of its parts, up to
the top of a counter, groups without parts are absent, and what the sums may lack is told. -/
theorem merged_exact_or_flagged (c : Settings) (o : Outage) (dimension : Dimension)
    (filter : Option ResourceType) {lifespan : Int} {calls : List Call} {w : World}
    (history : w.hot = (Hot.Store.empty lifespan).afterCalls calls)
    (clocked : Call.Clocked calls w.now) {window : Window} {align : Align} {range : BucketRange}
    (normal : window.normalize c.zone align = .ok range) :
    ∃ result : Except Error (Answer (Cold.Sums Group)),
      (∃ t, Reaches o.answer (mergedGroups c dimension filter range).run w (.pure result) t) ∧
      (∀ result' t, Reaches o.answer (mergedGroups c dimension filter range).run w
        (.pure result') t → result' = result) ∧
      match coldFailure? c o dimension filter range w with
      | some e => result = .error e
      | none => ∃ groups, result = .ok ⟨groups, lacks c o dimension filter range w⟩ ∧
          ∀ group,
            ((groups[group]?).isSome = true ↔ ∃ part ∈ coldParts c dimension filter range w ++
              hotParts c o dimension filter range w, part.1 = group) ∧
            ∀ d, ((groups[group]?).getD 0).bytes d =
              min (Cold.bytesWhere (· = group) d (coldParts c dimension filter range w ++
                hotParts c o dimension filter range w)) Count.top := by
  rw [← Hot.Store.after_history] at history
  have hs : w.hot.Scheduled := history ▸ (Hot.Store.scheduled_empty lifespan).after _
  have indexed : w.hot.Indexed w.now := history ▸ Hot.Store.Indexed.after clocked.history
  have steady : Steady o.answer (AsFound w) (mergedGroups c dimension filter range).run
      (· = merged c o dimension filter range w) :=
    steady_mergedGroups hs indexed (zone_of_normalize normal)
  have found := asFound_self hs
  have reached : Reaches o.answer (mergedGroups c dimension filter range).run w _ _ :=
    Program.reaches_settle _ w
  have settled := (steady.reaches found reached).2
  rw [settled] at reached
  refine ⟨_, ⟨_, reached⟩, fun result' t reached => (steady.reaches found reached).2, ?_⟩
  unfold merged
  cases coldFailure? c o dimension filter range w with
  | some e => rfl
  | none =>
    refine ⟨_, rfl, fun group => ⟨?_, Cold.Sums.bytes_ofList _ group⟩⟩
    rw [Cold.Sums.isSome_ofList, List.mem_map]

/-- Outages of some hours of the hot tier. -/
def downOf (hours : List Bucket) : Outage :=
  ⟨fun request => match request with
    | .hot (.readBucket bucket) =>
      if bucket ∈ hours then some (.unavailable .hot "timed out") else none
    | _ => none⟩

/-- The window starts two hours ago. Of the cold rows that match, the cap leaves out one, and a
third has no subscription; one of the two hot hours with records cannot be read. -/
theorem merged_with_warnings :
    let zone : Zone := { offset := 28800 }
    let c : Settings := ⟨zone, 7200000000000, { rowCap := 1 }, .passthrough⟩
    let now : Instant := .ofSeconds 1709266200
    let calls : List Hot.Call := [
      .request (.ofSeconds 1709263000) (.increment ⟨⟨zone, 474803⟩, 1, .node, 1⟩ (.ofNats 5 7)),
      .request (.ofSeconds 1709260000) (.increment ⟨⟨zone, 474802⟩, 1, .node, 1⟩ (.ofNats 100 0))]
    let rows : List Cold.Row := [
      (⟨⟨zone, 474801⟩, .node, 1, some 1⟩, .ofNats 10 10),
      (⟨⟨zone, 474801⟩, .node, 2, none⟩, .ofNats 20 20),
      (⟨⟨zone, 474801⟩, .node, 3, some 1⟩, .ofNats 30 30)]
    let w : World := {
      now, hot := (Hot.Store.empty 86400000000000).afterCalls calls
      cold := { rows := .ofList rows } }
    let o : Outage := downOf [⟨zone, 474802⟩]
    let window : Window := ⟨.ofSeconds 1709255400, now, by decide⟩
    ∃ (range : BucketRange) (groups : Cold.Sums Group),
      window.normalize zone .hour = .ok range ∧
      (∀ result t, Reaches o.answer (mergedGroups c .subscription none range).run w
        (.pure result) t → result = .ok ⟨groups, [.rowCapExceeded 2 1, .hotDegraded 1]⟩) ∧
      (groups[Group.subscription 1]?).getD 0 = .ofNats 15 17 := by
  intro zone c now calls rows w o window
  have clocked : Hot.Call.Clocked calls w.now := by
    refine ⟨?_, ?_, trivial⟩ <;> decide
  obtain ⟨result, -, unique, told⟩ := merged_exact_or_flagged c o .subscription none rfl clocked
    (window.normalize_hour zone)
  have calm : coldFailure? c o .subscription none (window.hours zone) w = none := by decide +kernel
  have flags : lacks c o .subscription none (window.hours zone) w =
      [.rowCapExceeded 2 1, .hotDegraded 1] := by decide +kernel
  rw [calm, flags] at told
  obtain ⟨groups, rfl, exact⟩ := told
  refine ⟨window.hours zone, groups, window.normalize_hour zone, unique, ?_⟩
  refine Traffic.ext_bytes fun d => ?_
  rw [(exact (.subscription 1)).2]
  cases d <;> decide +kernel

end Query

end Metering

import Metering.Proofs.Cold.RollUp
import Metering.Proofs.Query.Merging
import Metering.Proofs.Time.Days

/-!
# What each query answers

Every query reads the same two things: the first rows before the retention window, up to the row
cap, and what the served hours tell that can be read. It sums them by group or by period, or has the
cold tier do so, and tells what may be lacking.

Results:
1. `steady_total`, `steady_trend`, `steady_grouped`, `steady_top`: the one result that each query
   has, in whatever order its reads come in.
2. `mergedReads_of_cold`: where the whole range is cold, the sums of the cold tier are the sums that
   a merge would make.
-/

namespace Metering

open Program (Steady Reaches)

namespace Query

variable {c : Settings} {o : Outage} {dimension : Dimension} {filter : Option ResourceType}
  {range : BucketRange} {window : Window} {w : World}

theorem gives_of_steady {α : Type} {task : Task α} {result : Except Error α}
    (scheduled : w.hot.Scheduled) (h : Steady o.answer (AsFound w) task.run (· = result)) :
    o.Gives task w result := by
  have found := asFound_self scheduled
  have reached : Reaches o.answer task.run w _ _ := Program.reaches_settle _ w
  have settled := (h.reaches found reached).2
  rw [settled] at reached
  exact ⟨⟨_, reached⟩, fun _ _ reached => (h.reaches found reached).2⟩

/-! ## The steps of a query -/

theorem steady_normalize {align : Align} (normal : window.normalize c.zone align = .ok range) :
    Steady o.answer (AsFound w) (normalize c window align).run (· = .ok range) := by
  unfold normalize
  rw [normal]
  rfl

theorem steady_report (operation : String) :
    Steady o.answer (AsFound w) (report operation).run (· = .ok ()) :=
  (steady_record _).bind fun _ _ => rfl

theorem steady_liftExcept {α : Type} (result : Except Error α) :
    Steady o.answer (AsFound w) (liftExcept result : Task α).run (· = result) := by
  cases result <;> rfl

/-- A query reports, and tells what it has made of its reads. -/
theorem steady_reported {α : Type} (operation : String) (a : α) :
    Steady o.answer (AsFound w) (do report operation; return a : Task α).run (· = .ok a) :=
  (steady_report operation).task_ok rfl

/-! ## Totals -/

theorem steady_total :
    Steady o.answer (AsFound w) (total c filter window).run
      (· = (mergedReads c o .platform filter (window.hours c.zone) w).bind fun groups =>
        .ok ⟨(groups.value[Group.total]?).getD 0, groups.warnings⟩) := by
  refine (steady_normalize (window.normalize_hour c.zone)).task_ok ?_
  exact (steady_mergedReads rfl).task_then fun groups _ => steady_reported "total" _

/-! ## Pages -/

theorem length_ranked (groups : Cold.Sums Group) :
    (Group.ranked groups.toList).length = groups.size := by
  rw [Group.ranked, List.length_mergeSort, Std.ExtTreeMap.length_toList]

theorem steady_grouped {page page' : Page}
    (paged : Page.of page.number (min page.size c.config.maxPageSize) = .ok page') :
    Steady o.answer (AsFound w) (grouped c dimension filter window page).run
      (· = (mergedReads c o dimension filter (window.hours c.zone) w).bind fun groups =>
        (resolve c (page'.slice (Group.ranked groups.value.toList))).bind fun rows =>
          .ok ⟨⟨rows, groups.value.size, page'.number, page'.size⟩, groups.warnings⟩) := by
  have checked : Steady o.answer (AsFound w)
      (Task.check (Page.of page.number (min page.size c.config.maxPageSize))).run
      (· = .ok page') := by
    rw [paged]
    rfl
  refine (steady_normalize (window.normalize_hour c.zone)).task_ok (checked.task_ok ?_)
  refine (steady_mergedReads rfl).task_then fun groups _ => ?_
  refine (steady_liftExcept _).task_then fun rows _ => ?_
  rw [length_ranked]
  exact steady_reported "grouped" _

/-! ## Trends -/

section Tiers

variable {hour? : Bucket → Option Error} {cold? : Option Error} {g : Granularity}

/-- How every read of the cold tier fails, if the tier is down. -/
def coldDown? (cold? : Option Error) (w : World) : Option Error :=
  cold?.or (if w.cold.isOffline then some Cold.Store.offlineError else none)

theorem coldFailure?_ofTiers : coldFailure? c (.ofTiers hour? cold?) dimension filter range w =
    (range.splitAt (c.boundaryAt w.now)).1.bind fun _ => coldDown? cold? w := rfl

/-- Only a tier that is down fails the cold read. -/
theorem coldFailure?_cases (c : Settings) (hour? : Bucket → Option Error) (cold? : Option Error)
    (filter : Option ResourceType) (range : BucketRange) (w : World) :
    (∃ e, coldDown? cold? w = some e ∧
      ∀ dimension, coldFailure? c (.ofTiers hour? cold?) dimension filter range w = some e) ∨
    ∀ dimension, coldFailure? c (.ofTiers hour? cold?) dimension filter range w = none := by
  simp only [coldFailure?_ofTiers]
  cases (range.splitAt (c.boundaryAt w.now)).1 with
  | none => exact .inr fun _ => rfl
  | some part =>
    cases coldDown? cold? w with
    | none => exact .inr fun _ => rfl
    | some e => exact .inl ⟨e, rfl, fun _ => rfl⟩

/-- What is read, by hour: the first matching rows, and what the served hours tell. -/
def hourParts (c : Settings) (o : Outage) (filter : Option ResourceType) (range : BucketRange)
    (w : World) : List (Bucket × Traffic) :=
  ((matchingRows c .platform filter range w).take c.config.rowCap).map
      (fun row => (row.1.bucket, row.2)) ++
    (readParts c o filter range w).map fun part => (part.1.bucket, part.2)

/-- The cold tier's own sums by period. -/
def coldPeriods (c : Settings) (filter : Option ResourceType) (range : BucketRange)
    (g : Granularity) (w : World) : Cold.Capped (List (Moment × Traffic)) where
  value := (Cold.Sums.ofList (((matchingRows c .platform filter range w).take
    c.config.rowCap).map fun row => (row.1.bucket.periodStart g, row.2))).toList
  totalRows := (matchingRows c .platform filter range w).length
  isTruncated := c.config.rowCap < (matchingRows c .platform filter range w).length

/-- A read of the cold tier fails if the tier is down, and else tells what a store tells. -/
theorem coldRead_ofTiers {α : Type} {request : Cold.Request α} {a : α}
    (told : (w.cold.answer request).1 =
      if w.cold.isOffline then .error Cold.Store.offlineError else .ok a) :
    coldRead (.ofTiers hour? cold?) w request = (coldDown? cold? w).elim (.ok a) .error := by
  have calls : (Outage.ofTiers hour? cold?).failure? (.cold request) = cold? := rfl
  unfold coldRead coldDown?
  rw [calls]
  cases cold? with
  | some e => rfl
  | none =>
    dsimp only
    rw [told]
    cases w.cold.isOffline <;> rfl

theorem answer_trend {part : BucketRange}
    (cut : (range.splitAt (c.boundaryAt w.now)).1 = some part) :
    (w.cold.answer (.trend filter part g c.config.rowCap)).1 =
      if w.cold.isOffline then .error Cold.Store.offlineError
      else .ok (coldPeriods c filter range g w) := by
  -- every target has a group where the whole platform is one
  have rows : (w.cold.scan part fun target => Cold.passes filter target.type) =
      matchingRows c .platform filter range w := by
    rw [← matchingRows_eq cut]
    refine congrArg (w.cold.scan part) (funext fun target => ?_)
    show _ = (_ && true)
    rw [Bool.and_true]
  show Cold.Store.trend _ _ _ _ _ = _
  unfold Cold.Store.trend
  rw [rows]
  rfl

theorem coldRead_trend :
    ((range.splitAt (c.boundaryAt w.now)).1.mapM fun part =>
      coldRead (.ofTiers hour? cold?) w (.trend filter part g c.config.rowCap)) =
      (coldFailure? c (.ofTiers hour? cold?) .platform filter range w).elim
        (.ok ((range.splitAt (c.boundaryAt w.now)).1.map fun _ =>
          coldPeriods c filter range g w)) .error := by
  rw [coldFailure?_ofTiers]
  cases cut : (range.splitAt (c.boundaryAt w.now)).1 with
  | none => rfl
  | some part =>
    rw [Option.mapM_some, coldRead_ofTiers (answer_trend cut), Option.bind_some]
    cases coldDown? cold? w <;> rfl

theorem mergePeriods_ofList (parts : List (Moment × Traffic)) (records : List Hot.Record) :
    mergePeriods g filter (Cold.Sums.ofList parts).toList records =
      .ofList (parts ++ ((passing filter records).map fun r => (r.key, r.traffic)).map fun part =>
        (part.1.bucket.periodStart g, part.2)) := by
  unfold mergePeriods
  rw [Cold.Sums.ofList_toList, Cold.Sums.ofList, Cold.Sums.ofList, List.foldl_append, List.map_map,
    List.foldl_map]
  rfl

theorem mergePeriods_parts {order : List Bucket} (perm : order.Perm (servedHours c range w)) :
    mergePeriods g filter
        ((((range.splitAt (c.boundaryAt w.now)).1.map fun _ =>
          coldPeriods c filter range g w).map (·.value)).getD [])
        (hotRecords w (order.filter fun bucket => !o.isDown bucket)) =
      .ofList ((hourParts c o filter range w).map fun part => (part.1.periodStart g, part.2)) := by
  have cold : (((range.splitAt (c.boundaryAt w.now)).1.map fun _ =>
      coldPeriods c filter range g w).map (·.value)).getD [] =
        (coldPeriods c filter range g w).value := by
    cases cut : (range.splitAt (c.boundaryAt w.now)).1 with
    | some part => rfl
    | none =>
      rw [coldPeriods, matchingRows_eq_nil cut, List.take_nil]
      rfl
  rw [cold, coldPeriods, mergePeriods_ofList, hourParts, List.map_append,
    Cold.Sums.ofList_perm (((perm_readParts perm).map _).append_left _), List.map_map, List.map_map]
  rfl

/-- The periods of what is read, or the failure of the cold read. -/
def trendReads (c : Settings) (o : Outage) (filter : Option ResourceType) (range : BucketRange)
    (g : Granularity) (w : World) : Except Error (Answer (List (Moment × Traffic))) :=
  (coldFailure? c o .platform filter range w).elim
    (.ok ⟨(Cold.Sums.ofList ((hourParts c o filter range w).map fun part =>
      (part.1.periodStart g, part.2))).toList, lacks c o .platform filter range w⟩) .error

theorem steady_trend (normal : window.normalize c.zone (alignOf g) = .ok range) :
    Steady (Outage.ofTiers hour? cold?).answer (AsFound w) (trend c filter window g).run
      (· = trendReads c (.ofTiers hour? cold?) filter range g w) := by
  refine (steady_normalize normal).task_ok (steady_split.task_ok ?_)
  refine steady_readParts (zone_of_normalize normal) ?_ coldRead_trend fun order perm => ?_
  · exact fun _ => rfl
  · dsimp only
    -- the cut of a read is told whatever is made of its rows
    have told : ((range.splitAt (c.boundaryAt w.now)).1.map fun _ =>
          coldPeriods c filter range g w).map (capWarnings c) =
        ((range.splitAt (c.boundaryAt w.now)).1.map fun _ =>
          coldSums c .platform filter range w).map (capWarnings c) := by
      rw [Option.map_map, Option.map_map]
      rfl
    rw [mergePeriods_parts perm, told, warnings_eq_lacks perm]
    exact steady_reported "trend" _

/-! ## Largest groups -/

theorem servedHours_eq_nil (zoned : range.start.zone = c.zone)
    (cut : (range.splitAt (c.boundaryAt w.now)).2 = none) : servedHours c range w = [] := by
  have perm := perm_servedHours (w := w) zoned
  rw [cut] at perm
  exact perm.nil_eq.symm

/-- Where the whole range is cold, the sums of a query are those of the cold tier. -/
theorem mergedReads_of_cold (zoned : range.start.zone = c.zone) {part : BucketRange}
    (cold : (range.splitAt (c.boundaryAt w.now)).1 = some part)
    (hot : (range.splitAt (c.boundaryAt w.now)).2 = none) :
    mergedReads c (.ofTiers hour? cold?) dimension filter range w =
      (coldDown? cold? w).elim
        (.ok ⟨(coldSums c dimension filter range w).value,
          capWarnings c (coldSums c dimension filter range w)⟩) .error := by
  have unserved : servedHours c range w = [] := servedHours_eq_nil zoned hot
  unfold mergedReads lacks failedReads readParts
  rw [coldFailure?_ofTiers, cold, unserved]
  simp [hotRecords, passing, coldSums, capWarnings]

theorem answer_top {part : BucketRange} (count : Nat)
    (cut : (range.splitAt (c.boundaryAt w.now)).1 = some part) :
    (w.cold.answer (.top (coldQuery c dimension filter part) count)).1 =
      if w.cold.isOffline then .error Cold.Store.offlineError
      else .ok { coldSums c dimension filter range w with
        value :=
          (Group.ranked (coldSums c dimension filter range w).value.toList).take count } := by
  show Cold.Store.top _ _ _ = _
  unfold Cold.Store.top Cold.Store.sumByGroup coldSums coldParts
  rw [← matchingRows_eq cut]
  cases w.cold.isOffline <;> rfl

/-- Groups get their names, and the query reports. -/
theorem steady_named (ranked : List (Group × Traffic)) (warnings : List Warning) :
    Steady o.answer (AsFound w)
      (do
        let rows ← liftExcept (resolve c ranked)
        report "top_n"
        return ⟨rows, warnings⟩ : Task (Answer (List GroupRow))).run
      (· = (resolve c ranked).bind fun rows => .ok ⟨rows, warnings⟩) :=
  (steady_liftExcept _).task_then fun _ _ => steady_reported "top_n" _

theorem steady_top {count : Nat} :
    Steady (Outage.ofTiers hour? cold?).answer (AsFound w) (top c dimension filter window count).run
      (· = (mergedReads c (.ofTiers hour? cold?) dimension filter (window.hours c.zone) w).bind
        fun groups => (resolve c ((Group.ranked groups.value.toList).take count)).bind fun rows =>
          .ok ⟨rows, groups.warnings⟩) := by
  refine (steady_normalize (window.normalize_hour c.zone)).task_ok (steady_split.task_ok ?_)
  cases cold : ((window.hours c.zone).splitAt (c.boundaryAt w.now)).1 with
  | none => exact (steady_mergedReads rfl).task_then fun groups _ => steady_named _ _
  | some part =>
    cases hot : ((window.hours c.zone).splitAt (c.boundaryAt w.now)).2 with
    | some part' => exact (steady_mergedReads rfl).task_then fun groups _ => steady_named _ _
    | none =>
      have ranks : Steady (Outage.ofTiers hour? cold?).answer (AsFound w)
          (ExceptT.mk (readCold (.top (coldQuery c dimension filter part) count))).run
          (· = coldRead (.ofTiers hour? cold?) w _) := steady_readCold rfl
      rw [coldRead_ofTiers (answer_top count cold)] at ranks
      rw [mergedReads_of_cold rfl cold hot]
      cases down : coldDown? cold? w with
      | some e =>
        rw [down] at ranks
        exact ranks.task_fails
      | none =>
        rw [down] at ranks
        exact ranks.task_ok (steady_named _ _)

end Tiers

/-! ## Stores on both sides of the retention window -/

/-- The hot tier keeps two hours; two rows of the cold tier are read, and pages have two groups. -/
def twoOfEach : Settings :=
  ⟨{ offset := 28800 }, 7200000000000, { rowCap := 2, maxPageSize := 2 }, .passthrough⟩

/-- An hour of the zone. -/
def hourOf (hour : Int) : Bucket := ⟨twoOfEach.zone, hour⟩

/-- Three rows before the retention window, one of them in the month before and one without a
subscription, and records in both hours of the window. -/
def acrossTiers : World where
  now := .ofSeconds 1709266200
  hot := (Hot.Store.empty 86400000000000).afterCalls [
    .request (.ofSeconds 1709263600) (.increment ⟨hourOf 474803, 1, .node, 3⟩ (.ofNats 30 30)),
    .request (.ofSeconds 1709263000) (.increment ⟨hourOf 474803, 1, .node, 1⟩ (.ofNats 5 15)),
    .request (.ofSeconds 1709260000) (.increment ⟨hourOf 474802, 1, .node, 1⟩ (.ofNats 100 0))]
  cold.rows := .ofList ([
    (⟨hourOf 474770, .node, 1, some 1⟩, .ofNats 10 10),
    (⟨hourOf 474801, .node, 2, none⟩, .ofNats 20 20),
    (⟨hourOf 474801, .node, 3, some 1⟩, .ofNats 30 30)] : List Cold.Row)

/-- The first hour of the retention window cannot be read. -/
def hourDown (bucket : Bucket) : Option Error :=
  if bucket = hourOf 474802 then some (.unavailable .hot "timed out") else none

/-- The last day of a month, and the first of the next one. -/
def twoDays : Window := ⟨.ofSeconds 1709136000, .ofSeconds 1709307000, by decide⟩

/-- One row of three is left out, and one hour of two. -/
theorem trendReads_twoDays (g : Granularity) :
    trendReads twoOfEach (.ofTiers hourDown none) none (twoDays.hours twoOfEach.zone) g
      acrossTiers = .ok ⟨(Cold.Sums.ofList ((hourParts twoOfEach (.ofTiers hourDown none) none
        (twoDays.hours twoOfEach.zone) acrossTiers).map fun part =>
          (part.1.periodStart g, part.2))).toList, [.rowCapExceeded 3 2, .hotDegraded 1]⟩ := by
  have calm : coldFailure? twoOfEach (.ofTiers hourDown none) .platform none
      (twoDays.hours twoOfEach.zone) acrossTiers = none := by decide +kernel
  have flags : lacks twoOfEach (.ofTiers hourDown none) .platform none
      (twoDays.hours twoOfEach.zone) acrossTiers = [.rowCapExceeded 3 2, .hotDegraded 1] := by
    decide +kernel
  rw [trendReads, calm, flags]
  rfl

end Query

end Metering

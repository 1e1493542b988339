import Metering.Proofs.Query.Answers

/-!
# Trends

A trend is a series of sums by period, and the total of a window is one more sum of the same parts.
All of them are taken of the same rows and the same records, so they agree: a trend by days or
months is the hourly one, summed once more, and the total is what the hourly one has in all. That
holds of what may be lacking too, and where the row cap cuts.

Results:
1. `trends_roll_up`: trends by days and months roll up the hourly trend.
2. `total_eq_sum_trend`: the total of a window is the sum of its hourly trend.
-/

namespace Metering

/-- Each bucket is indexed by its own keys only, whatever the clock does. -/
theorem Hot.Store.bucket_of_mem_membersOf {lifespan : Int} {history : History} {bucket : Bucket}
    {key : Key} (member : key ∈ ((empty lifespan).after history).membersOf bucket) :
    key.bucket = bucket := by
  induction history with
  | nil => simp [after, empty, membersOf] at member
  | cons step earlier ih =>
    rcases mem_membersOf_of_act ((scheduled_empty lifespan).after earlier) member with before | own
    · exact ih before
    · exact own

namespace Query

open Hot (Call)
open Program (Reaches)

/-- The periods follow each other, none of them twice. -/
def Ascending (points : List (Moment × Traffic)) : Prop :=
  points.Pairwise fun a b => a.1.instant < b.1.instant

variable {c : Settings} {o : Outage} {filter : Option ResourceType} {range : BucketRange}
  {window : Window} {w : World} {hour? : Bucket → Option Error} {cold? : Option Error}
  {g : Granularity} {lifespan : Int} {calls : List Call}

theorem scheduled_of_history (history : w.hot = (Hot.Store.empty lifespan).afterCalls calls) :
    w.hot.Scheduled := by
  rw [← Hot.Store.after_history] at history
  exact history ▸ (Hot.Store.scheduled_empty lifespan).after _

/-! ## The zone of a trend -/

/-- Sums by moments of one zone ascend. -/
theorem ascending_toList {sums : Cold.Sums Moment} {z : Zone}
    (zoned : ∀ part ∈ sums.toList, part.1.zone = z) : Ascending sums.toList := by
  refine Std.ExtTreeMap.ordered_keys_toList.imp_of_mem fun {a b} here there lt => ?_
  have instant := Ordering.then_eq_lt.1 (show (compare a.1.instant b.1.instant).then
    (compare a.1.zone.offset b.1.zone.offset) = .lt from lt)
  rcases instant with earlier | ⟨-, offset⟩
  · exact Int.compare_eq_lt.1 earlier
  · rw [zoned a here, zoned b there, Std.ReflOrd.compare_self] at offset
    cases offset

theorem zone_periodStart (b : Bucket) (g : Granularity) : (b.periodStart g).zone = b.zone := by
  cases g <;> rfl

/-- The hot tier is read in the zone of the range. -/
theorem zone_readParts (history : w.hot = (Hot.Store.empty lifespan).afterCalls calls)
    {part : Key × Traffic} (read : part ∈ readParts c o filter range w) :
    part.1.bucket.zone = range.start.zone := by
  rw [← Hot.Store.after_history] at history
  obtain ⟨r, found, rfl⟩ := List.mem_map.1 read
  obtain ⟨bucket, served, told⟩ := List.mem_flatMap.1 (List.mem_filter.1 found).1
  obtain ⟨key, member, made⟩ := List.mem_filterMap.1 told
  have own : key.bucket = bucket := by
    have member := Hot.Store.mem_membersOf_of_expire member
    rw [history] at member
    exact Hot.Store.bucket_of_mem_membersOf member
  obtain ⟨entry, -, rfl⟩ := Option.map_eq_some_iff.1 made
  have inside := (List.mem_filter.1 (List.mem_filter.1 served).1).1
  show key.bucket.zone = _
  rw [own]
  exact (BucketRange.mem_buckets.1 inside).1

theorem zone_hourParts (history : w.hot = (Hot.Store.empty lifespan).afterCalls calls)
    (zoned : ∀ row ∈ w.cold.rows.toList, row.1.bucket.zone = c.zone)
    (started : range.start.zone = c.zone) {part : Bucket × Traffic}
    (read : part ∈ hourParts c o filter range w) : part.1.zone = c.zone := by
  rcases List.mem_append.1 read with cold | hot
  · obtain ⟨row, member, rfl⟩ := List.mem_map.1 cold
    have row := (List.mem_filter.1 (List.mem_filter.1 (List.mem_of_mem_take member)).1).1
    exact zoned _ row
  · obtain ⟨part, member, rfl⟩ := List.mem_map.1 hot
    exact (zone_readParts history member).trans started

/-! ## Roll-ups -/

/-- The periods of a coarser trend roll up the hours. -/
theorem rollsUp_periods (parts : List (Bucket × Traffic)) (g : Granularity) :
    Cold.RollsUp g.truncate
      (Cold.Sums.ofList (parts.map fun part => (part.1.periodStart .hour, part.2))).toList
      (Cold.Sums.ofList (parts.map fun part => (part.1.periodStart g, part.2))).toList := by
  have rolls := (Cold.Sums.rollsUp_ofList g.truncate
    (parts.map fun part => (part.1.periodStart .hour, part.2))).of_parts
  rw [List.map_map] at rolls
  simpa only [Function.comp_def, Bucket.truncate_periodStart] using rolls

theorem normalize_of_coversDays {z : Zone} (covers : window.CoversDays z) (g : Granularity) :
    window.normalize z (alignOf g) = .ok (window.hours z) := by
  cases g with
  | hour => exact window.normalize_hour z
  | day | month =>
    rw [← Window.hours_wholeDays covers]
    exact window.normalize_day z

/-- A window is read as the whole days that it touches. -/
theorem trend_wholeDays (c : Settings) (filter : Option ResourceType) (window : Window)
    (coarse : g ≠ .hour) :
    trend c filter window g = trend c filter (window.wholeDays c.zone) g := by
  have align : alignOf g = .day := by
    cases g with
    | hour => exact (coarse rfl).elim
    | day | month => rfl
  have same : window.normalize c.zone .day = (window.wholeDays c.zone).normalize c.zone .day := by
    rw [window.normalize_day, Window.normalize_day,
      Window.hours_wholeDays (window.coversDays_wholeDays c.zone)]
  unfold trend normalize
  rw [align, same]

/-- Trends of a window of whole days, on stores of which the hot one has come about by some calls,
while hours of the hot tier and the cold tier may be down. If the cold tier is down all of them may
fail with it. Otherwise the hourly series is what is read, summed by hour; the series ascend, those
of days and months are the hourly one summed once more, and the same is told of what may be lacking.
For any other window, trends of days and months are those of the days that it touches. -/
theorem trends_roll_up (c : Settings) (hour? : Bucket → Option Error) (cold? : Option Error)
    (filter : Option ResourceType) {lifespan : Int} {calls : List Call} {w : World}
    (history : w.hot = (Hot.Store.empty lifespan).afterCalls calls)
    (zoned : ∀ row ∈ w.cold.rows.toList, row.1.bucket.zone = c.zone) (window : Window) :
    (window.CoversDays c.zone →
      (∃ e, coldDown? cold? w = some e ∧
        ∀ g, (Outage.ofTiers hour? cold?).Gives (trend c filter window g) w (.error e)) ∨
      ∃ series : Granularity → List (Moment × Traffic),
        Cold.RollsUp (Bucket.periodStart · .hour)
          (hourParts c (.ofTiers hour? cold?) filter (window.hours c.zone) w) (series .hour) ∧
        ∀ g, (Outage.ofTiers hour? cold?).Gives (trend c filter window g) w
            (.ok ⟨series g,
              lacks c (.ofTiers hour? cold?) .platform filter (window.hours c.zone) w⟩) ∧
          Ascending (series g) ∧ Cold.RollsUp g.truncate (series .hour) (series g)) ∧
    (window.wholeDays c.zone).CoversDays c.zone ∧
    ∀ g, g ≠ .hour → trend c filter window g = trend c filter (window.wholeDays c.zone) g := by
  refine ⟨fun covers => ?_, window.coversDays_wholeDays c.zone,
    fun g => trend_wholeDays c filter window⟩
  have gives : ∀ g, (Outage.ofTiers hour? cold?).Gives (trend c filter window g) w
      (trendReads c (.ofTiers hour? cold?) filter (window.hours c.zone) g w) := fun g =>
    gives_of_steady (scheduled_of_history history)
      (steady_trend (normalize_of_coversDays covers g))
  unfold trendReads at gives
  rcases coldFailure?_cases c hour? cold? filter (window.hours c.zone) w with
    ⟨e, down, failure⟩ | calm
  · simp only [failure] at gives
    exact .inl ⟨e, down, gives⟩
  · simp only [calm] at gives
    refine .inr ⟨_, Cold.Sums.rollsUp_ofList (Bucket.periodStart · .hour) _, fun g =>
      ⟨gives g, ascending_toList (z := c.zone) ?_, rollsUp_periods _ g⟩⟩
    rintro ⟨moment, traffic⟩ member
    have key := Cold.Sums.mem_keys_toList.1 (List.mem_map_of_mem member)
    obtain ⟨_, period, rfl⟩ := List.mem_map.1 ((Cold.Sums.isSome_ofList _ _).1 key)
    obtain ⟨part, read, rfl⟩ := List.mem_map.1 period
    exact (zone_periodStart _ g).trans (zone_hourParts history zoned rfl read)

/-- Of the rows that match, the cap leaves out one; one of the two hot hours cannot be read. -/
theorem trends_of_two_days :
    ∃ series : Granularity → List (Moment × Traffic),
      (∀ g result t, Reaches (Outage.ofTiers hourDown none).answer
        (trend twoOfEach none twoDays g).run acrossTiers (.pure result) t →
          result = .ok ⟨series g, [.rowCapExceeded 3 2, .hotDegraded 1]⟩) ∧
      (series .hour).map (·.2) = [.ofNats 10 10, .ofNats 20 20, .ofNats 35 45] ∧
      series .month = [(⟨.ofSeconds 1706716800, twoOfEach.zone⟩, .ofNats 10 10),
        (⟨.ofSeconds 1709222400, twoOfEach.zone⟩, .ofNats 55 65)] := by
  have zoned : ∀ row ∈ acrossTiers.cold.rows.toList, row.1.bucket.zone = twoOfEach.zone := by
    decide +kernel
  have covers : twoDays.CoversDays twoOfEach.zone := ⟨by decide, by decide⟩
  rcases (trends_roll_up twoOfEach hourDown none none rfl zoned twoDays).1 covers with
    ⟨_, down, -⟩ | ⟨series, -, told⟩
  · cases down
  have reads : ∀ g, Except.ok ⟨series g, _⟩ =
      trendReads twoOfEach (.ofTiers hourDown none) none (twoDays.hours twoOfEach.zone) g
        acrossTiers :=
    fun g => (told g).1.unique (gives_of_steady (scheduled_of_history rfl)
      (steady_trend (normalize_of_coversDays covers g)))
  simp only [trendReads_twoDays, Except.ok.injEq, Answer.mk.injEq] at reads
  rw [(reads .hour).2] at told
  refine ⟨series, fun g => (told g).1.2, ?_, ?_⟩
  · rw [(reads .hour).1]
    decide +kernel
  · rw [(reads .month).1]
    decide +kernel

/-- Over the whole platform, all that is read is one group. -/
theorem platformParts_eq : coldParts c .platform filter range w ++
      (readParts c o filter range w).map (fun part => (Group.ofKey .platform part.1, part.2)) =
    (hourParts c o filter range w).map fun part => (Group.total, part.2) := by
  rw [hourParts, List.map_append, List.map_map, List.map_map, coldParts]
  exact congrArg (· ++ _) (congrFun (List.filterMap_eq_map ..) _)

/-- The total of a window and its hourly trend, on stores of which the hot one has come about by
some calls, while hours of the hot tier and the cold tier may be down. Both fail with the cold tier,
or the points are what is read, summed by hour, the total is the saturating sum of the points, and
the same is told of what may be lacking. -/
theorem total_eq_sum_trend (c : Settings) (hour? : Bucket → Option Error) (cold? : Option Error)
    (filter : Option ResourceType) {lifespan : Int} {calls : List Call} {w : World}
    (history : w.hot = (Hot.Store.empty lifespan).afterCalls calls) (window : Window) :
    (∃ e, coldDown? cold? w = some e ∧
      (Outage.ofTiers hour? cold?).Gives (total c filter window) w (.error e) ∧
      (Outage.ofTiers hour? cold?).Gives (trend c filter window .hour) w (.error e)) ∨
    ∃ points : List (Moment × Traffic),
      Cold.RollsUp (Bucket.periodStart · .hour)
        (hourParts c (.ofTiers hour? cold?) filter (window.hours c.zone) w) points ∧
      (Outage.ofTiers hour? cold?).Gives (trend c filter window .hour) w
        (.ok ⟨points, lacks c (.ofTiers hour? cold?) .platform filter (window.hours c.zone) w⟩) ∧
      (Outage.ofTiers hour? cold?).Gives (total c filter window) w
        (.ok ⟨.sum (points.map (·.2)),
          lacks c (.ofTiers hour? cold?) .platform filter (window.hours c.zone) w⟩) := by
  have scheduled := scheduled_of_history history
  have trended : (Outage.ofTiers hour? cold?).Gives (trend c filter window .hour) w
      (trendReads c (.ofTiers hour? cold?) filter (window.hours c.zone) .hour w) :=
    gives_of_steady scheduled (steady_trend (window.normalize_hour c.zone))
  have totalled : (Outage.ofTiers hour? cold?).Gives (total c filter window) w _ :=
    gives_of_steady scheduled steady_total
  unfold trendReads at trended
  unfold mergedReads at totalled
  rcases coldFailure?_cases c hour? cold? filter (window.hours c.zone) w with
    ⟨e, down, failure⟩ | calm
  · rw [failure] at trended totalled
    exact .inl ⟨e, down, totalled, trended⟩
  · rw [calm] at trended totalled
    refine .inr ⟨_, Cold.Sums.rollsUp_ofList (Bucket.periodStart · .hour) _, trended, ?_⟩
    have sums := Cold.Sums.getD_ofList_const Group.total
      ((hourParts c (.ofTiers hour? cold?) filter (window.hours c.zone) w).map fun part =>
        (part.1.periodStart .hour, part.2))
    rw [List.map_map] at sums
    rw [platformParts_eq] at totalled
    rw [← sums]
    exact totalled

/-- The total is what three hours have, one of them without a subscription. -/
theorem total_of_two_days :
    ∃ points : List (Moment × Traffic),
      (Outage.ofTiers hourDown none).Gives (trend twoOfEach none twoDays .hour) acrossTiers
        (.ok ⟨points, [.rowCapExceeded 3 2, .hotDegraded 1]⟩) ∧
      (Outage.ofTiers hourDown none).Gives (total twoOfEach none twoDays) acrossTiers
        (.ok ⟨.ofNats 65 75, [.rowCapExceeded 3 2, .hotDegraded 1]⟩) ∧
      points.map (·.2) = [.ofNats 10 10, .ofNats 20 20, .ofNats 35 45] := by
  rcases total_eq_sum_trend twoOfEach hourDown none none (w := acrossTiers) rfl twoDays with
    ⟨_, down, -⟩ | ⟨points, -, trended, totalled⟩
  · cases down
  have reads : Except.ok ⟨points, _⟩ =
      trendReads twoOfEach (.ofTiers hourDown none) none (twoDays.hours twoOfEach.zone) .hour
        acrossTiers :=
    trended.unique (gives_of_steady (scheduled_of_history rfl)
      (steady_trend (twoDays.normalize_hour _)))
  simp only [trendReads_twoDays, Except.ok.injEq, Answer.mk.injEq] at reads
  obtain ⟨hours, flags⟩ := reads
  have sums : points.map (·.2) = [.ofNats 10 10, .ofNats 20 20, .ofNats 35 45] := by
    rw [hours]
    decide +kernel
  rw [flags] at trended totalled
  rw [sums] at totalled
  exact ⟨points, trended, totalled, sums⟩

end Query

end Metering

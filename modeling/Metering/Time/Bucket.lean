import Metering.Decimal.Integer
import Metering.Time.Zone

/-!
# Hour buckets

A bucket is one hour of a zone's local clock, given by its number since the local 1970. Its label
is `YYYYMMDDHH`. Within a zone, buckets, their labels (of years with four digits) and their scores
are in the same order.

`<` and `≤` compare the starts alone. Equality and the order of keys also tell the zones apart where
two hours start together, so that equal buckets have equal labels. What is keyed by buckets, stores
above all, is meant to be filled in one zone: there, buckets with one start are equal.
-/

namespace Metering

/-- An hour of a zone's local clock. -/
@[ext]
structure Bucket where
  zone : Zone
  /-- Hours on the local clock since its 1970. -/
  hour : Int
deriving DecidableEq, Inhabited

namespace Bucket

/-- Second at which the bucket starts. -/
def startSeconds (b : Bucket) : Int := b.hour * 3600 - b.zone.offset

/-- Instant at which the bucket starts. -/
def start (b : Bucket) : Instant := .ofSeconds b.startSeconds

/-- The start, seen in the bucket's zone. -/
def moment (b : Bucket) : Moment := ⟨b.start, b.zone⟩

/-- The following bucket. -/
def next (b : Bucket) : Bucket := ⟨b.zone, b.hour + 1⟩

/-- The preceding bucket. -/
def prev (b : Bucket) : Bucket := ⟨b.zone, b.hour - 1⟩

/-- Instant at which the bucket ends. -/
def stop (b : Bucket) : Instant := b.next.start

/-- The bucket, if the calendar has its start. -/
def inCalendar? (b : Bucket) : Option Bucket := if b.start.InCalendar then some b else none

/-- Hours from the start of 1970 in UTC to the start of the bucket, rounded down. -/
def score (b : Bucket) : Int := b.startSeconds / 3600

/-- Start of the period that contains the bucket. -/
def periodStart (b : Bucket) (g : Granularity) : Moment := g.truncate b.moment

/-- Buckets compare by their start. -/
instance : LT Bucket := ⟨fun a b => a.startSeconds < b.startSeconds⟩
instance : LE Bucket := ⟨fun a b => a.startSeconds ≤ b.startSeconds⟩
instance (a b : Bucket) : Decidable (a < b) :=
  inferInstanceAs (Decidable (a.startSeconds < b.startSeconds))
instance (a b : Bucket) : Decidable (a ≤ b) :=
  inferInstanceAs (Decidable (a.startSeconds ≤ b.startSeconds))

theorem lt_def {a b : Bucket} : a < b ↔ a.startSeconds < b.startSeconds := Iff.rfl

theorem le_def {a b : Bucket} : a ≤ b ↔ a.startSeconds ≤ b.startSeconds := Iff.rfl

/-- The order of buckets as keys: by start, and by zone where two zones start an hour together. -/
instance : Ord Bucket := ⟨compareLex (compareOn startSeconds) (compareOn (·.zone.offset))⟩

instance : Std.TransOrd Bucket :=
  inferInstanceAs (Std.TransCmp (compareLex (compareOn startSeconds)
    (compareOn fun b : Bucket => b.zone.offset)))

instance : Std.LawfulEqOrd Bucket where
  eq_of_compare {a b} h := by
    have h' := Ordering.then_eq_eq.1 (show (compare a.startSeconds b.startSeconds).then
      (compare a.zone.offset b.zone.offset) = .eq from h)
    have hs := Std.LawfulEqCmp.eq_of_compare h'.1
    have hz := Std.LawfulEqCmp.eq_of_compare h'.2
    unfold startSeconds at hs
    exact Bucket.ext (Zone.ext hz) (by omega)

/-- The `YYYYMMDDHH` label. -/
def label (b : Bucket) : String :=
  let date := Date.ofDays (b.hour / 24)
  Date.yearText date.year ++ Date.padded 2 date.month.toNat ++ Date.padded 2 date.day.toNat ++
    Date.padded 2 (b.hour % 24).toNat

end Bucket

namespace Zone

/-- The bucket that contains `t`. -/
def bucketOf (z : Zone) (t : Instant) : Bucket := ⟨z, (z.moment t).localSeconds / 3600⟩

/-- Why a label names no bucket. -/
inductive LabelFault
  | shape
  | date
deriving DecidableEq

/-- The bucket that a label names: ten digits, of which the first eight are a date of the calendar
and the last two an hour. -/
def bucket? (z : Zone) (label : String) : Except LabelFault Bucket :=
  let cs := label.toList
  if cs.length = 10 ∧ cs.all (·.isDigit) then
    let field (start size : Nat) : Int := Decimal.value ((cs.drop start).take size)
    let date : Date := ⟨field 0 4, field 4 2, field 6 2⟩
    let hour := field 8 2
    if date.isValid ∧ hour < 24 then .ok ⟨z, date.toDays * 24 + hour⟩ else .error .date
  else .error .shape

end Zone

end Metering

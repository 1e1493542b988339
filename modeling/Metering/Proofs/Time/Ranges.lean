import Metering.Proofs.Ledger.Spans
import Metering.Proofs.Query.Parts

/-!
# Hours of a range

A walk over a range steps from its start by whole hours and ends before its end. The length of a range
is a difference of scores, which are rounded down to the hours of UTC. The two agree unless the end
lies further into its hour of UTC than the start, which two zones can bring about; then the walk
meets one bucket more, and a range of a single bucket has length zero.

Results:
1. `BucketRange.getElem?_hoursFrom`: the walk, hour by hour.
2. `BucketRange.length_buckets`: length and number of buckets.
3. `BucketRange.hours_counted`: what holds of every range that can be made.
-/

namespace Metering

namespace Bucket

variable {a b : Bucket} {n : Nat}

/-- The bucket a number of hours later. -/
def hoursLater (b : Bucket) (n : Nat) : Bucket := ⟨b.zone, b.hour + n⟩

@[simp] theorem hoursLater_zero (b : Bucket) : b.hoursLater 0 = b :=
  Bucket.ext rfl (Int.add_zero _)

theorem hoursLater_next (b : Bucket) (n : Nat) : b.next.hoursLater n = b.hoursLater (n + 1) := by
  refine Bucket.ext rfl ?_
  simp only [hoursLater, next]
  omega

theorem startSeconds_hoursLater (b : Bucket) (n : Nat) :
    (b.hoursLater n).startSeconds = b.startSeconds + n * 3600 := by
  simp only [startSeconds, hoursLater]
  omega

theorem start_hoursLater (b : Bucket) (n : Nat) :
    (b.hoursLater n).start = b.start.addSeconds (n * 3600) := by
  refine Instant.ext ?_
  rw [Instant.nanos_addSeconds, nanos_start, nanos_start, startSeconds_hoursLater, Int.add_mul]

end Bucket

namespace BucketRange

/-- A walk gives the hours that start before its end, one after the other. -/
theorem getElem?_hoursFrom (b stop : Bucket) (n : Nat) :
    (hoursFrom b stop)[n]? = if b.hoursLater n < stop then some (b.hoursLater n) else none := by
  induction b using hoursFrom.induct stop generalizing n with
  | case1 b before ih =>
    rw [hoursFrom, if_pos before]
    cases n with
    | zero =>
      rw [Bucket.hoursLater_zero]
      exact (if_pos before).symm
    | succ n => rw [List.getElem?_cons_succ, ih, Bucket.hoursLater_next]
  | case2 b after =>
    have past : ¬ b.hoursLater n < stop := by
      rw [Bucket.lt_def, Bucket.startSeconds_hoursLater]
      omega
    rw [hoursFrom, if_neg after, if_neg past, List.getElem?_nil]

theorem lt_length_hoursFrom {b stop : Bucket} {n : Nat} :
    n < (hoursFrom b stop).length ↔ b.hoursLater n < stop := by
  rw [← Nat.not_le, ← List.getElem?_eq_none_iff, getElem?_hoursFrom]
  split <;> simp [*]

variable {r : BucketRange}

/-- The end lies further into its hour of UTC than the start. -/
def IsRagged (r : BucketRange) : Prop :=
  r.start.startSeconds % 3600 < r.stop.startSeconds % 3600

instance (r : BucketRange) : Decidable r.IsRagged := inferInstanceAs (Decidable (_ < _))

/-- Within one zone no range is ragged. -/
theorem not_isRagged (same : r.start.zone = r.stop.zone) : ¬ r.IsRagged := by
  unfold IsRagged Bucket.startSeconds
  rw [same]
  omega

/-- A ragged range has one bucket more than its length says. -/
theorem length_buckets (r : BucketRange) :
    r.buckets.length = r.length + if r.IsRagged then 1 else 0 := by
  have walked (n : Nat) : n < r.buckets.length ↔
      r.start.startSeconds + n * 3600 < r.stop.startSeconds := by
    rw [buckets, lt_length_hoursFrom, Bucket.lt_def, Bucket.startSeconds_hoursLater]
  have before : r.start.startSeconds < r.stop.startSeconds := r.start_lt_stop
  -- the number of buckets is the first number of hours that reaches the end
  have all := walked r.buckets.length
  have last := walked (r.buckets.length - 1)
  by_cases ragged : r.IsRagged
  · rw [if_pos ragged]
    unfold IsRagged at ragged
    unfold length Bucket.score
    omega
  · rw [if_neg ragged]
    unfold IsRagged at ragged
    unfold length Bucket.score
    omega

theorem length_eq (same : r.start.zone = r.stop.zone) : r.length = r.buckets.length := by
  rw [length_buckets, if_neg (not_isRagged same), Nat.add_zero]

theorem length_buckets_pos (r : BucketRange) : 0 < r.buckets.length := by
  rw [buckets, lt_length_hoursFrom, Bucket.hoursLater_zero]
  exact r.start_lt_stop

/-- Only a ragged range of a single bucket looks empty. -/
theorem isEmpty_iff (r : BucketRange) :
    r.isEmpty = true ↔ r.IsRagged ∧ r.buckets.length = 1 := by
  have some := r.length_buckets_pos
  have count := r.length_buckets
  rw [isEmpty, beq_iff_eq]
  by_cases ragged : r.IsRagged
  · rw [if_pos ragged] at count
    rw [count]
    simp [ragged]
  · rw [if_neg ragged] at count
    simp only [ragged, false_and, iff_false]
    omega

theorem between_of_lt {start stop : Bucket} (before : start < stop) :
    between start stop = .ok ⟨start, stop, before⟩ := by
  unfold between between?
  rw [dif_pos before]

/-- A range can be made of any two buckets of which the first starts earlier. Its buckets are the
start and what follows it by whole hours, as far as that starts before the end, and it contains each
of them. Its length is their number and it is not empty, unless it is ragged: then its length is one
short, and it is empty if it has a single bucket. -/
theorem hours_counted {start stop : Bucket} (before : start < stop) :
    ∃ r, between start stop = .ok r ∧ r.start = start ∧ r.stop = stop ∧
      (∀ n, r.buckets[n]? =
        if start.hoursLater n < stop then some (start.hoursLater n) else none) ∧
      (∀ n, (start.hoursLater n).start = start.start.addSeconds (n * 3600)) ∧
      (∀ b ∈ r.buckets, r.contains b = true) ∧
      r.buckets.length = r.length + (if r.IsRagged then 1 else 0) ∧
      (r.isEmpty = true ↔ r.IsRagged ∧ r.buckets.length = 1) ∧
      (r.length = r.buckets.length ∧ r.isEmpty = false ↔ ¬ r.IsRagged) := by
  refine ⟨_, between_of_lt before, rfl, rfl, getElem?_hoursFrom start stop, start.start_hoursLater,
    fun b member => (mem_buckets.1 member).2, length_buckets _, isEmpty_iff _, ?_⟩
  have count := length_buckets ⟨start, stop, before⟩
  have empty := isEmpty_iff ⟨start, stop, before⟩
  constructor
  · rintro ⟨same, -⟩ ragged
    rw [if_pos ragged] at count
    omega
  · intro even
    rw [if_neg even] at count
    exact ⟨count.symm, Bool.eq_false_iff.2 fun told => even (empty.1 told).1⟩

/-- From eight o'clock at +08:00 to noon at +05:30 there are seven hours, of which the last is cut
in half, and the length of the range is six. -/
theorem hours_counted_across_zones :
    let start : Bucket := ⟨⟨28800, by decide, by decide⟩, 474800⟩
    let stop : Bucket := ⟨⟨19800, by decide, by decide⟩, 474804⟩
    start < stop ∧ ∃ r, between start stop = .ok r ∧ r.length = 6 ∧ r.buckets.length = 7 ∧
      r.buckets[6]? = some (start.hoursLater 6) ∧ r.isEmpty = false := by
  intro start stop
  have before : start < stop := by decide
  obtain ⟨r, made, first, last, walk, -, -, count, empty, -⟩ := hours_counted before
  have length : r.length = 6 := by
    rw [BucketRange.length, first, last]
    decide
  have ragged : r.IsRagged := by
    rw [IsRagged, first, last]
    decide
  rw [length, if_pos ragged] at count
  refine ⟨before, r, made, length, count, (walk 6).trans (if_pos (by decide)), ?_⟩
  exact Bool.eq_false_iff.2 fun told => absurd (empty.1 told).2 (by omega)

/-- From eight o'clock at +08:00 to six at +05:30 it is half an hour. The range has a bucket, which
it contains, and says that it is empty. -/
theorem ragged_hour_is_empty :
    let start : Bucket := ⟨⟨28800, by decide, by decide⟩, 474800⟩
    let stop : Bucket := ⟨⟨19800, by decide, by decide⟩, 474798⟩
    start < stop ∧ ∃ r, between start stop = .ok r ∧ r.isEmpty = true ∧ r.length = 0 ∧
      r.buckets = [start] ∧ r.contains start = true := by
  refine ⟨by decide, _, between_of_lt (by decide), by decide, by decide, ?_, by decide⟩
  rw [buckets, hoursFrom, if_pos (by decide), hoursFrom, if_neg (by decide)]

end BucketRange

end Metering

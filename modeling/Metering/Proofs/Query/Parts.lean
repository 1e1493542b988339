import Metering.Query

/-!
# The parts of a window

A query cuts its range at the start of the retention window. Every bucket of the range is in exactly
one part, and the hot part, which ends with the current bucket, is walked hour by hour.

Results:
1. `BucketRange.mem_buckets`: the hours that a walk over a range meets.
2. `BucketRange.contains_splitAt_cold`, `BucketRange.contains_splitAt_hot`: a bucket of a range is
   in the part on its side of the cut.
3. `Query.mem_hotBuckets`: the buckets that are read from the hot tier.
-/

namespace Metering

namespace Bucket

variable {a b c : Bucket}

theorem lt_earlier_iff : c < a.earlier b ↔ c < a ∧ c < b := by
  unfold earlier
  simp only [lt_def]
  split <;> omega

theorem later_le_iff : a.later b ≤ c ↔ a ≤ c ∧ b ≤ c := by
  unfold later
  simp only [lt_def, le_def]
  split <;> omega

/-- Hours of one zone do not overlap. -/
theorem lt_next_iff (same : a.zone = b.zone) : a < b.next ↔ a ≤ b := by
  simp only [lt_def, le_def, next, startSeconds, same]
  omega

theorem eq_or_next_le (same : a.zone = b.zone) (le : b ≤ a) : a = b ∨ b.next ≤ a := by
  obtain ⟨zone, hour⟩ := a
  obtain ⟨zone', hour'⟩ := b
  obtain rfl : zone = zone' := same
  simp only [Bucket.mk.injEq, le_def, next, startSeconds, true_and] at le ⊢
  omega

end Bucket

namespace BucketRange

theorem contains_iff {r : BucketRange} {b : Bucket} :
    r.contains b = true ↔ r.start ≤ b ∧ b < r.stop := by
  simp [contains]

theorem mem_hoursFrom {b start stop : Bucket} :
    b ∈ hoursFrom start stop ↔ b.zone = start.zone ∧ start ≤ b ∧ b < stop := by
  induction start using hoursFrom.induct stop with
  | case1 start before ih =>
    rw [hoursFrom, if_pos before, List.mem_cons, ih]
    constructor
    · rintro (rfl | ⟨same, le, lt⟩)
      · exact ⟨rfl, Int.le_refl _, before⟩
      · refine ⟨same, Int.le_trans ?_ le, lt⟩
        simp only [Bucket.next, Bucket.startSeconds]
        omega
    · rintro ⟨same, le, lt⟩
      exact (Bucket.eq_or_next_le same le).imp_right fun le => ⟨same, le, lt⟩
  | case2 start after =>
    rw [hoursFrom, if_neg after]
    refine iff_of_false List.not_mem_nil ?_
    rintro ⟨-, le, lt⟩
    exact after (Int.lt_of_le_of_lt le lt)

/-- The hours of a range, seen in the zone of its start. -/
theorem mem_buckets {r : BucketRange} {b : Bucket} :
    b ∈ r.buckets ↔ b.zone = r.start.zone ∧ r.contains b = true := by
  rw [buckets, mem_hoursFrom, contains_iff]

theorem nodup_hoursFrom (start stop : Bucket) : (hoursFrom start stop).Nodup := by
  induction start using hoursFrom.induct stop with
  | case1 start before ih =>
    rw [hoursFrom, if_pos before, List.nodup_cons]
    refine ⟨fun member => ?_, ih⟩
    have le := (mem_hoursFrom.1 member).2.1
    simp only [Bucket.le_def, Bucket.next, Bucket.startSeconds] at le
    omega
  | case2 start after =>
    rw [hoursFrom, if_neg after]
    exact List.nodup_nil

/-! ## Cuts -/

theorem contains_between? {start stop b : Bucket} :
    (∃ r ∈ between? start stop, r.contains b = true) ↔ start ≤ b ∧ b < stop := by
  unfold between?
  split
  · simp [contains_iff]
  · next after =>
    refine iff_of_false (by simp) fun ⟨le, lt⟩ => after ?_
    exact Int.lt_of_le_of_lt le lt

theorem start_of_mem_between? {start stop : Bucket} {r : BucketRange}
    (made : r ∈ between? start stop) : r.start = start := by
  unfold between? at made
  split at made
  · cases made
    rfl
  · cases made

variable {r : BucketRange} {boundary b : Bucket}

theorem contains_splitAt_cold :
    (∃ cold ∈ (r.splitAt boundary).1, cold.contains b = true) ↔
      r.contains b = true ∧ b < boundary := by
  unfold splitAt
  rw [contains_between?, contains_iff, Bucket.lt_earlier_iff]
  exact ⟨fun ⟨le, before, lt⟩ => ⟨⟨le, lt⟩, before⟩, fun ⟨⟨le, lt⟩, before⟩ => ⟨le, before, lt⟩⟩

theorem contains_splitAt_hot :
    (∃ hot ∈ (r.splitAt boundary).2, hot.contains b = true) ↔
      r.contains b = true ∧ boundary ≤ b := by
  unfold splitAt
  rw [contains_between?, contains_iff, Bucket.later_le_iff]
  exact ⟨fun ⟨⟨from', le⟩, lt⟩ => ⟨⟨le, lt⟩, from'⟩, fun ⟨⟨le, lt⟩, from'⟩ => ⟨⟨from', le⟩, lt⟩⟩

end BucketRange

namespace Window

/-- The hours of a window in a zone. -/
def hours (w : Window) (z : Zone) : BucketRange where
  start := z.bucketOf w.start
  stop := (z.bucketOf w.stop).next
  start_lt_stop := by
    have le := w.start_le_stop
    simp only [Instant.le_def, Bucket.lt_def, Bucket.next, Bucket.startSeconds, Zone.bucketOf,
      Moment.localSeconds, Zone.moment, Instant.seconds, Instant.nanosPerSecond] at le ⊢
    omega

/-- Widening a window to whole hours never fails. -/
theorem normalize_hour (w : Window) (z : Zone) : w.normalize z .hour = .ok (w.hours z) := by
  have made : BucketRange.between? (z.bucketOf w.start) (z.bucketOf w.stop).next =
      some (w.hours z) := dif_pos (w.hours z).start_lt_stop
  unfold normalize BucketRange.between wideStart wideStop
  dsimp only
  rw [made]

end Window

namespace Query

/-- The buckets of a part that are read from the hot tier at `now`. -/
def hotBuckets (c : Settings) (now : Instant) (range? : Option BucketRange) : List Bucket :=
  ((range?.bind (untilNow c now)).map (·.buckets)).getD []

theorem nodup_hotBuckets (c : Settings) (now : Instant) (range? : Option BucketRange) :
    (hotBuckets c now range?).Nodup := by
  unfold hotBuckets
  cases range?.bind (untilNow c now) with
  | none => exact List.nodup_nil
  | some range => exact BucketRange.nodup_hoursFrom _ _

theorem mem_hotBuckets {c : Settings} {now : Instant} {range? : Option BucketRange}
    (zoned : ∀ range ∈ range?, range.start.zone = c.zone) {b : Bucket} :
    b ∈ hotBuckets c now range? ↔ b.zone = c.zone ∧ (∃ range ∈ range?, range.contains b = true) ∧
      b ≤ c.zone.bucketOf now := by
  have parts : ∀ part? : Option BucketRange, b ∈ (part?.map (·.buckets)).getD [] ↔
      ∃ part ∈ part?, b.zone = part.start.zone ∧ part.contains b = true := by
    intro part?
    cases part? <;> simp [BucketRange.mem_buckets]
  have walked : ∀ range ∈ range?, (∃ part ∈ untilNow c now range, b.zone = part.start.zone ∧
      part.contains b = true) ↔
        b.zone = c.zone ∧ range.contains b = true ∧ b ≤ c.zone.bucketOf now := by
    intro range told
    have within : (∃ part ∈ untilNow c now range, part.contains b = true) ↔
        range.start ≤ b ∧ b < range.stop.earlier (c.zone.bucketOf now).next :=
      BucketRange.contains_between?
    rw [Bucket.lt_earlier_iff] at within
    constructor
    · rintro ⟨part, made, zone, contains⟩
      rw [BucketRange.start_of_mem_between? made, zoned range told] at zone
      obtain ⟨le, lt, next⟩ := within.1 ⟨part, made, contains⟩
      exact ⟨zone, BucketRange.contains_iff.2 ⟨le, lt⟩, (Bucket.lt_next_iff zone).1 next⟩
    · rintro ⟨zone, contains, le⟩
      obtain ⟨from', lt⟩ := BucketRange.contains_iff.1 contains
      obtain ⟨part, made, contains⟩ := within.2 ⟨from', lt, (Bucket.lt_next_iff zone).2 le⟩
      refine ⟨part, made, ?_, contains⟩
      rw [BucketRange.start_of_mem_between? made, zoned range told]
      exact zone
  unfold hotBuckets
  rw [parts]
  cases range? with
  | none => simp
  | some range => simpa using walked range rfl

end Query

end Metering

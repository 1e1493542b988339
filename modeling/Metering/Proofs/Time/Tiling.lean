import Metering.Proofs.Ledger.Spans
import Metering.Proofs.Time.Labels

/-!
# Hours tile time

On the local clock of a zone the hours follow each other without a gap. An instant lies in one of
them, which is the one that is found for it, also before 1970 and between two seconds. Labels and
scores name the hours and keep their order.

Results:
1. `Zone.bucketOf_eq_iff`: the hour of an instant is the one that it lies in.
2. `Zone.hours_tile`: hours, their labels and their scores.
-/

namespace Metering

namespace Zone

variable {z : Zone} {t : Instant} {b : Bucket}

theorem le_bucketOf_iff (same : b.zone = z) : b ≤ z.bucketOf t ↔ b.start ≤ t := by
  subst same
  simp only [Bucket.le_def, Instant.le_def, Bucket.nanos_start, Bucket.startSeconds, bucketOf,
    Moment.localSeconds, moment, Instant.seconds, Instant.nanosPerSecond]
  omega

/-- An instant lies in one hour of a zone. -/
theorem bucketOf_eq_iff : z.bucketOf t = b ↔ b.zone = z ∧ b.start ≤ t ∧ t < b.stop := by
  constructor
  · rintro rfl
    exact ⟨rfl, start_bucketOf_le, (bucketOf_le_iff rfl).1 (Int.le_refl _)⟩
  · rintro ⟨rfl, started, goes⟩
    have least := (le_bucketOf_iff rfl).2 started
    have most := (bucketOf_le_iff rfl).2 goes
    refine Bucket.ext rfl ?_
    simp only [Bucket.le_def, Bucket.startSeconds, bucketOf] at least most ⊢
    omega

/-- The hour of an instant is of the day of the instant. -/
theorem date_bucketOf (z : Zone) (t : Instant) :
    (z.bucketOf t).moment.date = (z.moment t).date := by
  unfold Moment.date
  rw [Bucket.localSeconds_moment]
  congr 1
  change (z.moment t).localSeconds / 3600 * 3600 / 86400 = _
  omega

/-- The hours of a zone tile time, and their labels and scores are faithful: an instant lies in the
hour that is found for it and in no other; an hour starts with an hour of the local clock; in years
of four digits a label is read back, and what is read is the label; hours, their scores and their
labels are in one order, and the next hour has the next score. -/
theorem hours_tile (z : Zone) :
    (∀ t : Instant, (z.bucketOf t).start ≤ t ∧ t < (z.bucketOf t).stop ∧
      (∀ u : Instant, (z.bucketOf t).start ≤ u → u < (z.bucketOf t).stop →
        z.bucketOf u = z.bucketOf t) ∧
      (z.bucketOf t).zone = z ∧ (z.bucketOf t).moment.date = (z.moment t).date) ∧
    (∀ b : Bucket, b.zone = z → b.moment.localSeconds % 3600 = 0 ∧ b.start.subsecond = 0) ∧
    (∀ b : Bucket, b.zone = z → b.moment.HasFourDigitYear → z.parseBucket b.label = .ok b) ∧
    (∀ (label : String) (b : Bucket), z.parseBucket label = .ok b →
      b.label = label ∧ b.zone = z ∧ b.moment.HasFourDigitYear) ∧
    (∀ a b : Bucket, a.zone = z → b.zone = z → (a < b ↔ a.score < b.score) ∧
      (a.moment.HasFourDigitYear → b.moment.HasFourDigitYear → (a < b ↔ a.label < b.label))) ∧
    ∀ b : Bucket, b.zone = z → b.next.score = b.score + 1 := by
  refine ⟨fun t => ?_, ?_, ?_, ?_, ?_, fun b _ => b.score_next⟩
  · obtain ⟨-, started, goes⟩ := bucketOf_eq_iff.1 (rfl : z.bucketOf t = z.bucketOf t)
    exact ⟨started, goes, fun u started goes => bucketOf_eq_iff.2 ⟨rfl, started, goes⟩, rfl,
      date_bucketOf z t⟩
  · intro b _
    constructor
    · rw [Bucket.localSeconds_moment]
      omega
    · rw [Instant.subsecond, Bucket.nanos_start]
      exact Int.mul_emod_left _ _
  · rintro b rfl fits
    exact Bucket.parseBucket_label fits
  · intro label b read
    obtain ⟨zone, fits, same⟩ := Bucket.of_parseBucket read
    exact ⟨same, zone, fits⟩
  · rintro a b rfl same
    exact ⟨(Bucket.score_lt_iff same.symm).symm,
      fun ha hb => (Bucket.label_lt_iff same.symm ha hb).symm⟩

/-- Two and a half seconds before 1970 it is half past eight in the evening in a zone at -03:30. -/
theorem hour_before_epoch :
    let z : Zone := ⟨-12600, by decide, by decide⟩
    let t : Instant := .ofParts (-3) 500000000
    let b := z.bucketOf t
    (b.start ≤ t ∧ t < b.stop ∧ b.label = "1969123120" ∧ b.score = -1) ∧
      z.bucketOf b.start = b ∧ z.parseBucket b.label = .ok b ∧ b.label < b.next.label := by
  intro z t b
  obtain ⟨tiles, -, reads, -, ordered, -⟩ := hours_tile z
  obtain ⟨started, goes, constant, -⟩ := tiles t
  have fits : b.moment.HasFourDigitYear ∧ b.next.moment.HasFourDigitYear := by decide
  have later : b < b.next := (ordered b b.next rfl rfl).1.2 (by decide)
  have first : b.start < b.stop := Int.lt_of_le_of_lt started goes
  refine ⟨⟨started, goes, by decide +kernel, by decide⟩, constant _ (Int.le_refl _) first,
    reads b rfl fits.1, ((ordered b b.next rfl rfl).2 fits.1 fits.2).1 later⟩

end Zone

end Metering

import Metering.Ledger

/-!
# Life span and retention window

The bucket of an instant is found by rounding down on the local clock. So a bucket is in the
retention window until the window has gone by its end, which is up to an hour longer than the
retention itself. A record lives by a grace longer than the retention, from its last write on.

Results:
1. `Zone.bucketOf_le_iff`, `Zone.bucketOf_mono`: buckets and instants are in the same order.
2. `Ledger.aligned_of_build`: the parts of a built ledger agree on window and life span.
3. `Ledger.Aligned.outlives`: a record whose write is within the grace of the end of its bucket
   outlives the stay of the bucket in the window.
-/

namespace Metering

/-! ## Hours -/

theorem Instant.ago_le (t : Instant) (lag : Nat) : t.addNanos (-lag) ≤ t := by
  simp only [Instant.le_def, Instant.nanos_addNanos]
  omega

theorem Bucket.nanos_start (b : Bucket) :
    b.start.nanos = b.startSeconds * Instant.nanosPerSecond :=
  Int.add_zero _

theorem Bucket.nanos_stop (b : Bucket) :
    b.stop.nanos = b.start.nanos + 3600 * Instant.nanosPerSecond := by
  simp only [stop, nanos_start, next, startSeconds, Instant.nanosPerSecond]
  omega

namespace Zone

variable {z : Zone} {t u : Instant} {b : Bucket}

theorem bucketOf_le_iff (same : b.zone = z) : z.bucketOf t ≤ b ↔ t < b.stop := by
  subst same
  simp only [Bucket.le_def, Instant.lt_def, Bucket.nanos_stop, Bucket.nanos_start,
    Bucket.startSeconds, bucketOf, Moment.localSeconds, moment, Instant.seconds,
    Instant.nanosPerSecond]
  omega

theorem bucketOf_mono (le : t ≤ u) : z.bucketOf t ≤ z.bucketOf u :=
  (bucketOf_le_iff rfl).2 (Int.lt_of_le_of_lt le ((bucketOf_le_iff rfl).1 (Int.le_refl _)))

theorem start_bucketOf_le : (z.bucketOf t).start ≤ t := by
  simp only [Instant.le_def, Bucket.nanos_start, Bucket.startSeconds, bucketOf,
    Moment.localSeconds, moment, Instant.seconds, Instant.nanosPerSecond]
  omega

end Zone

/-- The window moves on with the clock. -/
theorem Compaction.Settings.boundaryAt_mono {c : Settings} {now later : Instant}
    (le : now ≤ later) : c.boundaryAt now ≤ c.boundaryAt later :=
  Zone.bucketOf_mono (Int.add_le_add_right le _)

/-! ## Ledgers -/

namespace Ledger

/-- The parts of a ledger agree on zone and window, and records live by `grace` nanoseconds longer
than the retention. -/
structure Aligned (l : Ledger) (grace : Int) : Prop where
  zone : l.compaction.zone = l.zone
  boundary : ∀ now, l.query.boundaryAt now = l.compaction.boundaryAt now
  lifespan : l.emptyHotStore.lifespan = l.compaction.retention + grace

/-- A sound configuration makes a ledger. -/
theorem build_eq {config : Config} {zone : Zone} {alert : Alert.Settings} {resolver : Resolver}
    (sound : config.fault? = none)
    (zoned : Zone.ofMinutes config.hot.zoneOffsetMinutes = .ok zone)
    (alerts : Alert.Settings.of config.hot.keyPrefix config.state.alertThresholds
      (config.state.alertTtlSecs * Instant.nanosPerSecond) = .ok alert) :
    Ledger.build config true resolver = .ok {
      config, zone, alert
      compaction := ⟨zone, Side.boundedSpan (config.hot.retentionSecs * Instant.nanosPerSecond)
        (24 * hourSpan), config.compaction⟩
      query := ⟨zone, Side.boundedSpan (config.hot.retentionSecs * Instant.nanosPerSecond)
        (24 * hourSpan), config.query, resolver⟩
      quota := ⟨config.hot.keyPrefix, config.state.quotaTtlSecs * Instant.nanosPerSecond⟩ } := by
  unfold build
  rw [sound, zoned, alerts]
  rfl

/-- What a built ledger is made of. -/
theorem of_build {config : Config} {hasColdStore : Bool} {resolver : Resolver} {l : Ledger}
    (built : Ledger.build config hasColdStore resolver = .ok l) :
    config.fault? = none ∧ l.config = config ∧
      l.compaction = ⟨l.zone, Side.boundedSpan (config.hot.retentionSecs * Instant.nanosPerSecond)
        (24 * hourSpan), config.compaction⟩ ∧
      l.query = ⟨l.zone, Side.boundedSpan (config.hot.retentionSecs * Instant.nanosPerSecond)
        (24 * hourSpan), config.query, resolver⟩ := by
  unfold build at built
  cases fault : config.fault? with
  | some text =>
    rw [fault] at built
    cases built
  | none =>
    rw [fault] at built
    cases hasColdStore with
    | false => cases built
    | true =>
      cases zone : Zone.ofMinutes config.hot.zoneOffsetMinutes with
      | error e =>
        rw [zone] at built
        cases built
      | ok z =>
        rw [zone] at built
        cases alert : Alert.Settings.of config.hot.keyPrefix config.state.alertThresholds
            (config.state.alertTtlSecs * Instant.nanosPerSecond) with
        | error e =>
          simp only [alert] at built
          cases built
        | ok settings =>
          simp only [alert] at built
          cases built
          exact ⟨rfl, rfl, rfl, rfl⟩

theorem lifespan_of_build {config : Config} {hasColdStore : Bool} {resolver : Resolver} {l : Ledger}
    (built : Ledger.build config hasColdStore resolver = .ok l)
    (fits : config.hot.recordTtlSecs * Instant.nanosPerSecond ≤ Side.longestSpan) :
    l.emptyHotStore.lifespan = config.hot.recordTtlSecs * Instant.nanosPerSecond := by
  simp only [emptyHotStore, hotLifespan, Side.boundedSpan, (of_build built).2.1, if_pos fits]

/-- The parts of a ledger agree where its spans can be added to an instant. -/
theorem aligned_of_build {config : Config} {hasColdStore : Bool} {resolver : Resolver} {l : Ledger}
    (built : Ledger.build config hasColdStore resolver = .ok l)
    (fits : config.hot.recordTtlSecs * Instant.nanosPerSecond ≤ Side.longestSpan) :
    l.Aligned (config.hot.ttlGraceSecs * Instant.nanosPerSecond) := by
  obtain ⟨-, -, compaction, query⟩ := of_build built
  have ttl : config.hot.recordTtlSecs = config.hot.retentionSecs + config.hot.ttlGraceSecs := rfl
  have short : config.hot.retentionSecs * Instant.nanosPerSecond ≤ Side.longestSpan := by
    simp only [ttl, Instant.nanosPerSecond] at fits ⊢
    omega
  refine ⟨?_, ?_, ?_⟩
  · rw [compaction]
  · intro now
    rw [compaction, query]
    rfl
  · rw [lifespan_of_build built fits, compaction, ttl, Int.natCast_add, Int.add_mul]
    simp only [Side.boundedSpan, if_pos short]

namespace Aligned

variable {l : Ledger} {grace : Int} {b : Bucket} {t now : Instant}

/-- A bucket is in the window until the window has gone by its end. -/
theorem boundary_le_iff (h : l.Aligned grace) (same : b.zone = l.zone) :
    l.compaction.boundaryAt now ≤ b ↔ now < b.stop.addNanos l.compaction.retention := by
  refine (Zone.bucketOf_le_iff (same.trans h.zone.symm)).trans ?_
  simp only [Instant.lt_def, Instant.nanos_addNanos]
  omega

/-- A record that is written within the grace of the end of its bucket outlives the stay of the
bucket in the window. -/
theorem outlives (h : l.Aligned grace) (same : b.zone = l.zone)
    (covers : b.stop ≤ t.addNanos grace) (inside : l.compaction.boundaryAt now ≤ b) :
    now < t.addNanos l.emptyHotStore.lifespan := by
  have inside := (h.boundary_le_iff same).1 inside
  simp only [Instant.lt_def, Instant.le_def, Instant.nanos_addNanos, h.lifespan] at *
  omega

/-- With a grace of an hour every write is within it of the end of its bucket. -/
theorem covers_of_hour (hour : 3600 * Instant.nanosPerSecond ≤ grace) (started : b.start ≤ t) :
    b.stop ≤ t.addNanos grace := by
  simp only [Instant.le_def, Instant.nanos_addNanos, Bucket.nanos_stop] at *
  omega

/-- With a grace of an hour every write lets a record outlive the stay of its bucket in the
window. -/
theorem renews (h : l.Aligned grace) (hour : 3600 * Instant.nanosPerSecond ≤ grace)
    (started : b.start ≤ t) :
    b.stop.addNanos l.compaction.retention ≤ t.addNanos l.emptyHotStore.lifespan := by
  have covers := covers_of_hour hour started
  simp only [Instant.le_def, Instant.nanos_addNanos, h.lifespan] at *
  omega

end Aligned

end Ledger

end Metering

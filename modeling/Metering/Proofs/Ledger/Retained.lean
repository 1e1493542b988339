import Metering.Proofs.Ledger.Calm

/-!
# Calm runs in the window

As long as a bucket is in the retention window, a calm run takes none of its records away: no work
removes them, and with a grace of an hour or more they do not expire. So the record of a key holds
all that was counted for it, however much of it was flushed.

Results:
1. `Station.retains_in_window`: the record of a key in the window holds what was counted for it.
2. `Station.throughout_dated`: what is counted is in buckets of the zone, none of them to come.
3. `Station.hasCounters_of_calm`: the rows of the cold store are those of hot counters, none empty.
-/

namespace Metering

open Compaction

/-! ## Records -/

namespace Compaction

/-- The live record of a key holds some bytes, and does not expire before `deadline`. -/
structure Retains (hot : Hot.Store) (now : Instant) (key : Key) (deadline : Instant)
    (n : Way → Nat) : Prop where
  traffic : ∀ d, trafficOf d (hot.live? now key) = min (n d) Count.top
  nonempty : ∀ entry, hot.live? now key = some entry → entry.traffic ≠ 0
  lasting : ∀ entry, hot.live? now key = some entry → deadline ≤ entry.expiry

namespace Retains

variable {hot : Hot.Store} {now deadline : Instant} {key : Key} {n : Way → Nat}

theorem of_eq (h : Retains hot now key deadline n) {hot' : Hot.Store} {now' : Instant}
    (same : hot'.live? now' key = hot.live? now key) : Retains hot' now' key deadline n := by
  refine ⟨fun d => ?_, fun entry live => ?_, fun entry live => ?_⟩
  · rw [same]
    exact h.traffic d
  · exact h.nonempty entry (same ▸ live)
  · exact h.lasting entry (same ▸ live)

/-- A record that is marked keeps its counter and its expiry. -/
theorem mark (h : Retains hot now key deadline n) {hot' : Hot.Store} {markers : Traffic}
    (marked : hot'.live? now key = (hot.live? now key).map (·.mark markers)) :
    Retains hot' now key deadline n := by
  refine ⟨fun d => ?_, fun entry live => ?_, fun entry live => ?_⟩
  · rw [marked, ← h.traffic d]
    cases hot.live? now key <;> rfl
  · obtain ⟨old, before, rfl⟩ := Option.map_eq_some_iff.1 (marked ▸ live)
    exact h.nonempty old before
  · obtain ⟨old, before, rfl⟩ := Option.map_eq_some_iff.1 (marked ▸ live)
    exact h.lasting old before

/-- Until the deadline no time that passes takes the record away. -/
theorem pass (h : Retains hot now key deadline n) {later : Instant} (le : now ≤ later)
    (early : later < deadline) : Retains hot later key deadline n := by
  refine h.of_eq ?_
  cases live : hot.live? now key with
  | some entry =>
    have stands := (Hot.Store.live?_eq_some.1 live).1
    exact Hot.Store.live?_eq_some.2 ⟨stands, Int.lt_of_lt_of_le early (h.lasting entry live)⟩
  | none =>
    cases found : hot.live? later key with
    | none => rfl
    | some entry => cases live.symm.trans (Hot.Store.live?_of_le le found)

theorem increment (h : Retains hot now key deadline n) {key' : Key}
    (renews : key' = key → deadline ≤ now.addNanos hot.lifespan) (early : now < deadline)
    (traffic : Traffic) :
    Retains (hot.increment now key' traffic) now key deadline
      fun d => n d + if key' = key then traffic.bytes d else 0 := by
  by_cases own : key' = key ∧ traffic ≠ 0
  · obtain ⟨rfl, nonzero⟩ := own
    have renews := renews rfl
    have records := (Hot.Store.records_increment hot now key' traffic key').trans
      (if_pos ⟨rfl, nonzero⟩)
    have live := Hot.Store.live?_eq_some.2 ⟨records, Int.lt_of_lt_of_le early renews⟩
    have grows := grows_counter hot now key' traffic (now.addNanos hot.lifespan)
    refine ⟨fun d => ?_, fun entry found => ?_, fun entry found => ?_⟩
    · have counted := grows.traffic d
      rw [h.traffic d] at counted
      rw [live]
      simp only [trafficOf, Option.elim_some, if_true] at counted ⊢
      omega
    · cases found.symm.trans live
      exact Traffic.add_ne_zero _ nonzero
    · cases found.symm.trans live
      exact renews
  · have nothing : ∀ d, (if key' = key then traffic.bytes d else 0) = 0 := by
      intro d
      split
      · next same =>
        have zero : traffic = 0 := Decidable.byContradiction fun nonzero => own ⟨same, nonzero⟩
        rw [zero, Traffic.bytes_zero]
      · rfl
    simp only [nothing, Nat.add_zero]
    refine h.of_eq (Hot.Store.live?_congr ?_ now)
    rw [Hot.Store.records_increment, if_neg fun mine => own ⟨mine.1.symm, mine.2⟩]

theorem incrementAll (h : Retains hot now key deadline n) (hs : hot.Scheduled)
    (early : now < deadline) {entries : List (Key × Traffic)}
    (renews : ∀ entry ∈ entries, entry.1 = key → deadline ≤ now.addNanos hot.lifespan) :
    Retains (hot.incrementAll now entries) now key deadline
      fun d => n d + counted key d entries := by
  induction entries generalizing hot n with
  | nil => exact h
  | cons entry entries ih =>
    have first := h.increment (renews entry List.mem_cons_self) early entry.2
    have rest := ih first (hs.increment now entry.1 entry.2) fun entry' member own => by
      rw [Hot.Store.lifespan_increment]
      exact renews entry' (List.mem_cons_of_mem _ member) own
    simp only [Nat.add_assoc] at rest
    exact rest

end Retains

end Compaction

/-! ## The window -/

namespace Compaction

variable {l : Ledger} {key : Key} {deadline : Instant} {lifespan : Int}

/-- The record of `key` holds all that was counted for it, unless its resource was found gone. -/
def Stage.HoldsAll (key : Key) (deadline : Instant) (s : Stage) : Prop :=
  (∀ o ∈ s.log, o.forgets key = false) →
    Retains s.world.hot s.world.now key deadline (s.tally key).accepted

theorem Stage.HoldsAll.attend {s : Stage} (h : s.HoldsAll key deadline)
    (orderly : s.Orderly lifespan) {occasion : Occasion} (calm : occasion.IsCalm)
    (renews : ∀ t, key.bucket.start ≤ t → deadline ≤ t.addNanos lifespan)
    (early : (s.attend l occasion).world.now < deadline) :
    (s.attend l occasion).HoldsAll key deadline := by
  have now : s.world.now < deadline :=
    Int.lt_of_le_of_lt (Station.now_le_attend s occasion) early
  obtain ⟨lag, entries, side, metrics, eq⟩ | ⟨log, cold, same | same⟩ :=
    Stage.attend_calm (l := l) (s := s) calm
  · rw [eq]
    intro present
    have retains := h fun o member => present o (List.mem_cons_of_mem _ member)
    refine retains.incrementAll orderly.scheduled now fun write member own => ?_
    -- a key is made when its hour has begun
    have bucket := (Ledger.mem_writesOf member).1
    rw [orderly.lifespan]
    refine renews _ ?_
    rw [← own, bucket]
    exact Int.le_trans Zone.start_bucketOf_le (s.world.now.ago_le lag)
  · intro present
    have retains := h (log ▸ present)
    unfold Stage.tally at retains ⊢
    rw [log, same]
    exact retains.pass (Station.now_le_attend s occasion) early
  · rw [same]
    intro present
    exact (h present).of_eq (Hot.Store.live?_expire orderly.scheduled _ key)

theorem Stage.HoldsAll.answer {s : Stage} (h : s.HoldsAll key deadline)
    (orderly : s.Orderly lifespan) {failure? : Option Error} {β : Type} {request : Request β}
    (spares : Spares key.bucket request) :
    (Stage.answer failure? request s).2.HoldsAll key deadline := by
  intro present
  have retains := h fun o member => present o (List.mem_cons_of_mem _ member)
  have tally : (Stage.answer failure? request s).2.tally key = (s.tally key).after key
      (s.phase key) (occurrence request (Stage.answer failure? request s).1) := rfl
  rw [tally, Tally.after_accepted (occurrence_ne_arrival request _), Stage.now_answer]
  have live := Stage.live?_of_spares orderly spares
    (Occurrence.ne_forgetting (present _ List.mem_cons_self))
  unfold Stage.live? at live
  rw [Stage.now_answer] at live
  obtain same | ⟨markers, marked⟩ := live
  · exact retains.of_eq same
  · exact retains.mark marked

end Compaction

namespace Station

variable {l : Ledger} {key : Key} {deadline : Instant} {lifespan : Int}

theorem ward_holdsAll (renews : ∀ t, key.bucket.start ≤ t → deadline ≤ t.addNanos lifespan) :
    Ward l key.bucket lifespan (· < deadline) Choice.IsCalm (Stage.HoldsAll key deadline) where
  drains := False.elim
  attends calm h within within' :=
    h.attend within.toOrderly calm renews within'.clock
  begins _ h present :=
    h fun o member => present o (List.mem_cons_of_mem _ member)
  answers _ _ _ spares h within := h.answer within.toOrderly spares

/-- In a calm run the record of a key whose bucket is in the window holds all that was counted. -/
theorem retains_in_window {grace : Int} (aligned : l.Aligned grace)
    (hour : 3600 * Instant.nanosPerSecond ≤ grace) {now : Instant} {schedule : List Choice}
    (calm : ∀ choice ∈ schedule, choice.IsCalm) {s : Station}
    (reached : (Station.empty l.emptyHotStore.lifespan now).play l schedule = s)
    (zoned : key.bucket.zone = l.zone) (inside : l.compaction.boundaryAt s.world.now ≤ key.bucket)
    (present : ∀ o ∈ s.log, o.forgets key = false) :
    ∃ deadline, Retains s.world.hot s.world.now key deadline (s.tally key).accepted := by
  subst reached
  have within := throughout_within (orderly_empty l.emptyHotStore.lifespan now) inside
    fun t _ _ inside => (aligned.boundary_le_iff zoned).1 inside
  have ward : Ward l key.bucket l.emptyHotStore.lifespan
      (· < key.bucket.stop.addNanos l.compaction.retention) Choice.IsCalm
      (Stage.HoldsAll key (key.bucket.stop.addNanos l.compaction.retention)) :=
    ward_holdsAll fun t started => aligned.renews hour started
  have start : (Station.empty l.emptyHotStore.lifespan now).HoldsAll key
      (key.bucket.stop.addNanos l.compaction.retention) := by
    intro _
    have none : (Station.empty l.emptyHotStore.lifespan now).world.hot.live?
        (Station.empty l.emptyHotStore.lifespan now).world.now key = none := by
      simp [Station.empty, Hot.Store.live?]
    refine ⟨fun d => ?_, fun entry live => ?_, fun entry live => ?_⟩
    · rw [none]
      rfl
    · cases none.symm.trans live
    · cases none.symm.trans live
  exact ⟨_, (ward.invariant.play calm within start trivial).1 present⟩

end Station

/-! ## Rows and increments -/

namespace Compaction

variable {l : Ledger}

/-- The rows are those of hot counters, and none of them is empty. -/
def HasCounters (cold : Cold.Store) : Prop :=
  ∀ address traffic, cold.rows[address]? = some traffic →
    (∃ key, address = Cold.RowKey.ofKey key) ∧ traffic ≠ 0

theorem HasCounters.accumulate {cold : Cold.Store} (h : HasCounters cold) {target : Cold.Target}
    {bucket : Bucket} (counter : ∃ key, (⟨bucket, target⟩ : Cold.RowKey) = .ofKey key)
    (traffic : Traffic) : HasCounters (cold.accumulate target bucket traffic).2 := by
  unfold Cold.Store.accumulate
  split
  · exact h
  · split
    · exact h
    · next some =>
      split
      · exact h
      · intro address total found
        rw [Cold.Sums.getElem?_add] at found
        split at found
        · next same =>
          cases found
          exact ⟨same ▸ counter, Traffic.add_ne_zero _ (mt Traffic.isZero_iff.2 some)⟩
        · exact h address total found

theorem HasCounters.answer {s : Stage} (h : HasCounters s.world.cold) {kept : Bucket}
    {failure? : Option Error} {β : Type} {request : Request β} (spares : Spares kept request) :
    HasCounters (Stage.answer failure? request s).2.world.cold := by
  cases request with
  | cold r =>
    cases failure? with
    | some e => exact h
    | none =>
      cases r with
      | accumulate target bucket traffic => exact h.accumulate spares traffic
      | _ => exact spares.elim
  | _ => cases failure? <;> exact h

/-- What was counted is in buckets of the zone, none of them to come, and is not nothing. -/
def Stage.IsDated (z : Zone) (s : Stage) : Prop :=
  ∀ write ∈ s.increments, write.1.bucket.zone = z ∧
    write.1.bucket ≤ z.bucketOf s.world.now ∧ write.2 ≠ 0

theorem Stage.IsDated.of_log {z : Zone} {s t : Stage} (h : s.IsDated z)
    (same : t.increments = s.increments) (le : s.world.now ≤ t.world.now) : t.IsDated z := by
  intro write member
  obtain ⟨zone, dated, nonzero⟩ := h write (same ▸ member)
  exact ⟨zone, Int.le_trans dated (Zone.bucketOf_mono le), nonzero⟩

theorem Stage.IsDated.attend {s : Stage} (h : s.IsDated l.zone) {occasion : Occasion}
    (calm : occasion.IsCalm) : (s.attend l occasion).IsDated l.zone := by
  obtain ⟨lag, entries, side, metrics, eq⟩ | ⟨log, -⟩ := Stage.attend_calm (l := l) (s := s) calm
  · rw [eq]
    intro write member
    rcases List.mem_append.1 member with new | old
    · obtain ⟨bucket, nonzero⟩ := Ledger.mem_writesOf new
      rw [bucket]
      exact ⟨rfl, Zone.bucketOf_mono (s.world.now.ago_le lag), nonzero⟩
    · exact h write old
  · exact h.of_log (congrArg (List.flatMap Occurrence.increments) log) (Station.now_le_attend s _)

end Compaction

namespace Station

variable {l : Ledger} {lifespan : Int} {now : Instant} {schedule : List Choice}

theorem throughout_dated (calm : ∀ choice ∈ schedule, choice.IsCalm) :
    (Station.empty lifespan now).Throughout l (Stage.IsDated l.zone) schedule := by
  have start : (Station.empty lifespan now).IsDated l.zone := List.forall_mem_nil _
  refine throughout ?_ ?_ ?_ calm start
  · exact fun calm h => h.attend calm
  · exact fun _ h => h.of_log rfl (Int.le_refl _)
  · intro path failure? _ β request s h
    refine h.of_log ?_ (Int.le_of_eq (congrArg Instant.nanos (Stage.now_answer request).symm))
    have none := Occurrence.increments_eq_nil
      (occurrence_ne_arrival request (Stage.answer failure? request s).1)
    exact congrArg (· ++ s.increments) none

/-- Calm runs write to the rows of hot counters only, and write no empty rows. -/
theorem hasCounters_of_calm (calm : ∀ choice ∈ schedule, choice.IsCalm) {s : Station}
    (reached : (Station.empty lifespan now).play l schedule = s) :
    HasCounters s.world.cold := by
  subst reached
  -- any bucket that is in the window to the end will do
  let kept := l.compaction.boundaryAt ((Station.empty lifespan now).play l schedule).world.now
  have ward : Ward l kept lifespan (fun _ => True) Choice.IsCalm
      fun s => HasCounters s.world.cold :=
    { drains := False.elim
      attends := fun calm h _ _ => (Stage.cold_attend calm).symm ▸ h
      begins := fun _ h => h
      answers := fun _ _ _ spares h _ => h.answer spares }
  have within : (Station.empty lifespan now).Throughout l
      (·.Within l.compaction kept lifespan fun _ => True) schedule :=
    throughout_within (orderly_empty lifespan now) (Int.le_refl _) fun _ _ _ _ => trivial
  have start : HasCounters (Station.empty lifespan now).world.cold := by
    intro address traffic found
    simp [Station.empty] at found
  exact (ward.invariant.play calm within start trivial).1

end Station

end Metering

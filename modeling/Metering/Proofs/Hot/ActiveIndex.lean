import Metering.Proofs.Way
import Metering.Proofs.Hot.Acts

/-!
# The active index

The compactor finds a counter through the active index, so a counter with pending traffic that is
not in it is never flushed. The index has one expiry for all its keys, which only increments renew,
while each record has its own, which seeding renews as well.

Results:
1. `isActive_iff_not_lapsed`: a live counter with pending traffic is active until the index lapses,
   and not after that; without a seed since its last increment the index does not lapse under it.
2. `seed_outlives_activeIndex`: a seeded counter with pending traffic that is live and not active.
-/

namespace Metering.Hot

open Std Store

/-! ## Histories -/

/-- The act tells the counter of `key`. -/
def Act.Shows (key : Key) : Act → Prop
  | snapshot keys => key ∈ keys
  | _ => False

namespace Store

variable (s : Store) (key : Key)

/-- A snapshot told `counter` of the record under `key`, and since then the record was neither
replaced nor were its markers changed. -/
def Sighted (counter : Traffic) : History → Prop
  | [] => False
  | (now, act) :: earlier =>
    (act.Shows key ∧ ∃ entry, (s.after earlier).live? now key = some entry ∧
      entry.traffic = counter) ∨
    (Sighted counter earlier ∧ ∃ old new, (s.after earlier).live? now key = some old ∧
      ((s.after earlier).act now act).records[key]? = some new ∧ ∀ d, new.marker d = old.marker d)

/-- Every commit expects a counter that was sighted, and offers it as the new markers. -/
def Faithful : History → Prop
  | [] => True
  | (_, act) :: earlier =>
    Faithful earlier ∧ ∀ key expected markers, act = .commit key expected markers →
      markers = expected ∧ s.Sighted key expected earlier

/-- Since the last increment of `key` the active index was found expired, and dropped. -/
def Lapsed : History → Prop
  | [] => False
  | (now, act) :: earlier =>
    ¬ act.Increments key ∧ (act.Sweeps ∧ (s.after earlier).Overdue now ∨ Lapsed earlier)

end Store

/-- `key` was seeded after its last increment. -/
def Reseeded (key : Key) : History → Prop
  | [] => False
  | (_, act) :: earlier => ¬ act.Increments key ∧ (act.Seeds key ∨ Reseeded key earlier)

/-! ## Markers -/

namespace Store

variable {s : Store} {key : Key} {now : Instant} {a : Act}

theorem counter_cases (s : Store) (now : Instant) (key : Key) :
    s.live? now key = some (s.counter now key) ∨
      s.counter now key = .fresh (now.addNanos s.lifespan) := by
  unfold counter
  cases s.live? now key with
  | none => exact .inr rfl
  | some entry => exact .inl rfl

theorem counter_of_live {entry : Entry} (h : s.live? now key = some entry) :
    s.counter now key = entry := by
  rw [counter, h]
  rfl

/-- Nothing more was flushed than counted. -/
def Covered (s : Store) (key : Key) : Prop :=
  ∀ entry, s.records[key]? = some entry → ∀ d, entry.flushed.bytes d ≤ entry.traffic.bytes d

/-- The counter of `key` has passed `counter` and its markers have not. -/
def Passed (s : Store) (key : Key) (counter : Traffic) : Prop :=
  ∃ entry, s.records[key]? = some entry ∧
    ∀ d, entry.flushed.bytes d ≤ counter.bytes d ∧ counter.bytes d ≤ entry.traffic.bytes d

theorem Covered.counter (covered : s.Covered key) (now : Instant) (d : Way) :
    (s.counter now key).flushed.bytes d ≤ (s.counter now key).traffic.bytes d := by
  rcases counter_cases s now key with live | fresh
  · exact covered _ (live?_eq_some.1 live).1 d
  · simp [fresh]

theorem Covered.act (hs : s.Scheduled) (covered : s.Covered key)
    (passed : ∀ expected markers, a = .commit key expected markers → s.Passed key markers) :
    (s.act now a).Covered key := by
  intro entry h d
  cases becomes_of_records hs h with
  | kept _ _ _ found _ => exact covered entry found d
  | @grown traffic _ =>
    have le := covered.counter now d
    have top := (s.counter now key).traffic.bytes_le_top d
    change (s.counter now key).flushed.bytes d ≤ ((s.counter now key).traffic + traffic).bytes d
    rw [Traffic.bytes_add]
    omega
  | @marked expected markers old live =>
    obtain ⟨found, h, within⟩ := passed expected markers rfl
    cases Option.some.inj (h.symm.trans (live?_eq_some.1 live).1)
    exact (within d).2
  | @seeded baseline =>
    have le := covered.counter now d
    have top := ((s.counter now key).seed baseline).flushed.bytes_le_top d
    change ((s.counter now key).seed baseline).flushed.bytes d ≤
      ((s.counter now key).seed baseline).traffic.bytes d
    rw [Entry.bytes_flushed_seed] at top ⊢
    rw [Entry.bytes_traffic_seed]
    omega

/-- A counter that was sighted and whose markers did not change is still passed. -/
theorem Passed.act (hs : s.Scheduled) {counter : Traffic} (passed : s.Passed key counter)
    {old new : Entry} (live : s.live? now key = some old)
    (h : (s.act now a).records[key]? = some new) (same : ∀ d, new.marker d = old.marker d) :
    (s.act now a).Passed key counter := by
  obtain ⟨found, hfound, within⟩ := passed
  cases Option.some.inj (hfound.symm.trans (live?_eq_some.1 live).1)
  refine ⟨new, h, fun d => ⟨?_, ?_⟩⟩
  · rw [Entry.bytes_flushed, same d, ← Entry.bytes_flushed]
    exact (within d).1
  · refine Nat.le_trans (within d).2 ?_
    cases becomes_of_records hs h with
    | kept _ _ _ kept _ =>
      cases Option.some.inj (hfound.symm.trans kept)
      exact Nat.le_refl _
    | @grown traffic _ =>
      have top := old.traffic.bytes_le_top d
      rw [counter_of_live live, Traffic.bytes_add]
      omega
    | marked again =>
      cases Option.some.inj (live.symm.trans again)
      exact Nat.le_refl _
    | @seeded baseline =>
      have top := old.traffic.bytes_le_top d
      rw [counter_of_live live]
      change old.traffic.bytes d ≤ (old.seed baseline).traffic.bytes d
      rw [Entry.bytes_traffic_seed]
      omega

/-- The markers of a faithful history stay below their counters, and so does every commit. -/
theorem covered_and_passed (hs : s.Scheduled) (empty : s.records[key]? = none) {history : History}
    (faithful : s.Faithful history) :
    (s.after history).Covered key ∧
      ∀ counter, s.Sighted key counter history → (s.after history).Passed key counter := by
  induction history with
  | nil => exact ⟨fun _ h => (nomatch empty.symm.trans h), fun _ => False.elim⟩
  | cons step earlier ih =>
    obtain ⟨now, a⟩ := step
    obtain ⟨ih_covered, ih_passed⟩ := ih faithful.1
    have scheduled := hs.after earlier
    constructor
    · refine Covered.act scheduled ih_covered ?_
      intro expected markers same
      obtain ⟨rfl, sighted⟩ := faithful.2 key expected markers same
      exact ih_passed markers sighted
    · rintro counter (⟨shows, entry, live, rfl⟩ | ⟨sighted, old, new, live, h, same⟩)
      · cases a with
        | snapshot keys =>
          have found := (live?_eq_some.1 live).1
          exact ⟨entry, found, fun d => ⟨ih_covered entry found d, Nat.le_refl _⟩⟩
        | _ => exact shows.elim
      · exact (ih_passed counter sighted).act scheduled live h same

/-! ## Membership -/

/-- An increment brings its key into the index. -/
theorem mem_active_of_increments (hs : s.Scheduled) (increments : a.Increments key) :
    key ∈ (s.act now a).active :=
  (mem_active_act hs).2 (.inl increments)

/-- Once the index has lapsed, only an increment brings a key back. -/
theorem not_mem_active_of_lapsed (hs : s.Scheduled) {history : History}
    (lapsed : s.Lapsed key history) : key ∉ (s.after history).active := by
  induction history with
  | nil => exact lapsed.elim
  | cons step earlier ih =>
    obtain ⟨other, due⟩ := lapsed
    intro member
    rcases (mem_active_act (hs.after earlier)).1 member with increments | ⟨fresh, before, -⟩
    · exact other increments
    · rcases due with ⟨sweeps, overdue⟩ | lapsed
      · exact fresh sweeps overdue
      · exact ih lapsed before

/-- Only a settled record leaves the index while it stays in the store. -/
theorem not_pending_of_deactivates (hs : s.Scheduled) (passed : ∀ expected markers,
      a = .commit key expected markers → markers = expected)
    (leaves : s.Deactivates now key a) {entry : Entry}
    (h : (s.act now a).records[key]? = some entry) : entry.pending = 0 := by
  cases a with
  | commit key' expected markers =>
    obtain ⟨rfl, same⟩ := leaves
    obtain rfl := passed expected markers rfl
    rw [Store.act, records_commit hs, if_pos rfl] at h
    obtain ⟨old, live, rfl⟩ := Option.map_eq_some_iff.1 h
    refine Traffic.ext_bytes fun d => ?_
    rw [Entry.bytes_pending, Entry.traffic_mark, Entry.flushed_mark, same old live, Nat.sub_self,
      Traffic.bytes_zero]
  | settle key' purge =>
    obtain ⟨rfl, settled⟩ := leaves
    rw [Store.act, records_settle hs] at h
    split at h
    · cases h
    · refine Traffic.ext_bytes fun d => ?_
      rw [Entry.bytes_pending, Entry.isSettled_iff.1 (settled entry h), Nat.sub_self,
        Traffic.bytes_zero]
  | forget key' =>
    obtain rfl := leaves
    rw [Store.act, records_forget, if_pos rfl] at h
    cases h
  | take bucket =>
    change key ∈ (s.expire now).membersOf bucket at leaves
    rw [Store.act, records_takeBucket hs, if_pos leaves] at h
    cases h
  | _ => exact leaves.elim

/-- Traffic that is pending was pending before, unless it has just been counted. -/
theorem pending_of_becomes {entry : Entry}
    (passed : ∀ expected markers, a = .commit key expected markers → s.Passed key markers)
    (other : ¬ a.Increments key) (becomes : s.Becomes now key a entry) {d : Way}
    (pending : 0 < entry.pending.bytes d) :
    ∃ old, s.records[key]? = some old ∧ 0 < old.pending.bytes d := by
  rw [Entry.bytes_pending] at pending
  cases becomes with
  | kept _ _ _ found _ => exact ⟨entry, found, by rwa [Entry.bytes_pending]⟩
  | grown nonzero => exact (other ⟨rfl, nonzero⟩).elim
  | @marked expected markers old live =>
    -- a faithful commit moves the markers up, so less is pending than before
    obtain ⟨found, h, within⟩ := passed expected markers rfl
    cases Option.some.inj (h.symm.trans (live?_eq_some.1 live).1)
    refine ⟨old, h, ?_⟩
    have le := (within d).1
    rw [Entry.traffic_mark, Entry.flushed_mark] at pending
    rw [Entry.bytes_pending]
    omega
  | @seeded baseline =>
    change 0 < ((s.counter now key).seed baseline).traffic.bytes d -
      ((s.counter now key).seed baseline).flushed.bytes d at pending
    rw [Entry.bytes_traffic_seed, Entry.bytes_flushed_seed] at pending
    rcases counter_cases s now key with live | fresh
    · refine ⟨_, (live?_eq_some.1 live).1, ?_⟩
      rw [Entry.bytes_pending]
      omega
    · rw [fresh, Entry.traffic_fresh, Entry.flushed_fresh, Traffic.bytes_zero] at pending
      omega

/-- A record with pending traffic is in the index until that lapses. -/
theorem mem_active_or_lapsed (hs : s.Scheduled) (empty : s.records[key]? = none)
    {history : History} (faithful : s.Faithful history) {entry : Entry}
    (h : (s.after history).records[key]? = some entry) (pending : entry.pending ≠ 0) :
    key ∈ (s.after history).active ∨ s.Lapsed key history := by
  induction history generalizing entry with
  | nil => exact nomatch empty.symm.trans h
  | cons step earlier ih =>
    obtain ⟨now, a⟩ := step
    have scheduled := hs.after earlier
    by_cases increments : a.Increments key
    · exact .inl (mem_active_of_increments scheduled increments)
    · have before_passed := (covered_and_passed hs empty faithful.1).2
      obtain ⟨d, pos⟩ := Traffic.ne_zero_iff.1 pending
      have passed : ∀ expected markers, a = .commit key expected markers →
          (s.after earlier).Passed key markers := by
        intro expected markers same
        obtain ⟨rfl, sighted⟩ := faithful.2 key expected markers same
        exact before_passed markers sighted
      obtain ⟨old, found, pos⟩ :=
        pending_of_becomes passed increments (becomes_of_records scheduled h) pos
      -- it was pending before this step too, so it was in the index then or that had lapsed
      by_cases due : a.Sweeps ∧ (s.after earlier).Overdue now
      · exact .inr ⟨increments, .inl due⟩
      · rcases ih faithful.1 found (Traffic.ne_zero_iff.2 ⟨d, pos⟩) with member | lapsed
        · refine .inl ((mem_active_act scheduled).2 (.inr ⟨not_and.1 due, member, ?_⟩))
          intro leaves
          exact pending (not_pending_of_deactivates scheduled
            (fun expected markers same => (faithful.2 key expected markers same).1) leaves h)
        · exact .inr ⟨increments, .inr lapsed⟩

/-! ## Expiry -/

/-- No record outlives the life span. -/
theorem expiry_le (hs : s.Scheduled) (empty : s.records[key]? = none) {history : History}
    (clocked : history.Clocked now) {entry : Entry}
    (h : (s.after history).records[key]? = some entry) :
    entry.expiry ≤ now.addNanos s.lifespan := by
  induction history generalizing now entry with
  | nil => exact nomatch empty.symm.trans h
  | cons step earlier ih =>
    obtain ⟨time, a⟩ := step
    obtain ⟨le, clocked⟩ := clocked
    have later : time.addNanos s.lifespan ≤ now.addNanos s.lifespan :=
      Int.add_le_add_right le s.lifespan
    refine Int.le_trans ?_ later
    have lifespan := lifespan_after hs earlier
    cases becomes_of_records (hs.after earlier) h with
    | kept _ _ _ found _ => exact ih clocked found
    | grown _ => exact lifespan ▸ Int.le_refl _
    | marked live =>
      have bound := ih clocked (live?_eq_some.1 live).1
      exact bound
    | seeded => exact lifespan ▸ Int.le_refl _

/-- An act that neither increments nor seeds a record leaves its expiry alone. -/
theorem expiry_of_becomes {entry : Entry} (increments : ¬ a.Increments key) (seeds : ¬ a.Seeds key)
    (becomes : s.Becomes now key a entry) :
    ∃ old, s.records[key]? = some old ∧ old.expiry = entry.expiry ∧
      (a.Sweeps → now < entry.expiry) := by
  cases becomes with
  | kept _ _ _ found live => exact ⟨entry, found, rfl, live⟩
  | grown nonzero => exact (increments ⟨rfl, nonzero⟩).elim
  | @marked _ _ old live =>
    obtain ⟨found, later⟩ := live?_eq_some.1 live
    exact ⟨old, found, rfl, fun _ => later⟩
  | seeded => exact (seeds rfl).elim

/-- A record that was not seeded since its last increment has expired if the index has lapsed, and
else expires no later than the index. -/
theorem expiry_le_activeExpiry (hs : s.Scheduled) (empty : s.records[key]? = none)
    {history : History} (clocked : history.Clocked now) (unseeded : ¬ Reseeded key history)
    {entry : Entry} (h : (s.after history).records[key]? = some entry) :
    (s.Lapsed key history → entry.expiry ≤ now) ∧
      (¬ s.Lapsed key history →
        ∃ expiry, (s.after history).activeExpiry = some expiry ∧ entry.expiry ≤ expiry) := by
  induction history generalizing now entry with
  | nil => exact nomatch empty.symm.trans h
  | cons step earlier ih =>
    obtain ⟨time, a⟩ := step
    obtain ⟨le, clocked⟩ := clocked
    have scheduled := hs.after earlier
    have becomes := becomes_of_records scheduled h
    by_cases increments : a.Increments key
    · refine ⟨fun lapsed => (lapsed.1 increments).elim, fun _ => ?_⟩
      cases becomes with
      | kept other _ _ _ _ => exact (other increments).elim
      | grown nonzero => exact ⟨_, congrArg Prod.snd (times_increment nonzero), Int.le_refl _⟩
      | _ => exact increments.elim
    · have seeds : ¬ a.Seeds key := fun seeds => unseeded ⟨increments, .inl seeds⟩
      obtain ⟨old, found, same, live⟩ := expiry_of_becomes increments seeds becomes
      have before := ih clocked (fun reseeded => unseeded ⟨increments, .inr reseeded⟩) found
      rw [same] at before
      constructor
      · rintro ⟨-, due⟩
        by_cases lapsed : s.Lapsed key earlier
        · exact Int.le_trans (before.1 lapsed) le
        · -- the step that drops the index sweeps the records as well, and this one was left
          obtain ⟨sweeps, expiry, hexpiry, past⟩ := due.resolve_right lapsed
          obtain ⟨expiry', hexpiry', within⟩ := before.2 lapsed
          cases Option.some.inj (hexpiry.symm.trans hexpiry')
          exact (Int.not_le.2 (live sweeps) (Int.le_trans within past)).elim
      · intro held
        have still : ¬ s.Lapsed key earlier := fun lapsed => held ⟨increments, .inr lapsed⟩
        have fresh : a.Sweeps → ¬ (s.after earlier).Overdue time :=
          fun sweeps overdue => held ⟨increments, .inl ⟨sweeps, overdue⟩⟩
        by_cases other : ∃ key', a.Increments key'
        · -- an increment of another key renews the index, and no record outlives a renewed one
          obtain ⟨key', touches⟩ := other
          cases a with
          | increment _ traffic =>
            refine ⟨_, congrArg Prod.snd (times_increment touches.2), ?_⟩
            rw [lifespan_after hs, ← same]
            exact expiry_le hs empty clocked found
          | _ => exact touches.elim
        · obtain ⟨expiry, hexpiry, within⟩ := before.2 still
          have kept := (activeExpiry_act scheduled (not_exists.1 other)).2 ⟨fresh, hexpiry⟩
          exact ⟨expiry, kept, within⟩

/-! ## The active index -/

theorem isActive_fst (s : Store) (now : Instant) (key : Key) :
    (s.isActive now key).1 = true ↔ key ∈ (s.expire now).active := by
  rw [ExtTreeSet.mem_iff_contains]
  rfl

/-- A store in which nothing was counted yet. -/
def empty (lifespan : Int) : Store := { lifespan }

theorem records_empty (lifespan : Int) (key : Key) : (empty lifespan).records[key]? = none := by
  simp [empty]

theorem scheduled_afterCalls (lifespan : Int) (calls : List Call) :
    ((empty lifespan).afterCalls calls).Scheduled := by
  rw [← after_history]
  exact (scheduled_empty lifespan).after _

theorem lifespan_afterCalls (lifespan : Int) (calls : List Call) :
    ((empty lifespan).afterCalls calls).lifespan = lifespan := by
  rw [← after_history]
  exact lifespan_after (scheduled_empty lifespan) _

/-- A live counter with pending traffic is active, and listed if there is room, until the index
lapses and no longer. Without a seed since its last increment the index does not lapse under it. -/
theorem isActive_iff_not_lapsed {lifespan : Int} {calls : List Call} {now : Instant} {key : Key}
    {entry : Entry} (clocked : Call.Clocked calls now)
    (faithful : (empty lifespan).Faithful (Call.history calls))
    (live : ((empty lifespan).afterCalls calls).live? now key = some entry)
    (pending : ∃ d, entry.flushed.bytes d < entry.traffic.bytes d) :
    ((((empty lifespan).afterCalls calls).isActive now key).1 = true ↔
      ¬ (empty lifespan).Lapsed key ((now, .sweep) :: Call.history calls)) ∧
    (∀ limit, (((empty lifespan).afterCalls calls).expire now).active.size ≤ limit →
      (key ∈ (((empty lifespan).afterCalls calls).activeKeys now limit).1 ↔
        ¬ (empty lifespan).Lapsed key ((now, .sweep) :: Call.history calls))) ∧
    (¬ Reseeded key (Call.history calls) →
      ¬ (empty lifespan).Lapsed key ((now, .sweep) :: Call.history calls)) := by
  rw [← after_history] at live ⊢
  have hs := scheduled_empty lifespan
  have none := records_empty lifespan key
  have clocked : History.Clocked ((now, .sweep) :: Call.history calls) now :=
    ⟨Int.le_refl _, clocked.history⟩
  have faithful : (empty lifespan).Faithful ((now, .sweep) :: Call.history calls) :=
    ⟨faithful, fun _ _ _ h => nomatch h⟩
  have found : ((empty lifespan).after ((now, .sweep) :: Call.history calls)).records[key]? =
      some entry := (records_expire (hs.after _) now key).trans live
  have active : key ∈ ((empty lifespan).after ((now, .sweep) :: Call.history calls)).active ↔
      ¬ (empty lifespan).Lapsed key ((now, .sweep) :: Call.history calls) := by
    constructor
    · exact fun member lapsed => not_mem_active_of_lapsed hs lapsed member
    · have pending : entry.pending ≠ 0 := by
        obtain ⟨d, lt⟩ := pending
        refine Traffic.ne_zero_iff.2 ⟨d, ?_⟩
        rw [Entry.bytes_pending]
        omega
      exact (mem_active_or_lapsed hs none faithful found pending).resolve_right
  refine ⟨(isActive_fst ..).trans active, fun limit room => (mem_activeKeys room).trans active, ?_⟩
  intro unseeded lapsed
  have unseeded : ¬ Reseeded key ((now, .sweep) :: Call.history calls) :=
    fun reseeded => reseeded.2.elim id unseeded
  have past := (expiry_le_activeExpiry hs none clocked unseeded found).1 lapsed
  exact Int.not_le.2 (live?_eq_some.1 live).2 past

/-- A counter of which something was flushed while more arrived stays active. -/
theorem isActive_after_retained_commit :
    let key : Key := ⟨⟨default, 474804⟩, 1, .node, 1⟩
    let calls : List Call := [
      .request ⟨4⟩ (.commit key (.ofNats 10 10) (.ofNats 10 10)),
      .request ⟨3⟩ (.incrementAll [(key, .ofNats 5 0)]),
      .request ⟨2⟩ (.snapshot [key]),
      .request ⟨1⟩ (.increment key (.ofNats 10 10))]
    (((empty 100).afterCalls calls).isActive ⟨5⟩ key).1 = true ∧
      key ∈ (((empty 100).afterCalls calls).activeKeys ⟨5⟩ 1).1 := by
  intro key calls
  have clocked : Call.Clocked calls ⟨5⟩ := by
    refine ⟨?_, ?_, ?_, ?_, trivial⟩ <;> decide
  have sighted : (empty 100).Sighted key (.ofNats 10 10) (Call.history calls).tail := by
    refine .inr ⟨.inl ⟨List.mem_singleton.2 rfl, ⟨.ofNats 10 10, none, none, ⟨101⟩⟩, ?_, rfl⟩,
      ⟨.ofNats 10 10, none, none, ⟨101⟩⟩, ⟨.ofNats 15 10, none, none, ⟨103⟩⟩, ?_, ?_, ?_⟩
    · decide +kernel
    · decide +kernel
    · decide +kernel
    · rintro (_ | _) <;> rfl
  have faithful : (empty 100).Faithful (Call.history calls) := by
    refine ⟨⟨⟨⟨trivial, ?_⟩, ?_⟩, ?_⟩, ?_⟩
    · exact fun _ _ _ h => nomatch h
    · exact fun _ _ _ h => nomatch h
    · exact fun _ _ _ h => nomatch h
    · intro key expected markers h
      cases h
      exact ⟨rfl, sighted⟩
  have live : ((empty 100).afterCalls calls).live? ⟨5⟩ key =
      some ⟨.ofNats 15 10, some (.ofNat 10), some (.ofNat 10), ⟨103⟩⟩ := by
    decide +kernel
  have pending : ∃ d, Traffic.bytes (.ofNats 10 10) d < Traffic.bytes (.ofNats 15 10) d :=
    ⟨.upload, by decide⟩
  have unseeded : ¬ Reseeded key (Call.history calls) := by
    simp [calls, Reseeded, Call.history, Call.acts, Request.acts, Act.Increments, Act.Seeds]
  obtain ⟨active, listed, held⟩ := isActive_iff_not_lapsed clocked faithful live pending
  exact ⟨active.2 (held unseeded), (listed 1 (by decide +kernel)).2 (held unseeded)⟩

/-- Records live for three hours. A counter is incremented and, two hours later, seeded. After
another hour and a half it is live with pending traffic, and it is not active. -/
theorem seed_outlives_activeIndex :
    let key : Key := ⟨⟨default, 474804⟩, 1, .node, 1⟩
    let calls : List Call := [
      .request (.ofSeconds 1709273400) (.seed key (.ofNats 5 5)),
      .request (.ofSeconds 1709266200) (.increment key (.ofNats 10 10))]
    let now := Instant.ofSeconds 1709278800
    let s := (empty 10800000000000).afterCalls calls
    Call.Clocked calls now ∧ (empty 10800000000000).Faithful (Call.history calls) ∧
      s.live? now key =
        some ⟨.ofNats 15 15, some (.ofNat 5), some (.ofNat 5), .ofSeconds 1709284200⟩ ∧
      (s.isActive now key).1 = false ∧ (s.activeKeys now 10).1 = [] := by
  refine ⟨?_, ?_, ?_, ?_, ?_⟩
  · refine ⟨?_, ?_, trivial⟩ <;> decide
  · refine ⟨⟨trivial, ?_⟩, ?_⟩ <;> exact fun _ _ _ h => nomatch h
  · decide +kernel
  · decide +kernel
  · decide +kernel

end Store

end Metering.Hot

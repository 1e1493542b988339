import Metering.Proofs.Hot.Records

/-!
# What calls do to a hot store

Every call of a hot store is a sequence of acts, each about one key, one bucket or what has expired.
A history is a list of acts with their instants, the newest first. The lemmas here say once what an
act can do to the record of a key and to the active index; the invariants are read off them.

Results:
1. `after_history`: the calls of a store do what their acts do.
2. `becomes_of_records`: the record under a key after an act was kept, or it was grown, marked or
   seeded by that act.
3. `mem_active_act`, `activeExpiry_act`: the active index after an act.
-/

namespace Metering.Hot

open Std

/-- A change of a store, or a look at some records. -/
inductive Act
  | increment (key : Key) (traffic : Traffic)
  | commit (key : Key) (expected markers : Traffic)
  | settle (key : Key) (purge : Bool)
  | seed (key : Key) (baseline : Traffic)
  | forget (key : Key)
  | take (bucket : Bucket)
  | snapshot (keys : List Key)
  /-- Drops what has expired. -/
  | sweep

namespace Act

/-- The act adds traffic to `key`. -/
def Increments (key : Key) : Act → Prop
  | increment key' traffic => key' = key ∧ traffic ≠ 0
  | _ => False

/-- The act offers a baseline to `key`. -/
def Seeds (key : Key) : Act → Prop
  | seed key' _ => key' = key
  | _ => False

/-- The act writes markers under `key`. -/
def Commits (key : Key) : Act → Prop
  | commit key' _ _ => key' = key
  | _ => False

/-- The act drops what has expired before it does anything else. -/
def Sweeps : Act → Prop
  | increment _ _ | forget _ | snapshot _ => False
  | _ => True

end Act

/-- Acts with their instants, the newest first. -/
abbrev History := List (Instant × Act)

/-- The acts of a history come in order, and none after `now`. -/
def History.Clocked : History → Instant → Prop
  | [], _ => True
  | (time, _) :: earlier, now => time ≤ now ∧ Clocked earlier time

/-- The acts of a request. -/
def Request.acts {α : Type} : Request α → List Act
  | .increment key traffic => [.increment key traffic]
  | .incrementAll entries => entries.map fun entry => .increment entry.1 entry.2
  | .read _ => []
  | .readBucket _ | .activeKeys _ | .activeBuckets => [.sweep]
  | .takeBucket bucket | .clearBucket bucket => [.take bucket]
  | .snapshot keys => [.snapshot keys]
  | .commit key expected markers => [.commit key expected markers]
  | .settle key purge => [.settle key purge]
  | .seed key baseline => [.seed key baseline]
  | .forget key => [.forget key]

/-- A call of a store in memory: a request to the hot tier, or one of the calls that only such a
store has. -/
inductive Call : Type 1
  | request {α : Type} (now : Instant) (request : Request α)
  | expire (now : Instant)
  | size (now : Instant)
  | isActive (now : Instant) (key : Key)

namespace Call

/-- The instant of a call. -/
def now : Call → Instant
  | request now _ | expire now | size now | isActive now _ => now

/-- The acts of a call. -/
def acts : Call → List Act
  | request _ r => r.acts
  | expire _ | size _ | isActive _ _ => [.sweep]

/-- The store after a call. -/
def run (s : Store) : Call → Store
  | request now r => (s.answer now r).2
  | expire now => s.expire now
  | size now => (s.size now).2
  | isActive now key => (s.isActive now key).2

/-- The acts of calls, the newest first like the calls. -/
def history : List Call → History
  | [] => []
  | call :: earlier => call.acts.reverse.map (call.now, ·) ++ history earlier

/-- The calls come in order, and none after `now`. -/
def Clocked : List Call → Instant → Prop
  | [], _ => True
  | call :: earlier, now => call.now ≤ now ∧ Clocked earlier call.now

end Call

namespace Store

/-- The store after an act. -/
def act (s : Store) (now : Instant) : Act → Store
  | .increment key traffic => s.increment now key traffic
  | .commit key expected markers => (s.commit now key expected markers).2
  | .settle key purge => (s.settle now key purge).2
  | .seed key baseline => (s.seed now key baseline).2
  | .forget key => (s.forget key).2
  | .take bucket => (s.takeBucket now bucket).2
  | .snapshot _ => s
  | .sweep => s.expire now

/-- The store after a history. -/
def after (s : Store) : History → Store
  | [] => s
  | (now, act) :: earlier => (s.after earlier).act now act

/-- The store after some calls, the newest first. -/
def afterCalls (s : Store) : List Call → Store
  | [] => s
  | call :: earlier => call.run (s.afterCalls earlier)

/-! ## Calls and their acts -/

theorem answer_snd {α : Type} (s : Store) (now : Instant) (r : Request α) :
    (s.answer now r).2 = r.acts.foldl (·.act now ·) s := by
  cases r with
  | incrementAll entries =>
    rw [Request.acts, List.foldl_map]
    rfl
  | _ => rfl

theorem run_eq_foldl (s : Store) (call : Call) :
    call.run s = call.acts.foldl (·.act call.now ·) s := by
  cases call with
  | request now r => exact s.answer_snd now r
  | _ => rfl

theorem after_append (s : Store) (acts : List Act) (now : Instant) (earlier : History) :
    s.after (acts.reverse.map (now, ·) ++ earlier) =
      acts.foldl (·.act now ·) (s.after earlier) := by
  induction acts generalizing earlier with
  | nil => rfl
  | cons act acts ih =>
    rw [List.foldl_cons, List.reverse_cons, List.map_append, List.append_assoc]
    exact ih ((now, act) :: earlier)

/-- The calls of a store do what their acts do. -/
theorem after_history (s : Store) (calls : List Call) :
    s.after (Call.history calls) = s.afterCalls calls := by
  induction calls with
  | nil => rfl
  | cons call earlier ih => rw [Call.history, after_append, ih, afterCalls, run_eq_foldl]

end Store

theorem History.Clocked.append {acts : List Act} {now : Instant} {earlier : History}
    (clocked : earlier.Clocked now) : History.Clocked (acts.map (now, ·) ++ earlier) now := by
  induction acts with
  | nil => exact clocked
  | cons act acts ih => exact ⟨Int.le_refl _, ih⟩

theorem History.Clocked.mono {history : History} {now later : Instant}
    (clocked : history.Clocked now) (le : now ≤ later) : history.Clocked later := by
  cases history with
  | nil => trivial
  | cons step earlier => exact ⟨Int.le_trans clocked.1 le, clocked.2⟩

theorem Call.Clocked.history {calls : List Call} {now : Instant} (clocked : Clocked calls now) :
    (Call.history calls).Clocked now := by
  induction calls generalizing now with
  | nil => trivial
  | cons call earlier ih =>
    exact (History.Clocked.append (ih clocked.2)).mono clocked.1

namespace Store

/-! ## Records -/

theorem Scheduled.act {s : Store} (hs : s.Scheduled) (now : Instant) (act : Act) :
    (s.act now act).Scheduled := by
  cases act with
  | increment key traffic => exact hs.increment now key traffic
  | commit key expected markers => exact hs.commit now key expected markers
  | settle key purge => exact hs.settle now key purge
  | seed key baseline => exact hs.seed now key baseline
  | forget key => exact hs.forget key
  | take bucket => exact hs.takeBucket now bucket
  | snapshot keys => exact hs
  | sweep => exact hs.expire now

theorem Scheduled.after {s : Store} (hs : s.Scheduled) (history : History) :
    (s.after history).Scheduled := by
  induction history with
  | nil => exact hs
  | cons step earlier ih => exact ih.act step.1 step.2

/-- What an act can make of the record of `key`. -/
inductive Becomes (s : Store) (now : Instant) (key : Key) : Act → Entry → Prop
  | kept {act : Act} {entry : Entry} : ¬ act.Increments key → ¬ act.Commits key →
      ¬ act.Seeds key → s.records[key]? = some entry → (act.Sweeps → now < entry.expiry) →
      Becomes s now key act entry
  | grown {traffic : Traffic} : traffic ≠ 0 →
      Becomes s now key (.increment key traffic) { s.counter now key with
        traffic := (s.counter now key).traffic + traffic
        expiry := now.addNanos s.lifespan }
  | marked {expected markers : Traffic} {entry : Entry} : s.live? now key = some entry →
      Becomes s now key (.commit key expected markers) (entry.mark markers)
  | seeded {baseline : Traffic} :
      Becomes s now key (.seed key baseline)
        { (s.counter now key).seed baseline with expiry := now.addNanos s.lifespan }

theorem becomes_of_records {s : Store} (hs : s.Scheduled) {now : Instant} {key : Key} {act : Act}
    {entry : Entry} (h : (s.act now act).records[key]? = some entry) :
    s.Becomes now key act entry := by
  have keep : ¬ act.Increments key → ¬ act.Commits key → ¬ act.Seeds key →
      s.live? now key = some entry → s.Becomes now key act entry := by
    intro increments commits seeds live
    rw [live?_eq_some] at live
    exact .kept increments commits seeds live.1 fun _ => live.2
  cases act with
  | increment key' traffic =>
    rw [Store.act, records_increment] at h
    split at h
    · next touched =>
      obtain ⟨rfl, nonzero⟩ := touched
      cases h
      exact .grown nonzero
    · next untouched =>
      exact .kept (fun increments => untouched ⟨increments.1.symm, increments.2⟩) id id h
        False.elim
  | commit key' expected markers =>
    rw [Store.act, records_commit hs] at h
    split at h
    · next same =>
      subst same
      obtain ⟨old, live, rfl⟩ := Option.map_eq_some_iff.1 h
      exact .marked live
    · next other => exact keep id (Ne.symm other) id h
  | settle key' purge =>
    rw [Store.act, records_settle hs] at h
    split at h
    · cases h
    · exact keep id id id h
  | seed key' baseline =>
    rw [Store.act, records_seed hs] at h
    split at h
    · next same =>
      subst same
      cases h
      exact .seeded
    · next other => exact keep id id (Ne.symm other) h
  | forget key' =>
    rw [Store.act, records_forget] at h
    split at h
    · cases h
    · exact .kept id id id h False.elim
  | take bucket =>
    rw [Store.act, records_takeBucket hs] at h
    split at h
    · cases h
    · exact keep id id id h
  | snapshot keys => exact .kept id id id h False.elim
  | sweep => exact keep id id id ((records_expire hs now key).symm.trans h)

/-! ## The active index -/

/-- The active index has expired and is about to be dropped. -/
def Overdue (s : Store) (now : Instant) : Prop :=
  ∃ expiry, s.activeExpiry = some expiry ∧ expiry ≤ now

theorem any_activeExpiry {s : Store} {now : Instant} :
    s.activeExpiry.any (fun expiry => decide (expiry ≤ now)) = true ↔ s.Overdue now := by
  simp [Overdue, Option.any_eq_true]

theorem mem_active_expire {s : Store} {now : Instant} {key : Key} :
    key ∈ (s.expire now).active ↔ ¬ s.Overdue now ∧ key ∈ s.active := by
  unfold expire
  by_cases due : s.Overdue now
  · simp [any_activeExpiry.2 due, due]
  · simp [mt any_activeExpiry.1 due, due]

/-- A listing that is long enough tells every active key. -/
theorem mem_activeKeys {s : Store} {now : Instant} {key : Key} {limit : Nat}
    (room : (s.expire now).active.size ≤ limit) :
    key ∈ (s.activeKeys now limit).1 ↔ key ∈ (s.expire now).active := by
  unfold activeKeys
  dsimp only
  rw [List.take_of_length_le (by rwa [ExtTreeSet.length_toList]), ExtTreeSet.mem_toList]

theorem activeExpiry_expire {s : Store} {now : Instant} {expiry : Instant} :
    (s.expire now).activeExpiry = some expiry ↔
      ¬ s.Overdue now ∧ s.activeExpiry = some expiry := by
  unfold expire
  by_cases due : s.Overdue now
  · simp [any_activeExpiry.2 due, due]
  · simp [mt any_activeExpiry.1 due, due]

theorem mem_active_deactivate {s : Store} {key key' : Key} :
    key' ∈ (s.deactivate key).active ↔ key' ≠ key ∧ key' ∈ s.active := by
  rw [deactivate, ExtTreeSet.mem_erase, ne_eq, LawfulEqOrd.compare_eq_iff_eq, eq_comm]

/-- The indexes of a store that no write to the records and to the bucket indexes touches. -/
structure SameIndex (s t : Store) : Prop where
  lifespan : t.lifespan = s.lifespan
  active : t.active = s.active
  activeExpiry : t.activeExpiry = s.activeExpiry

theorem SameIndex.refl (s : Store) : s.SameIndex s := ⟨rfl, rfl, rfl⟩

theorem SameIndex.trans {s t u : Store} (first : s.SameIndex t) (second : t.SameIndex u) :
    s.SameIndex u :=
  ⟨second.lifespan.trans first.lifespan, second.active.trans first.active,
    second.activeExpiry.trans first.activeExpiry⟩

theorem sameIndex_dropRecord (s : Store) (key : Key) : s.SameIndex (s.dropRecord key) := by
  unfold dropRecord
  split <;> exact ⟨rfl, rfl, rfl⟩

theorem sameIndex_reschedule (s : Store) (key : Key) (previous : Option Instant)
    (expiry : Instant) : s.SameIndex (s.reschedule key previous expiry) := by
  unfold reschedule
  split
  · exact .refl s
  · cases previous <;> exact ⟨rfl, rfl, rfl⟩

theorem sameIndex_put (s : Store) (now : Instant) (key : Key) (entry : Entry) :
    s.SameIndex (s.put now key entry) := by
  have moved := sameIndex_reschedule
    { s with records := s.records.insert key { entry with expiry := now.addNanos s.lifespan } }
    key (s.records[key]?.map (·.expiry)) (now.addNanos s.lifespan)
  exact ⟨moved.lifespan, moved.active, moved.activeExpiry⟩

theorem sameIndex_before_add (s : Store) (now : Instant) (key : Key) :
    s.SameIndex (if (s.live? now key).isNone then s.dropRecord key else s) := by
  split
  · exact sameIndex_dropRecord s key
  · exact .refl s

theorem active_add (s : Store) (now : Instant) (key : Key) (traffic : Traffic) :
    (s.add now key traffic).active = s.active.insert key ∧
      (s.add now key traffic).activeExpiry = some (now.addNanos s.lifespan) ∧
        (s.add now key traffic).lifespan = s.lifespan := by
  have before := sameIndex_before_add s now key
  unfold add
  dsimp only
  refine ⟨?_, rfl, ?_⟩
  · exact congrArg (·.insert key) (before.trans (sameIndex_put ..)).active
  · exact (before.trans (sameIndex_put ..)).lifespan

/-- The act takes `key` out of the active index. -/
def Deactivates (s : Store) (now : Instant) (key : Key) : Act → Prop
  | .commit key' expected _ =>
    key' = key ∧ ∀ entry, s.live? now key = some entry → entry.traffic = expected
  | .settle key' _ =>
    key' = key ∧ ∀ entry, s.live? now key = some entry → entry.isSettled = true
  | .forget key' => key' = key
  | .take bucket => key ∈ (s.expire now).membersOf bucket
  | _ => False

theorem mem_active_increment {s : Store} {now : Instant} {key key' : Key} {traffic : Traffic} :
    key' ∈ (s.increment now key traffic).active ↔
      (key = key' ∧ traffic ≠ 0) ∨ key' ∈ s.active := by
  unfold increment
  by_cases zero : traffic = 0
  · simp [zero, Traffic.isZero_iff]
  · rw [if_neg (mt Traffic.isZero_iff.1 zero), (active_add ..).1, ExtTreeSet.mem_insert,
      LawfulEqOrd.compare_eq_iff_eq]
    simp [zero]

theorem mem_active_commit {s : Store} (hs : s.Scheduled) {now : Instant} {key key' : Key}
    {expected markers : Traffic} :
    key' ∈ (s.commit now key expected markers).2.active ↔
      (¬ s.Overdue now ∧ key' ∈ s.active) ∧
        ¬ (key = key' ∧ ∀ entry, s.live? now key' = some entry → entry.traffic = expected) := by
  cases h : s.live? now key with
  | none =>
    -- where no record is live the key is taken out whatever the commit expects
    rw [commit_of_absent hs h, mem_active_deactivate, mem_active_expire, and_comm, ne_comm]
    refine and_congr_right fun _ => not_congr ⟨?_, And.left⟩
    rintro rfl
    simp [h]
  | some entry =>
    rw [commit_of_live hs h]
    split
    · next same =>
      refine mem_active_deactivate.trans ?_
      rw [and_comm, ne_comm]
      refine and_congr mem_active_expire (not_congr ⟨?_, And.left⟩)
      rintro rfl
      simp [h, same]
    · next moved =>
      refine mem_active_expire.trans (iff_self_and.2 ?_)
      rintro - ⟨rfl, same⟩
      exact moved (same entry h)

theorem mem_active_settle {s : Store} (hs : s.Scheduled) {now : Instant} {key key' : Key}
    {purge : Bool} :
    key' ∈ (s.settle now key purge).2.active ↔
      (¬ s.Overdue now ∧ key' ∈ s.active) ∧
        ¬ (key = key' ∧ ∀ entry, s.live? now key' = some entry → entry.isSettled = true) := by
  unfold settle
  dsimp only
  rw [records_expire hs]
  split
  · next settled =>
    have left : key' ∈ ((s.expire now).deactivate key).active ↔
        (¬ s.Overdue now ∧ key' ∈ s.active) ∧
          ¬ (key = key' ∧ ∀ entry, s.live? now key' = some entry → entry.isSettled = true) := by
      rw [mem_active_deactivate, mem_active_expire, and_comm, ne_comm]
      refine and_congr_right fun _ => not_congr ⟨?_, And.left⟩
      rintro rfl
      simpa [Option.all_eq_true] using settled
    cases purge with
    | false => exact left
    | true =>
      rw [← left, if_pos rfl, forgetMember, (sameIndex_dropRecord ..).active]
  · next busy =>
    refine mem_active_expire.trans (iff_self_and.2 ?_)
    rintro - ⟨rfl, settled⟩
    exact busy (by simpa [Option.all_eq_true] using settled)

theorem mem_active_dropMembers {s : Store} {keys : List Key} {key : Key} :
    key ∈ (s.dropMembers keys).active ↔ key ∉ keys ∧ key ∈ s.active := by
  unfold dropMembers
  induction keys generalizing s with
  | nil => simp
  | cons head keys ih =>
    rw [List.foldl_cons, ih, mem_active_deactivate, (sameIndex_dropRecord s head).active,
      List.mem_cons, not_or, and_left_comm, and_assoc]

theorem mem_active_act {s : Store} (hs : s.Scheduled) {now : Instant} {key : Key} {act : Act} :
    key ∈ (s.act now act).active ↔ act.Increments key ∨
      ((act.Sweeps → ¬ s.Overdue now) ∧ key ∈ s.active ∧ ¬ s.Deactivates now key act) := by
  cases act with
  | increment key' traffic =>
    rw [Store.act, mem_active_increment]
    simp [Act.Increments, Act.Sweeps, Deactivates]
  | commit key' expected markers =>
    simp only [Store.act, Act.Increments, Act.Sweeps, Deactivates, false_or, true_imp_iff]
    rw [mem_active_commit hs, and_assoc]
  | settle key' purge =>
    simp only [Store.act, Act.Increments, Act.Sweeps, Deactivates, false_or, true_imp_iff]
    rw [mem_active_settle hs, and_assoc]
  | seed key' baseline =>
    simp only [Store.act, seed, (sameIndex_put ..).active, mem_active_expire, Act.Increments,
      Act.Sweeps, Deactivates, not_false_eq_true, and_true, false_or, true_imp_iff]
  | forget key' =>
    simp only [Store.act, forget, (sameIndex_dropRecord ..).active, Act.Increments, Act.Sweeps,
      Deactivates, false_or, false_imp_iff, true_and]
    exact mem_active_deactivate.trans (by rw [and_comm, ne_comm])
  | take bucket =>
    simp only [Act.Increments, Act.Sweeps, Deactivates, false_or, true_imp_iff]
    refine mem_active_dropMembers.trans ?_
    rw [mem_active_expire, and_comm, and_assoc]
  | snapshot keys => simp [Store.act, Act.Increments, Act.Sweeps, Deactivates]
  | sweep => simp [Store.act, mem_active_expire, Act.Increments, Act.Sweeps, Deactivates]

/-- What dates the active index. -/
def times (s : Store) : Int × Option Instant := (s.lifespan, s.activeExpiry)

theorem SameIndex.times {s t : Store} (same : s.SameIndex t) : t.times = s.times :=
  Prod.ext same.lifespan same.activeExpiry

theorem times_commit {s : Store} (hs : s.Scheduled) (now : Instant) (key : Key)
    (expected markers : Traffic) :
    (s.commit now key expected markers).2.times = (s.expire now).times := by
  cases h : s.live? now key with
  | none => rw [commit_of_absent hs h]; rfl
  | some entry =>
    rw [commit_of_live hs h]
    split <;> rfl

theorem times_settle (s : Store) (now : Instant) (key : Key) (purge : Bool) :
    (s.settle now key purge).2.times = (s.expire now).times := by
  unfold settle
  dsimp only
  split
  · cases purge with
    | false => rfl
    | true => exact (sameIndex_dropRecord ((s.expire now).deactivate key) key).times
  · rfl

theorem times_dropMembers (s : Store) (keys : List Key) : (s.dropMembers keys).times = s.times := by
  unfold dropMembers
  induction keys generalizing s with
  | nil => rfl
  | cons head keys ih =>
    rw [List.foldl_cons, ih]
    exact (sameIndex_dropRecord s head).times

/-- An increment gives the index a new expiry. -/
theorem times_increment {s : Store} {now : Instant} {key : Key} {traffic : Traffic}
    (nonzero : traffic ≠ 0) :
    (s.increment now key traffic).times = (s.lifespan, some (now.addNanos s.lifespan)) := by
  rw [increment, if_neg (mt Traffic.isZero_iff.1 nonzero)]
  obtain ⟨-, expiry, lifespan⟩ := active_add s now key traffic
  exact Prod.ext lifespan expiry

theorem increment_zero (s : Store) (now : Instant) (key : Key) : s.increment now key 0 = s := rfl

theorem lifespan_increment (s : Store) (now : Instant) (key : Key) (traffic : Traffic) :
    (s.increment now key traffic).lifespan = s.lifespan := by
  by_cases zero : traffic = 0
  · rw [zero, increment_zero]
  · exact congrArg Prod.fst (times_increment zero)

/-- Other acts leave its expiry alone, or drop it with the index. -/
theorem times_act {s : Store} (hs : s.Scheduled) {now : Instant} {act : Act}
    (other : ∀ key, ¬ act.Increments key) :
    (s.act now act).times = s.times ∧ ¬ act.Sweeps ∨
      (s.act now act).times = (s.expire now).times ∧ act.Sweeps := by
  cases act with
  | increment key traffic =>
    have zero : traffic = 0 := Decidable.byContradiction fun nonzero => other key ⟨rfl, nonzero⟩
    refine .inl ⟨?_, id⟩
    rw [Store.act, increment, if_pos (Traffic.isZero_iff.2 zero)]
  | commit key expected markers => exact .inr ⟨times_commit hs now key expected markers, trivial⟩
  | settle key purge => exact .inr ⟨times_settle s now key purge, trivial⟩
  | seed key baseline => exact .inr ⟨(sameIndex_put ..).times, trivial⟩
  | forget key => exact .inl ⟨(sameIndex_dropRecord _ key).times, id⟩
  | take bucket => exact .inr ⟨times_dropMembers .., trivial⟩
  | snapshot keys => exact .inl ⟨rfl, id⟩
  | sweep => exact .inr ⟨rfl, trivial⟩

theorem activeExpiry_act {s : Store} (hs : s.Scheduled) {now : Instant} {act : Act}
    (other : ∀ key, ¬ act.Increments key) {expiry : Instant} :
    (s.act now act).activeExpiry = some expiry ↔
      (act.Sweeps → ¬ s.Overdue now) ∧ s.activeExpiry = some expiry := by
  rcases times_act hs other with ⟨same, still⟩ | ⟨same, sweeps⟩
  · have same : (s.act now act).activeExpiry = s.activeExpiry := congrArg Prod.snd same
    simp [same, still]
  · have same : (s.act now act).activeExpiry = (s.expire now).activeExpiry :=
      congrArg Prod.snd same
    rw [same, activeExpiry_expire]
    simp [sweeps]

theorem lifespan_act {s : Store} (hs : s.Scheduled) (now : Instant) (act : Act) :
    (s.act now act).lifespan = s.lifespan := by
  by_cases h : ∃ key, act.Increments key
  · obtain ⟨key, touches⟩ := h
    cases act with
    | increment key' traffic => exact congrArg Prod.fst (times_increment touches.2)
    | _ => exact touches.elim
  · rcases times_act hs (not_exists.1 h) with ⟨same, -⟩ | ⟨same, -⟩
    · exact congrArg Prod.fst same
    · exact congrArg Prod.fst same

theorem lifespan_answer {s : Store} (hs : s.Scheduled) (now : Instant) {α : Type} (r : Request α) :
    (s.answer now r).2.lifespan = s.lifespan := by
  rw [answer_snd]
  generalize r.acts = acts
  induction acts generalizing s with
  | nil => rfl
  | cons act acts ih => exact (ih (hs.act now act)).trans (lifespan_act hs now act)

theorem lifespan_after {s : Store} (hs : s.Scheduled) (history : History) :
    (s.after history).lifespan = s.lifespan := by
  induction history with
  | nil => rfl
  | cons step earlier ih => exact (lifespan_act (hs.after earlier) step.1 step.2).trans ih

end Store

end Metering.Hot

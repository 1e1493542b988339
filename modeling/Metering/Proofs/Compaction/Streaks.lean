import Metering.Ledger
import Metering.Proofs.Compaction.Notes
import Metering.Proofs.Hot.ActiveIndex

/-!
# What the failure streaks count

A compactor counts for each key how many attempts to flush it have failed in a row. The streak of a
key ends with an attempt that has another outcome, when a drain takes the key's record, when the key
is cleaned up or forgotten, and with a cycle at whose end nothing of the key is pending. An attempt
that was cancelled does not count.

Here one compactor is called again and again, each time in a world of its own. Traffic may arrive
and records may expire between any two requests, and each write to the cold tier may fail; calls of
the hot tier succeed. Every call leaves a mark for each key, and the streak is the number of failures
among the latest marks, back to one that ends it.

Results:
1. `getElem?_of_run`, `getElem?_of_drain` and the lemmas next to them: what one call makes of the
   streaks.
2. `streaks_count_failures`.
-/

namespace Metering.Compaction

open Program Procedure

/-! ## Stores of which only the cold one fails -/

namespace Course

/-- The course as a request finds it. Only calls of the cold store may fail, and nothing happens
while an event is recorded. -/
def eased {β : Type} (request : Request β) (s : Course) : Course :=
  match request with
  | .cold _ => s
  | .record _ => ⟨s.stage, ⟨[], none⟩ :: s.fates⟩
  | _ => ⟨s.stage, ⟨s.fate.incidents, none⟩ :: s.fates.tail⟩

/-- The answer to a request. -/
def serve {β : Type} (request : Request β) (s : Course) : β × Course :=
  answer request (s.eased request)

theorem lawful_serve : Lawful serve := by
  intro β request s
  refine ⟨(s.eased request).fate, ?_⟩
  cases request <;> exact ⟨rfl, rfl⟩

/-- Events leave the hot store and the clock alone. -/
theorem pending_records (events : List Event) (s : Course) (key : Key) :
    (events.foldl (fun s event => (serve (.record event) s).2) s).stage.pending key =
      s.stage.pending key := by
  induction events generalizing s with
  | nil => rfl
  | cons event rest ih => exact ih _

end Course

/-! ## Pruning -/

/-- Something is pending in the record. -/
def isPending (record? : Option Hot.Record) : Bool := record?.any fun record => !record.pending.isZero

theorem getElem?_prune (find : Key → Option Hot.Record) (keys : List Key) (streaks : Streaks)
    (key : Key) :
    (streaks.prune (keys.zip (keys.map find)))[key]? =
      if key ∈ keys ∧ isPending (find key) = false then none else streaks[key]? := by
  induction keys generalizing streaks with
  | nil => simp [Streaks.prune]
  | cons first rest ih =>
    have step : streaks.prune ((first :: rest).zip ((first :: rest).map find)) =
        Streaks.prune (if isPending (find first) then streaks else streaks.erase first)
          (rest.zip (rest.map find)) := rfl
    rw [step, ih]
    rcases eq_or_ne first key with rfl | ne
    · cases pending : isPending (find first) with
      | true => simp
      | false => simp
    · have same : (if isPending (find first) then streaks else streaks.erase first)[key]? =
          streaks[key]? := by
        split
        · rfl
        · rw [Streaks.getElem?_erase, if_neg ne]
      simp only [same, List.mem_cons, Ne.symm ne, false_or]

theorem isPending_toRecord (key : Key) (s : Stage) :
    isPending ((s.live? key).map (·.toRecord key)) = false ↔ s.pending key = 0 := by
  unfold Stage.pending
  cases s.live? key with
  | none => exact ⟨fun _ => rfl, fun _ => rfl⟩
  | some entry =>
    show (!entry.pending.isZero) = false ↔ entry.pending = 0
    rw [Bool.not_eq_false', Traffic.isZero_iff]

section Calls

variable {c : Settings} {memory memory' : Compactor} {s t : Course} {key : Key}

/-- The pruning ends the streaks of keys of which nothing is pending, and no others. -/
theorem getElem?_of_prune {streaks streaks' : Streaks}
    (reached : Reaches Course.serve (pruneStreaks streaks) s (.pure streaks') t) (key : Key) :
    streaks'[key]? = if t.stage.pending key = 0 then none else streaks[key]? := by
  unfold pruneStreaks at reached
  split at reached
  · next empty =>
    obtain ⟨rfl, rfl⟩ := reached.of_pure
    have absent : streaks'[key]? = none := by
      rw [Std.ExtTreeMap.isEmpty_iff.1 empty]
      exact Std.ExtTreeMap.getElem?_empty
    rw [absent, ite_self]
  · obtain ⟨rfl, rfl⟩ := reached.of_ask_bind.of_pure
    let u : Stage := (Course.serve (.hot (.snapshot streaks.keys)) s).2.stage
    refine (getElem?_prune (fun key => (u.live? key).map (·.toRecord key)) streaks.keys streaks
      key).trans ?_
    by_cases tracked : key ∈ streaks.keys
    · simp only [tracked, true_and, isPending_toRecord]
      rfl
    · have absent : streaks[key]? = none :=
        Std.ExtTreeMap.getElem?_eq_none (mt Std.ExtTreeMap.mem_keys.2 tracked)
      rw [if_neg fun told => tracked told.1, absent, ite_self]

/-! ## Calls -/

/-- The cycle gave a report and was not cancelled. -/
def isComplete : Except Error Report → Bool
  | .ok report => !report.isCancelled
  | .error _ => false

/-- A cycle extends the streak of each key by its verdict, and a complete one ends those of keys of
which nothing is pending at its end. -/
theorem getElem?_of_run {result : Except Error Report} (fresh : s.stage.log = [])
    (reached : Reaches Course.serve (memory.run c) s (.pure (memory', result)) t) (key : Key) :
    memory'.streaks[key]? =
      if isComplete result = true ∧ t.stage.pending key = 0 then none
      else (t.traces key).verdict.extend memory.streaks[key]? := by
  have untouched (key : Key) : (Course.serve .isCancelled s).2.traces key = {} := by
    rw [traces_aside Course.lawful_serve isAside_isCancelled, Course.traces, fresh]
    rfl
  have ran := of_run reached
  split at ran
  · obtain ⟨rfl, rfl, rfl⟩ := ran
    rw [untouched key]
    exact (if_neg fun complete => nomatch complete.1).symm
  · obtain ⟨streaks, u, rfl, cycled, events, rfl⟩ := ran
    obtain ⟨⟨noted, u', concluded, extended⟩, -, -⟩ :=
      of_cycle Course.lawful_serve untouched cycled
    rw [Course.pending_records, traces_records Course.lawful_serve, ← extended]
    show streaks[key]? = _
    cases result with
    | error e =>
      obtain ⟨rfl, rfl⟩ := concluded
      exact (if_neg fun complete => nomatch complete.1).symm
    | ok report =>
      unfold Concludes at concluded
      dsimp only at concluded
      split at concluded
      · next cancelled =>
        obtain ⟨rfl, rfl⟩ := concluded
        exact (if_neg fun complete => by simp [isComplete, cancelled] at complete).symm
      · next completed =>
        rw [getElem?_of_prune concluded key]
        simp only [isComplete, completed, Bool.not_false, true_and]

theorem getElem?_forget (memory : Compactor) (key key' : Key) :
    (memory.forget key).streaks[key']? = if key = key' then none else memory.streaks[key']? :=
  Streaks.getElem?_erase ..

theorem getElem?_forgets (keys : List Key) (memory : Compactor) (key : Key) :
    (keys.foldl Compactor.forget memory).streaks[key]? =
      if key ∈ keys then none else memory.streaks[key]? := by
  induction keys generalizing memory with
  | nil => simp
  | cons first rest ih =>
    rw [List.foldl_cons, ih, getElem?_forget]
    rcases eq_or_ne first key with rfl | ne
    · simp
    · simp [ne, Ne.symm ne]

/-- The keys whose records a drain would take. -/
def Course.taken (s : Course) (bucket : Bucket) : List Key :=
  match (serve (.hot (.takeBucket bucket)) s).1 with
  | .ok records => records.map (·.key)
  | .error _ => []

theorem getElem?_of_drain {bucket : Bucket} {result : Except Error DrainReport}
    (reached : Reaches Course.serve (drain c memory bucket) s (.pure (memory', result)) t)
    (key : Key) :
    memory'.streaks[key]? = if key ∈ s.taken bucket then none else memory.streaks[key]? := by
  obtain ⟨outcomes, u, -, later⟩ := Reaches.of_bind reached.of_ask_bind
  obtain ⟨eq, -⟩ := later.of_pure
  obtain ⟨rfl, -⟩ := Prod.mk.inj eq
  rw [← getElem?_forgets, Course.taken]
  exact congrArg (fun memory : Compactor => memory.streaks[key]?) List.foldl_map.symm

/-- The call has removed the key. -/
def Occurrence.isRemoval (key : Key) : Occurrence → Bool
  | .forgetting key' (.ok _) => key' = key
  | _ => false

/-- The log tells that the key was removed. -/
def Course.hasRemoved (s : Course) (key : Key) : Bool := s.stage.log.any (·.isRemoval key)

theorem hasRemoved_meet (incidents : List Incident) (s : Stage) (key : Key) :
    (incidents.foldl Stage.meet s).log.any (·.isRemoval key) = s.log.any (·.isRemoval key) := by
  induction incidents generalizing s with
  | nil => rfl
  | cons incident rest ih =>
    refine (ih (s.meet incident)).trans ?_
    cases incident <;> rfl

theorem hasRemoved_serve {β : Type} (request : Request β) (s : Course) (key : Key) :
    (Course.serve request s).2.hasRemoved key =
      ((occurrence request (Course.serve request s).1).isRemoval key || s.hasRemoved key) := by
  have stage : (s.eased request).stage = s.stage := by cases request <;> rfl
  refine congrArg (_ || ·) ?_
  refine (hasRemoved_meet (s.eased request).fate.incidents _ key).trans ?_
  rw [stage]
  rfl

/-- Some keys are forgotten, and the log tells them. -/
def Forgets (memory : Compactor) (s : Course) (memory' : Compactor) (t : Course) : Prop :=
  ∃ keys : List Key, memory' = keys.foldl Compactor.forget memory ∧
    ∀ key, t.hasRemoved key = (decide (key ∈ keys) || s.hasRemoved key)

theorem forgets_of_cleanup {key : Key} {result : Except Error Bool}
    (reached : Reaches Course.serve (Ledger.cleanup memory key) s (.pure (memory', result)) t) :
    (∃ removed, result = .ok removed) ∧ Forgets memory s memory' t := by
  obtain ⟨eq, rfl⟩ := reached.of_ask_bind.of_pure
  obtain ⟨rfl, rfl⟩ := Prod.mk.inj eq
  refine ⟨⟨_, rfl⟩, [key], rfl, fun key' => ?_⟩
  rw [hasRemoved_serve]
  refine congrArg (· || _) (decide_eq_decide.2 ?_)
  rw [List.mem_singleton]
  exact eq_comm

theorem forgets_of_cleanupBuckets {current : Key} {buckets : List Bucket} {removed : Nat}
    {result : Except Error Nat}
    (reached : Reaches Course.serve (Ledger.cleanupBuckets current buckets removed memory) s
      (.pure (memory', result)) t) : Forgets memory s memory' t := by
  induction buckets generalizing memory s removed with
  | nil =>
    obtain ⟨eq, rfl⟩ := reached.of_pure
    obtain ⟨rfl, -⟩ := Prod.mk.inj eq
    exact ⟨[], rfl, fun _ => rfl⟩
  | cons bucket rest ih =>
    obtain ⟨⟨memory₁, cleaned⟩, u, first, later⟩ := reached.of_bind
    obtain ⟨⟨gone, rfl⟩, keys, rfl, told⟩ := forgets_of_cleanup first
    obtain ⟨keys', rfl, told'⟩ := ih later
    refine ⟨keys ++ keys', List.foldl_append.symm, fun key => ?_⟩
    rw [told', told, ← Bool.or_assoc, Bool.or_comm (decide _), ← Bool.decide_or]
    simp only [List.mem_append]

theorem forgets_of_cleanupEverywhere {l : Ledger} {subscription resource : Id} {tag : String}
    {result : Except Error Nat}
    (reached : Reaches Course.serve (l.cleanupEverywhere memory subscription tag resource) s
      (.pure (memory', result)) t) : Forgets memory s memory' t := by
  obtain ⟨current?, u, clocked, later⟩ := reached.of_bind
  obtain ⟨rfl, rfl⟩ := clocked.of_ask_bind.of_pure
  have aside (key : Key) : (Course.serve .now s).2.hasRemoved key = s.hasRemoved key :=
    hasRemoved_serve .now s key
  split at later
  · obtain ⟨eq, rfl⟩ := later.of_pure
    obtain ⟨rfl, -⟩ := Prod.mk.inj eq
    exact ⟨[], rfl, aside⟩
  · obtain ⟨keys, same, told⟩ := forgets_of_cleanupBuckets later.of_ask_bind
    refine ⟨keys, same, fun key => (told key).trans (congrArg (_ || ·) ?_)⟩
    exact (hasRemoved_serve (.hot .activeBuckets) _ key).trans (aside key)

theorem getElem?_of_forgets (fresh : s.stage.log = []) (forgets : Forgets memory s memory' t)
    (key : Key) :
    memory'.streaks[key]? = if t.hasRemoved key then none else memory.streaks[key]? := by
  obtain ⟨keys, rfl, told⟩ := forgets
  have none : s.hasRemoved key = false := by
    rw [Course.hasRemoved, fresh]
    rfl
  rw [getElem?_forgets, told, none, Bool.or_false]
  simp only [decide_eq_true_eq]

end Calls

/-! ## Marks -/

/-- What a call means for the streak of a key. -/
inductive Mark
  /-- An attempt to flush the key has failed. -/
  | failure
  /-- The streak has come to its end. -/
  | ending
  /-- Nothing was done about the key. -/
  | nothing
deriving DecidableEq

/-- A streak after a mark. -/
def Mark.extend (streak : Option Nat) : Mark → Option Nat
  | .failure => some (streak.getD 0 + 1)
  | .ending => none
  | .nothing => streak

/-- The mark that the outcome of an attempt leaves. -/
def Outcome.mark : Outcome → Mark
  | .failed => .failure
  | .cancelled => .nothing
  | _ => .ending

theorem extend_mark (outcome : Outcome) (streak : Option Nat) :
    outcome.mark.extend streak = outcome.extend streak := by
  cases outcome <;> rfl

/-- The failures since the latest mark that ends the streak; the newest mark comes first. -/
def failuresSince (marks : List Mark) : Nat := (marks.takeWhile (· ≠ .ending)).count .failure

/-- The streak of so many failures; none is stored where there are none. -/
def streakOf (failures : Nat) : Option Nat := if failures = 0 then none else some failures

theorem getD_streakOf (failures : Nat) : (streakOf failures).getD 0 = failures := by
  unfold streakOf
  split
  · next none => exact none.symm
  · rfl

theorem streakOf_eq_some {failures n : Nat} : streakOf failures = some n ↔ n = failures ∧ 0 < n := by
  unfold streakOf
  split
  · next none =>
    subst none
    simp
  · next some =>
    rw [Option.some_inj]
    exact ⟨fun same => ⟨same.symm, same ▸ Nat.pos_of_ne_zero some⟩, fun told => told.1.symm⟩

theorem streakOf_cons (mark : Mark) (older : List Mark) :
    streakOf (failuresSince (mark :: older)) = mark.extend (streakOf (failuresSince older)) := by
  cases mark with
  | failure =>
    have more : failuresSince (.failure :: older) = failuresSince older + 1 := by simp [failuresSince]
    rw [more, Mark.extend, getD_streakOf]
    rfl
  | ending => rfl
  | nothing =>
    have same : failuresSince (.nothing :: older) = failuresSince older := by simp [failuresSince]
    rw [same]
    rfl

/-- A call of a compactor that has come to its end. -/
inductive Deed
  | cycle (result : Except Error Report) (finish : Course)
  | drain (bucket : Bucket) (start : Course)
  | cleanup (finish : Course)
  | forget (key : Key)

/-- The mark that a call leaves for a key. -/
def Deed.mark (key : Key) : Deed → Mark
  | .cycle result finish =>
    if isComplete result = true ∧ finish.stage.pending key = 0 then .ending
    else (finish.traces key).verdict.mark
  | .drain bucket start => if key ∈ start.taken bucket then .ending else .nothing
  | .cleanup finish => if finish.hasRemoved key then .ending else .nothing
  | .forget key' => if key' = key then .ending else .nothing

/-- The memory of a compactor after some calls, the newest first. Each of them begins in a world of
its own with an empty log, and only calls of the cold store fail in it. -/
inductive Chronicle (l : Ledger) : Compactor → List Deed → Prop
  | new : Chronicle l {} []
  | cycle {memory memory' : Compactor} {deeds : List Deed} {start finish : Course}
      {result : Except Error Report} (before : Chronicle l memory deeds)
      (fresh : start.stage.log = [])
      (ran : Reaches Course.serve (memory.run l.compaction) start (.pure (memory', result)) finish) :
      Chronicle l memory' (.cycle result finish :: deeds)
  | drain {memory memory' : Compactor} {deeds : List Deed} {bucket : Bucket} {start finish : Course}
      {result : Except Error DrainReport} (before : Chronicle l memory deeds)
      (ran : Reaches Course.serve (Compaction.drain l.compaction memory bucket) start
        (.pure (memory', result)) finish) :
      Chronicle l memory' (.drain bucket start :: deeds)
  | cleanup {memory memory' : Compactor} {deeds : List Deed} {key : Key} {start finish : Course}
      {result : Except Error Bool} (before : Chronicle l memory deeds)
      (fresh : start.stage.log = [])
      (ran : Reaches Course.serve (Ledger.cleanup memory key) start (.pure (memory', result))
        finish) :
      Chronicle l memory' (.cleanup finish :: deeds)
  | cleanupEverywhere {memory memory' : Compactor} {deeds : List Deed} {subscription resource : Id}
      {tag : String} {start finish : Course} {result : Except Error Nat}
      (before : Chronicle l memory deeds) (fresh : start.stage.log = [])
      (ran : Reaches Course.serve (l.cleanupEverywhere memory subscription tag resource) start
        (.pure (memory', result)) finish) :
      Chronicle l memory' (.cleanup finish :: deeds)
  | forget {memory : Compactor} {deeds : List Deed} (before : Chronicle l memory deeds) (key : Key) :
      Chronicle l (memory.forget key) (.forget key :: deeds)

/-- The marks of a key. -/
def marksOf (key : Key) (deeds : List Deed) : List Mark := deeds.map (·.mark key)

theorem ite_extend (P : Prop) [Decidable P] (mark : Mark) (streak : Option Nat) :
    (if P then none else mark.extend streak) = (if P then Mark.ending else mark).extend streak := by
  split <;> rfl

/-- Every call keeps the streaks as the marks tell them. -/
theorem Chronicle.getElem?_streaks {l : Ledger} {memory : Compactor} {deeds : List Deed}
    (h : Chronicle l memory deeds) (key : Key) :
    memory.streaks[key]? = streakOf (failuresSince (marksOf key deeds)) := by
  induction h with
  | new => exact Std.ExtTreeMap.getElem?_empty
  | cycle _ fresh ran ih =>
    rw [getElem?_of_run fresh ran, ih, ← extend_mark, ite_extend]
    exact (streakOf_cons ..).symm
  | drain _ ran ih =>
    rw [getElem?_of_drain ran, ih]
    exact (ite_extend _ .nothing _).trans (streakOf_cons ..).symm
  | cleanup _ fresh ran ih =>
    rw [getElem?_of_forgets fresh (forgets_of_cleanup ran).2, ih]
    exact (ite_extend _ .nothing _).trans (streakOf_cons ..).symm
  | cleanupEverywhere _ fresh ran ih =>
    rw [getElem?_of_forgets fresh (forgets_of_cleanupEverywhere ran), ih]
    exact (ite_extend _ .nothing _).trans (streakOf_cons ..).symm
  | forget _ key' ih =>
    rw [getElem?_forget, ih]
    exact (ite_extend _ .nothing _).trans (streakOf_cons ..).symm

theorem Chronicle.length_streaks {l : Ledger} {memory : Compactor} {deeds : List Deed}
    (h : Chronicle l memory deeds) (key : Key) :
    memory.streaks.length key = failuresSince (marksOf key deeds) := by
  unfold Streaks.length
  rw [h.getElem?_streaks, getD_streakOf]

theorem mem_failing {streaks : Streaks} {threshold : Nat} {key : Key} {n : Nat} :
    (key, n) ∈ streaks.failing threshold ↔ streaks[key]? = some n ∧ threshold ≤ n := by
  unfold Streaks.failing
  rw [List.mem_filter, Std.ExtTreeMap.mem_toList_iff_getElem?_eq_some]
  simp

theorem ordered_failing (streaks : Streaks) (threshold : Nat) :
    (streaks.failing threshold).Pairwise fun a b => compare a.1 b.1 = .lt :=
  Std.ExtTreeMap.ordered_keys_toList.filter _

/-- What the failure streaks count, after any calls of a compactor in which writes to the cold tier
may fail. The streak of a key is as long as the number of attempts on it that have failed since its
streak was ended last. After a complete cycle there is none for a key of which nothing is pending. The
failing keys are those with streaks that are long enough, in order; a key without a streak is not one
of them, even if the threshold is zero. -/
theorem streaks_count_failures {l : Ledger} {memory : Compactor} {deeds : List Deed}
    (h : Chronicle l memory deeds) :
    (∀ key, memory.streaks.length key = failuresSince (marksOf key deeds)) ∧
    (∀ result finish older, deeds = .cycle result finish :: older → isComplete result = true →
      ∀ key, finish.stage.pending key = 0 → memory.streaks.length key = 0) ∧
    (∀ key n, (key, n) ∈ memory.failingKeys l.compaction ↔
      n = memory.streaks.length key ∧ 0 < n ∧ l.compaction.config.failureWarnThreshold ≤ n) ∧
    (memory.failingKeys l.compaction).Pairwise fun a b => compare a.1 b.1 = .lt := by
  refine ⟨h.length_streaks, ?_, fun key n => ?_, ordered_failing _ _⟩
  · rintro result finish older rfl complete key idle
    have ended : Deed.mark key (.cycle result finish) = .ending := if_pos ⟨complete, idle⟩
    rw [h.length_streaks, marksOf, List.map_cons, ended]
    rfl
  · unfold Compactor.failingKeys
    rw [mem_failing, h.getElem?_streaks, streakOf_eq_some, h.length_streaks, and_assoc]

/-- The call in which the keys of a batch are handled one after another. -/
theorem Chronicle.settled {l : Ledger} {memory : Compactor} {deeds : List Deed}
    (before : Chronicle l memory deeds) (start : Course) (fresh : start.stage.log = []) :
    let ended := (memory.run l.compaction).settle Course.serve start
    Chronicle l ended.1.1 (.cycle ended.1.2 ended.2 :: deeds) :=
  .cycle before fresh (reaches_settle _ start)

/-- Two cycles over the same two keys. In the first both writes time out, and in the second only that
of the first key. -/
theorem streaks_of_two_cycles :
    let key (node : Id) : Key := ⟨⟨default, 474804⟩, 1, .node, node⟩
    let w : World := {
      now := ⟨5⟩
      hot := (Hot.Store.empty 100).afterCalls
        [.request ⟨1⟩ (.incrementAll [(key 1, .ofNats 10 10), (key 2, .ofNats 20 20)])] }
    let l : Ledger := {
      config := {}, zone := default, compaction := ⟨default, 0, { failureWarnThreshold := 2 }⟩
      quota := ⟨"traffic", 0⟩, query := ⟨default, 86400000000000, {}, .passthrough⟩
      alert := ⟨"traffic", [], 0⟩ }
    let timeout : Fate := ⟨[], some (.unavailable .cold "timed out")⟩
    let early : List Fate := List.replicate 6 ⟨[], none⟩ ++ [timeout]
    let first := (Compactor.run l.compaction {}).settle Course.serve
      ⟨⟨w, []⟩, early ++ [⟨[], none⟩, timeout]⟩
    let second := (first.1.1.run l.compaction).settle Course.serve ⟨⟨w, []⟩, early⟩
    let deeds : List Deed := [.cycle second.1.2 second.2, .cycle first.1.2 first.2]
    Chronicle l second.1.1 deeds ∧
      marksOf (key 1) deeds = [.failure, .failure] ∧ marksOf (key 2) deeds = [.ending, .failure] ∧
      second.1.1.streaks.length (key 1) = 2 ∧ second.1.1.streaks.length (key 2) = 0 ∧
      (key 1, 2) ∈ second.1.1.failingKeys l.compaction := by
  intro key w l timeout early first second deeds
  have chronicle : Chronicle l second.1.1 deeds :=
    (Chronicle.new.settled ⟨⟨w, []⟩, early ++ [⟨[], none⟩, timeout]⟩ rfl).settled
      ⟨⟨w, []⟩, early⟩ rfl
  obtain ⟨counts, -, failing, -⟩ := streaks_count_failures chronicle
  have twice : second.1.1.streaks.length (key 1) = 2 :=
    (counts (key 1)).trans (by decide +kernel)
  have none : second.1.1.streaks.length (key 2) = 0 :=
    (counts (key 2)).trans (by decide +kernel)
  refine ⟨chronicle, by decide +kernel, by decide +kernel, twice, none, ?_⟩
  exact (failing (key 1) 2).2 ⟨twice.symm, by decide, by decide⟩

end Metering.Compaction

import Metering.Proofs.Compaction.Verdicts

/-!
# What a cycle notes

A cycle takes note of the outcome of each key in its report and in the streaks. From batch to batch
the verdicts of the keys that are done with stay as they are, so at the end what was noted of each
key is the verdict that its trace gives then.

Results:
1. `Notes.append`: notes of one batch after another.
2. `notes_handleBatch`, `of_runBatches`: what batches note of their keys are their verdicts.
3. `of_cycle`: a cycle notes each active key once, and then perhaps prunes the streaks; `of_run`, what
   a run adds to it.
-/

namespace Metering.Compaction

open Program Procedure

/-! ## Notes -/

/-- The streak of a key after an outcome, none if it has ended. -/
def Outcome.extend (outcome : Outcome) (streak : Option Nat) : Option Nat :=
  match outcome with
  | .failed => some (streak.getD 0 + 1)
  | .cancelled => streak
  | _ => none

theorem Streaks.getElem?_erase (streaks : Streaks) (key key' : Key) :
    (Std.ExtTreeMap.erase streaks key)[key']? = if key = key' then none else streaks[key']? := by
  rw [Std.ExtTreeMap.getElem?_erase]
  simp only [Std.LawfulEqOrd.compare_eq_iff_eq]

theorem Streaks.getElem?_note (streaks : Streaks) (key : Key) (outcome : Outcome) (key' : Key) :
    (streaks.note key outcome)[key']? =
      if key = key' then outcome.extend streaks[key']? else streaks[key']? := by
  cases outcome with
  | failed =>
    refine Std.ExtTreeMap.getElem?_insert.trans ?_
    simp only [Std.LawfulEqOrd.compare_eq_iff_eq]
    split
    · next own =>
      subst own
      rfl
    · rfl
  | cancelled => exact (ite_self _).symm
  | _ => exact getElem?_erase streaks key key'

namespace Report

/-- The report but for the number of keys whose records were read. -/
def counts (r : Report) : Report := { r with scanned := 0 }

/-- Counts some outcomes. -/
def tally (r : Report) (outcomes : List Outcome) : Report := outcomes.foldl count r

theorem counts_tally (r : Report) (outcomes : List Outcome) :
    (r.tally outcomes).counts = r.counts.tally outcomes := by
  induction outcomes generalizing r with
  | nil => rfl
  | cons outcome rest ih =>
    have first : (r.count outcome).counts = r.counts.count outcome := by cases outcome <;> rfl
    exact (ih (r.count outcome)).trans (congrArg (·.tally rest) first)

theorem count_comm (r : Report) (a b : Outcome) : (r.count a).count b = (r.count b).count a := by
  cases a with
  | flushed traffic commit =>
    cases b with
    | flushed traffic' commit' =>
      simp only [count, Traffic.add_assoc, Traffic.add_comm traffic traffic']
      split <;> split <;> rfl
    | busy => simp only [count]; split <;> rfl
    | _ => rfl
  | busy =>
    cases b with
    | flushed traffic commit => simp only [count]; split <;> rfl
    | _ => rfl
  | _ => cases b <;> rfl

/-- A report does not depend on the order of the outcomes. -/
theorem tally_perm {outcomes outcomes' : List Outcome} (perm : outcomes.Perm outcomes')
    (r : Report) : r.tally outcomes = r.tally outcomes' :=
  perm.foldl_eq' (fun a _ b _ r => count_comm r a b) r

/-- To skip some keys is to count each of them as cancelled. -/
theorem skip_eq_tally (r : Report) {keys : List Key} (some : keys ≠ []) :
    r.skip keys.length = r.tally (keys.map fun _ => .cancelled) := by
  induction keys generalizing r with
  | nil => exact absurd rfl some
  | cons key keys ih =>
    by_cases last : keys = []
    · subst last
      rfl
    · rw [List.map_cons, tally, List.foldl_cons, ← tally, ← ih _ last]
      simp only [skip, count, List.length_cons, Nat.add_assoc, Nat.add_comm 1]

end Report

/-- What a cycle has noted of some keys is the verdicts of their traces. -/
structure Notes (v : Key → Trace) (keys : List Key) (p p' : Progress) : Prop where
  report : p'.report.counts = p.report.counts.tally (keys.map fun key => (v key).verdict)
  streaks : ∀ key, p'.streaks[key]? =
    if key ∈ keys then (v key).verdict.extend p.streaks[key]? else p.streaks[key]?

section Notes

variable {v v' : Key → Trace} {keys keys' : List Key} {p p' p'' : Progress}

theorem Notes.perm (h : Notes v keys p p') (perm : keys.Perm keys') : Notes v keys' p p' where
  report := h.report.trans (Report.tally_perm (perm.map _) _)
  streaks key := by simp only [h.streaks, perm.mem_iff]

theorem notes_foldl (v : Key → Trace) (nodup : keys.Nodup) (p : Progress) :
    Notes v keys p (keys.foldl (fun p key => p.note key (v key).verdict) p) := by
  induction keys generalizing p with
  | nil => exact ⟨rfl, fun _ => rfl⟩
  | cons first keys ih =>
    rw [List.nodup_cons] at nodup
    obtain ⟨report, streaks⟩ := ih nodup.2 (p.note first (v first).verdict)
    refine ⟨?_, fun key => ?_⟩
    · refine report.trans ?_
      exact congrArg (fun r => Report.tally r _) (Report.counts_tally p.report [(v first).verdict])
    · rw [List.foldl_cons, streaks, Progress.note, Streaks.getElem?_note]
      by_cases own : first = key
      · subst own
        rw [if_neg nodup.1, if_pos rfl, if_pos List.mem_cons_self]
      · simp only [own, if_false, List.mem_cons, Ne.symm own, false_or]

/-- Notes of one batch after another, where later ones leave the traces of earlier keys alone. -/
theorem Notes.append (first : Notes v keys p p') (rest : Notes v' keys' p' p'')
    (apart : ∀ key ∈ keys, key ∉ keys') (left : ∀ key ∈ keys, v' key = v key) :
    Notes v' (keys ++ keys') p p'' where
  report := by
    have same : keys.map (fun key => (v key).verdict) = keys.map fun key => (v' key).verdict :=
      List.map_congr_left fun key member => by rw [left key member]
    rw [rest.report, first.report, same, List.map_append]
    exact List.foldl_append.symm
  streaks key := by
    rw [rest.streaks, first.streaks]
    by_cases early : key ∈ keys
    · rw [if_neg (apart key early), if_pos early, if_pos (List.mem_append_left _ early), left key early]
    · simp only [early, if_false, List.mem_append, false_or]

/-- Keys about which no call was made are noted as cancelled. -/
theorem notes_skipped (none : ∀ key ∈ keys, (v key).calls = []) (p : Progress) :
    Notes v keys p ⟨p.streaks, p.report.tally (keys.map fun _ => .cancelled)⟩ where
  report := by
    rw [Report.counts_tally]
    exact congrArg p.report.counts.tally
      (List.map_congr_left fun key member => (Trace.verdict_of_calls (none key member)).symm)
  streaks key := by
    split
    · next member =>
      rw [Trace.verdict_of_calls (none key member)]
      rfl
    · rfl

end Notes

/-! ## Cycles -/

/-- What some keys are read as, if they are: each has a reading then, and no call was made. -/
def Reads (v : Key → Trace) (keys : List Key)
    (result? : Option (Except Error (List (Option Hot.Record)))) (v' : Key → Trace) : Prop :=
  match result? with
  | some (.ok records) => ∃ find : Key → Option Hot.Record, records = keys.map find ∧
    (∀ key record, find key = some record → record.key = key) ∧
    ∀ key, v' key =
      ⟨(v key).reading.or (if key ∈ keys then some (find key) else none), (v key).calls⟩
  | _ => v' = v

/-- A key that no call was made about is read as it stands. -/
theorem Reads.fresh {keys : List Key} {find : Key → Option Hot.Record} {v v' : Key → Trace}
    (read : ∀ key, v' key =
      ⟨(v key).reading.or (if key ∈ keys then some (find key) else none), (v key).calls⟩)
    {key : Key} (fresh : v key = {}) :
    v' key = if key ∈ keys then ⟨some (find key), []⟩ else {} := by
  rw [read, fresh]
  split <;> rfl

theorem nil_not_mem_chunks {α : Type} (size : Nat) (as : List α) : [] ∉ chunks size as := by
  induction as using chunks.induct size with
  | case1 => simp [chunks]
  | case2 a as ih => simp [chunks, ih]

section Cycles

variable {answer : {β : Type} → Request β → Course → β × Course} (lawful : Course.Lawful answer)
  {c : Settings} {boundary : Bucket} {p : Progress} {s t : Course} {v : Key → Trace}
include lawful

theorem onCells_records {β : Type} (event : β → Event) (told : List β) :
    OnCells answer (fun _ => True) Course.traces
      (told.forM fun b => Procedure.record (event b)) v fun _ v' => v' = v := by
  induction told with
  | nil => exact .pure rfl
  | cons b told ih =>
    refine (onCells_aside lawful (isAside_record (event b))).bind ?_
    rintro _ _ rfl
    exact ih

/-- A batch is handled: the verdicts of its keys are noted, and other keys are left alone. -/
theorem notes_handleBatch {batch : List (Key × Option Hot.Record)} (read : BatchRead batch)
    (fresh : ∀ entry ∈ batch, v entry.1 = ⟨some entry.2, []⟩) :
    OnCells answer (fun _ => True) Course.traces (handleBatch c boundary p batch) v fun p' v' =>
      Notes v' (batch.map Prod.fst) p p' ∧ (∀ entry ∈ batch, (v' entry.1).Ordered entry.1) ∧
        ∀ key ∉ batch.map Prod.fst, v' key = v key := by
  refine (OnCells.gather c.config.concurrency Prod.fst
    (fun entry result trace => result.1 = entry.1 ∧ Ends entry.1 ⟨some entry.2, []⟩ result.2 trace)
    read.nodup fun entry member => ?_).bind ?_
  · rw [fresh entry member]
    exact judged_handleKey lawful (read.own entry member)
  · rintro outcomes v' ⟨⟨order, perm, results⟩, others⟩
    have told : outcomes = (order.map Prod.fst).map fun key => (key, (v' key).verdict) := by
      clear perm
      induction results with
      | nil => rfl
      | cons result _ ih =>
        obtain ⟨own, ended⟩ := result
        rw [ih, List.map_cons, List.map_cons, ended.judged, ← own]
    have keys := perm.map Prod.fst
    have noted := notes_foldl v' (keys.nodup_iff.2 read.nodup)
      { p with report.scanned := p.report.scanned + batch.length }
    have noted : Notes v' (batch.map Prod.fst) p _ := Notes.perm ⟨noted.report, noted.streaks⟩ keys
    refine (onCells_records lawful _ outcomes).bind ?_
    rintro _ _ rfl
    refine .pure ⟨?_, fun entry member => ?_, others⟩
    · rw [told, List.foldl_map]
      exact noted
    · obtain ⟨_, -, ended⟩ := OnCells.exists_of_forall₂ results (perm.mem_iff.2 member)
      exact ended.ordered

theorem reads_snapshot (keys : List Key) (s : Course) :
    Reads s.traces keys (some (answer (.hot (.snapshot keys)) s).1)
      (answer (.hot (.snapshot keys)) s).2.traces := by
  have traces (key : Key) := traces_answer lawful (.hot (.snapshot keys)) s key
  obtain ⟨fate, answered, -⟩ := lawful (.hot (.snapshot keys)) s
  have sound := fun records => @Course.snapshot_sound keys ⟨s.stage, [fate]⟩ records
  change (answer _ s).1 = _ at answered
  rw [← answered] at sound
  generalize answer (.hot (.snapshot keys)) s = told at traces sound ⊢
  obtain ⟨e | records, t⟩ := told
  · exact funext fun key => (traces key).trans (Trace.extend_of_aside rfl rfl)
  · obtain ⟨find, rfl, own⟩ := sound records rfl
    refine ⟨find, rfl, own, fun key => (traces key).trans ?_⟩
    rw [← lookup_zip_map]
    rfl

theorem reads_readBatch {batch : List Key}
    {result? : Option (Except Error (List (Option Hot.Record)))}
    (reached : Reaches answer (readBatch batch) s (.pure result?) t) :
    Reads s.traces batch result? t.traces := by
  have quiet (u : Course) := traces_aside lawful isAside_isCancelled u
  have asked := reached.of_ask_bind
  split at asked
  · obtain ⟨rfl, rfl⟩ := asked.of_pure
    exact quiet s
  · have polls (u : Course) (same : u.traces = s.traces) :
        (Procedure.isCancelled.settle answer u).2.traces = s.traces :=
      (quiet u).trans same
    obtain ⟨rfl, same⟩ | ⟨u, same, rfl, rfl⟩ := asked.of_abandonIf polls (quiet s)
    · exact same
    · exact same ▸ reads_snapshot lawful batch u

/-- The batches of a cycle: each of their keys is noted, and other keys are left alone. If the last
batch is reached, the report tells what was noted. -/
theorem of_runBatches {batches : List (List Key)} (nodup : batches.flatten.Nodup)
    (filled : [] ∉ batches) (fresh : ∀ key ∈ batches.flatten, s.traces key = {})
    {streaks : Streaks} {result : Except Error Report}
    (reached : Reaches answer (runBatches c boundary batches p) s (.pure (streaks, result)) t) :
    (∀ key ∉ batches.flatten, t.traces key = s.traces key) ∧
      (∀ key ∈ batches.flatten, (t.traces key).Ordered key) ∧
      ∃ report, Notes t.traces batches.flatten p ⟨streaks, report⟩ ∧
        ∀ told, result = .ok told → told = report := by
  induction batches generalizing p s with
  | nil =>
    obtain ⟨eq, rfl⟩ := reached.of_pure
    obtain ⟨rfl, rfl⟩ := Prod.mk.inj eq
    rw [List.flatten_nil]
    refine ⟨fun _ _ => rfl, fun _ none => absurd none List.not_mem_nil, p.report,
      ⟨rfl, fun _ => rfl⟩, ?_⟩
    rintro _ ⟨⟩
    rfl
  | cons batch rest ih =>
    rw [List.flatten_cons, List.nodup_append] at nodup
    obtain ⟨batch_nodup, rest_nodup, apart⟩ := nodup
    rw [List.mem_cons, not_or] at filled
    obtain ⟨nonempty, filled⟩ := filled
    rw [List.flatten_cons] at fresh ⊢
    obtain ⟨batch_fresh, rest_fresh⟩ := List.forall_mem_append.1 fresh
    obtain ⟨result?, u, readout, later⟩ := reached.of_bind
    have read := reads_readBatch lawful readout
    rcases result? with _ | (e | records)
    · -- a batch that was given up is skipped
      rw [← show u.traces = s.traces from read] at batch_fresh rest_fresh ⊢
      obtain ⟨left, ordered, report, notes, told⟩ := ih rest_nodup filled rest_fresh later
      have stays (key : Key) (member : key ∈ batch) : t.traces key = u.traces key :=
        left key fun late => apart key member key late rfl
      have none (key : Key) (member : key ∈ batch) : (u.traces key).calls = [] := by
        rw [batch_fresh key member]
      have skipped := notes_skipped none p
      rw [← Report.skip_eq_tally _ (Ne.symm nonempty)] at skipped
      refine ⟨fun key absent => left key fun late => absent (List.mem_append_right _ late),
        List.forall_mem_append.2 ⟨fun key member => ?_, ordered⟩, report,
        skipped.append notes (fun key early late => apart key early key late rfl) stays, told⟩
      rw [stays key member]
      exact Trace.ordered_of_calls (none key member)
    · -- nothing more is done
      obtain ⟨eq, rfl⟩ := later.of_pure
      obtain ⟨rfl, rfl⟩ := Prod.mk.inj eq
      have same : t.traces = s.traces := read
      have none (key : Key) (member : key ∈ batch ++ rest.flatten) : (t.traces key).calls = [] := by
        rw [same, fresh key member]
      exact ⟨fun key _ => congrFun same key,
        fun key member => Trace.ordered_of_calls (none key member), _, notes_skipped none p, nofun⟩
    · obtain ⟨find, rfl, own, read⟩ := read
      obtain ⟨p', u', handled, later⟩ := later.of_bind
      have keys : (batch.zip (batch.map find)).map Prod.fst = batch := List.map_fst_zip (by simp)
      have entries (entry : Key × Option Hot.Record) (member : entry ∈ batch.zip (batch.map find)) :
          u.traces entry.1 = ⟨some entry.2, []⟩ := by
        obtain ⟨mine, same⟩ := mem_zip_map.1 member
        rw [Reads.fresh read (batch_fresh entry.1 mine), if_pos mine, same]
      obtain ⟨-, noted, settled, others⟩ := (notes_handleBatch lawful
        (batchRead_zip batch_nodup own) entries).reaches trivial handled
      rw [keys] at noted others
      have rest_fresh (key : Key) (member : key ∈ rest.flatten) : u'.traces key = {} := by
        have late : key ∉ batch := fun early => apart key early key member rfl
        rw [others key late, Reads.fresh read (rest_fresh key member), if_neg late]
      obtain ⟨left, ordered, report, notes, told⟩ := ih rest_nodup filled rest_fresh later
      have stays (key : Key) (member : key ∈ batch) : t.traces key = u'.traces key :=
        left key fun late => apart key member key late rfl
      refine ⟨fun key absent => ?_, List.forall_mem_append.2 ⟨fun key member => ?_, ordered⟩, report,
        noted.append notes (fun key early late => apart key early key late rfl) stays, told⟩
      · rw [List.mem_append, not_or] at absent
        rw [left key absent.2, others key absent.1, read, if_neg absent.1, Option.or_none]
      · rw [stays key member]
        exact settled (key, find key) (mem_zip_map.2 ⟨member, rfl⟩)

/-- The pruning reads keys once more, and makes no call. -/
theorem of_prune {streaks streaks' : Streaks}
    (reached : Reaches answer (pruneStreaks streaks) s (.pure streaks') t) (key : Key) :
    ∃ reading, t.traces key = ⟨(s.traces key).reading.or reading, (s.traces key).calls⟩ := by
  unfold pruneStreaks at reached
  split at reached
  · obtain ⟨-, rfl⟩ := reached.of_pure
    exact ⟨none, by rw [Option.or_none]⟩
  · have later := reached.of_ask_bind
    have reads := reads_snapshot lawful streaks.keys s
    generalize answer (.hot (.snapshot streaks.keys)) s = told at later reads
    obtain ⟨e | records, u⟩ := told
    · obtain ⟨-, rfl⟩ := later.of_pure
      rw [show t.traces = s.traces from reads]
      exact ⟨none, by rw [Option.or_none]⟩
    · obtain ⟨-, rfl⟩ := later.of_pure
      obtain ⟨find, -, -, read⟩ := reads
      exact ⟨_, read key⟩

/-- The end of a cycle: it prunes the streaks that it has noted if it was not cancelled. -/
def Concludes (answer : {β : Type} → Request β → Course → β × Course) (noted : Streaks)
    (u : Course) (result : Except Error Report) (streaks : Streaks) (t : Course) : Prop :=
  match result with
  | .ok report =>
    if report.isCancelled then streaks = noted ∧ t = u
    else Reaches answer (pruneStreaks noted) u (.pure streaks) t
  | .error _ => streaks = noted ∧ t = u

/-- The end of a cycle keeps its result, and may read keys once more. -/
theorem of_conclusion {noted streaks : Streaks} {result result' : Except Error Report}
    (reached : Reaches answer
      (do
        match result with
        | .ok report =>
          if report.isCancelled then return (noted, result)
          return (← pruneStreaks noted, result)
        | .error _ => return (noted, result)) s (.pure (streaks, result')) t) :
    result' = result ∧ Concludes answer noted s result streaks t ∧
      ∀ key, ∃ reading,
        t.traces key = ⟨(s.traces key).reading.or reading, (s.traces key).calls⟩ := by
  have still (key : Key) : ∃ reading,
      s.traces key = ⟨(s.traces key).reading.or reading, (s.traces key).calls⟩ :=
    ⟨none, by rw [Option.or_none]⟩
  cases result with
  | error e =>
    obtain ⟨eq, rfl⟩ := reached.of_pure
    obtain ⟨rfl, rfl⟩ := Prod.mk.inj eq
    exact ⟨rfl, ⟨rfl, rfl⟩, still⟩
  | ok report =>
    simp only [Concludes]
    dsimp only at reached
    split at reached
    · next cancelled =>
      obtain ⟨eq, rfl⟩ := reached.of_pure
      obtain ⟨rfl, rfl⟩ := Prod.mk.inj eq
      exact ⟨rfl, by rw [if_pos cancelled]; exact ⟨rfl, rfl⟩, still⟩
    · next completed =>
      obtain ⟨left, u, pruning, later⟩ := reached.of_bind
      obtain ⟨eq, rfl⟩ := later.of_pure
      obtain ⟨rfl, rfl⟩ := Prod.mk.inj eq
      exact ⟨rfl, by rwa [if_neg completed], of_prune lawful pruning⟩

/-- A cycle from its list of active keys to its end. Each key is noted with its verdict, and a
report, if there is one, tells the verdicts of the listed keys; about others no call was made. -/
theorem of_cycle (fresh : ∀ key, s.traces key = {}) {streaks streaks' : Streaks}
    {result : Except Error Report}
    (reached : Reaches answer (cycle c streaks) s (.pure (streaks', result)) t) :
    (∃ noted u, Concludes answer noted u result streaks' t ∧
      ∀ key, noted[key]? = (t.traces key).verdict.extend streaks[key]?) ∧
    (∀ key, (t.traces key).Ordered key) ∧
    ∀ report, result = .ok report →
      ∃ keys, (answer (.hot (.activeKeys c.config.maxKeysPerCycle)) s).1 = .ok keys ∧
        keys.Nodup ∧
        (∀ key ∉ keys, (t.traces key).calls = []) ∧
        report.counts = ({} : Report).tally (keys.map fun key => (t.traces key).verdict) := by
  have aside := traces_aside lawful (isAside_activeKeys c.config.maxKeysPerCycle) s
  obtain ⟨fate, answered, -⟩ := lawful (.hot (.activeKeys c.config.maxKeysPerCycle)) s
  have nodup := fun keys =>
    @Course.activeKeys_sound c.config.maxKeysPerCycle ⟨s.stage, [fate]⟩ keys
  change (answer _ s).1 = _ at answered
  rw [← answered] at nodup
  have later := reached.of_ask_bind
  generalize answer (.hot (.activeKeys c.config.maxKeysPerCycle)) s = told at aside nodup later ⊢
  obtain ⟨e | keys, u⟩ := told
  · obtain ⟨eq, rfl⟩ := later.of_pure
    obtain ⟨rfl, rfl⟩ := Prod.mk.inj eq
    have untouched (key : Key) : t.traces key = {} := (congrFun aside key).trans (fresh key)
    refine ⟨⟨streaks', t, ⟨rfl, rfl⟩, fun key => ?_⟩, fun key => ?_, nofun⟩
    · rw [untouched key]
      rfl
    · rw [untouched key]
      exact Trace.ordered_of_calls rfl
  · obtain ⟨boundary, u', clocked, later⟩ := later.of_bind
    have untouched (key : Key) : u'.traces key = {} := by
      obtain ⟨-, rfl⟩ := clocked.of_ask_bind.of_pure
      rw [traces_aside lawful isAside_now, ← fresh key, ← aside]
    obtain ⟨⟨noted, result'⟩, u'', ran, later⟩ := later.of_bind
    have nodup : keys.Nodup := nodup keys rfl
    have listed := flatten_chunks c.config.snapshotBatch keys
    obtain ⟨left, ordered, report, notes, reported⟩ := of_runBatches lawful (listed.symm ▸ nodup)
      (nil_not_mem_chunks _ keys) (fun key _ => untouched key) ran
    rw [listed] at left ordered notes
    have ordered (key : Key) : (u''.traces key).Ordered key := by
      by_cases member : key ∈ keys
      · exact ordered key member
      · rw [left key member, untouched key]
        exact Trace.ordered_of_calls rfl
    have extended (key : Key) :
        noted[key]? = (u''.traces key).verdict.extend streaks[key]? := by
      rw [notes.streaks]
      split
      · rfl
      · next absent =>
        rw [left key absent, untouched key]
        rfl
    obtain ⟨rfl, concluded, reread⟩ := of_conclusion lawful later
    have pruned (key : Key) : (t.traces key).Ordered key ∧
        (t.traces key).verdict = (u''.traces key).verdict ∧
        (t.traces key).calls = (u''.traces key).calls := by
      obtain ⟨reading, eq⟩ := reread key
      rw [eq]
      obtain ⟨still, same⟩ := (ordered key).reread reading
      exact ⟨still, same, rfl⟩
    have same (key : Key) := (pruned key).2.1
    refine ⟨⟨noted, u'', concluded, fun key => ?_⟩, fun key => (pruned key).1, ?_⟩
    · rw [extended, same]
    · intro told success
      obtain rfl := reported told success
      refine ⟨keys, rfl, nodup, fun key absent => ?_, notes.report.trans ?_⟩
      · rw [(pruned key).2.2, left key absent, untouched key]
      · simp only [same]
        rfl

omit lawful in
/-- A run is a cycle and the events that are reported after it, unless it was cancelled before. -/
theorem of_run {memory memory' : Compactor} {result : Except Error Report}
    (reached : Reaches answer (memory.run c) s (.pure (memory', result)) t) :
    if (answer .isCancelled s).1 then
      memory' = memory ∧ result = .error .cancelled ∧ t = (answer .isCancelled s).2
    else ∃ streaks u, memory' = ⟨streaks, memory.stats.add result⟩ ∧
      Reaches answer (cycle c memory.streaks) (answer .isCancelled s).2 (.pure (streaks, result)) u ∧
      ∃ events : List Event, t = events.foldl (fun s event => (answer (.record event) s).2) u := by
  have later := reached.of_ask_bind
  split at later
  · next cancelled =>
    rw [if_pos cancelled]
    obtain ⟨eq, same⟩ := later.of_pure
    exact ⟨(Prod.mk.inj eq).1, (Prod.mk.inj eq).2, same⟩
  · next entered =>
    rw [if_neg entered]
    obtain ⟨⟨streaks, result'⟩, u, cycled, later⟩ := later.of_bind
    have later := later.of_ask_bind.of_ask_bind
    split at later
    · obtain ⟨eq, rfl⟩ := later.of_ask_bind.of_pure
      obtain ⟨rfl, rfl⟩ := Prod.mk.inj eq
      exact ⟨streaks, u, rfl, cycled, [_, _, _], rfl⟩
    · obtain ⟨eq, rfl⟩ := later.of_pure
      obtain ⟨rfl, rfl⟩ := Prod.mk.inj eq
      exact ⟨streaks, u, rfl, cycled, [_, _], rfl⟩

theorem traces_records (events : List Event) (s : Course) :
    (events.foldl (fun s event => (answer (.record event) s).2) s).traces = s.traces := by
  induction events generalizing s with
  | nil => rfl
  | cons event rest ih => exact (ih _).trans (traces_aside lawful (isAside_record event) s)

end Cycles

end Metering.Compaction

import Metering.Proofs.Compaction.Effect
import Metering.Proofs.Compaction.Protocol
import Metering.Proofs.Outage
import Metering.Proofs.Program.Cells

/-!
# What a cycle makes of each key

A cycle handles the first active keys, up to its limit, and works on each of them apart from the
others. While writes to some rows fail and nothing else does, what it makes of a key is a function
of what there was of the key, in whatever order the keys are handled.

Results: `sight_of_cycle`.
-/

namespace Metering

open Compaction Program

/-- What there is of a key: whether it is active, its live record, and its row. -/
@[ext]
structure Sight where
  isActive : Bool
  live? : Option Hot.Entry
  row : Traffic
deriving DecidableEq

/-- What there is of a key in the stores. -/
def World.sight (w : World) (key : Key) : Sight where
  isActive := (w.hot.expire w.now).active.contains key
  live? := w.hot.live? w.now key
  row := (w.cold.row (.ofKey key) key.bucket).getD 0

/-- The active keys in the order in which cycles handle them. -/
def World.queue (w : World) : List Key := (w.hot.expire w.now).active.toList

namespace Sight

/-- What the cold tier does not have of the record yet, nothing where there is no record. -/
def pending (d : Sight) : Traffic := d.live?.elim 0 (·.pending)

/-- What a cycle makes of a key that it handles. Its bucket may lie before the retention window
(`isOld`), and writes to its row may fail (`isDown`); then nothing happens to pending traffic. -/
def handled (key : Key) (isDown isOld : Bool) (d : Sight) : Sight :=
  match d.live? with
  | none => { d with isActive := false }
  | some e =>
    if e.pending ≠ 0 then
      if isDown then d
      else ⟨false, if isOld then none else some (e.mark e.traffic), d.row + e.pending⟩
    else if (e.toRecord key).isReset then ⟨false, some (e.mark e.traffic), d.row⟩
    else ⟨false, if isOld then none else some e, d.row⟩

variable {key : Key} {isDown isOld : Bool} {d : Sight} {e : Hot.Entry}

theorem handled_missing (live : d.live? = none) :
    d.handled key isDown isOld = ⟨false, d.live?, d.row⟩ := by
  rw [handled, live]

theorem handled_pending (live : d.live? = some e) (pending : e.pending ≠ 0) :
    d.handled key isDown isOld = if isDown then d else
      ⟨false, if isOld then none else some (e.mark e.traffic), d.row + e.pending⟩ := by
  rw [handled, live]
  exact if_pos pending

theorem handled_reset (live : d.live? = some e) (idle : e.pending = 0)
    (reset : (e.toRecord key).isReset = true) :
    d.handled key isDown isOld = ⟨false, some (e.mark e.traffic), d.row⟩ := by
  rw [handled, live]
  exact (if_neg (not_not_intro idle)).trans (if_pos reset)

theorem handled_idle (live : d.live? = some e) (idle : e.pending = 0)
    (kept : (e.toRecord key).isReset = false) :
    d.handled key isDown isOld = ⟨false, if isOld then none else some e, d.row⟩ := by
  rw [handled, live]
  exact (if_neg (not_not_intro idle)).trans (if_neg (Bool.eq_false_iff.1 kept))

end Sight

/-! ## The active index -/

namespace Hot.Store

/-- Of the active keys an act that looks past what has expired keeps those that it does not take
out. -/
theorem contains_active_act {s : Store} (hs : s.Scheduled) {now : Instant} {act : Act}
    (sweeps : act.Sweeps) (other : ∀ key, ¬ act.Increments key) (key : Key) :
    ((s.act now act).expire now).active.contains key = true ↔
      (s.expire now).active.contains key = true ∧ ¬ s.Deactivates now key act := by
  have fresh : ¬ (s.act now act).Overdue now := by
    rintro ⟨expiry, told, due⟩
    obtain ⟨fresh, told⟩ := (activeExpiry_act hs other).1 told
    exact fresh sweeps ⟨expiry, told, due⟩
  rw [Std.ExtTreeSet.contains_iff_mem, Std.ExtTreeSet.contains_iff_mem, mem_active_expire,
    mem_active_act hs, mem_active_expire]
  constructor
  · rintro ⟨-, increments | ⟨due, member, kept⟩⟩
    · exact (other key increments).elim
    · exact ⟨⟨due sweeps, member⟩, kept⟩
  · rintro ⟨⟨due, member⟩, kept⟩
    exact ⟨fresh, .inr ⟨fun _ => due, member, kept⟩⟩

end Hot.Store

/-! ## Single calls -/

namespace World

variable {w : World} {key key' : Key}

/-- What is there after a call of the hot tier that looks past what has expired. -/
theorem sight_act (hs : w.hot.Scheduled) (act : Hot.Act) (sweeps : act.Sweeps)
    (other : ∀ key, ¬ act.Increments key) (key' : Key) :
    ({ w with hot := w.hot.act w.now act } : World).sight key' =
        ⟨false, (w.hot.act w.now act).live? w.now key', (w.sight key').row⟩ ∧
        w.hot.Deactivates w.now key' act ∨
      ({ w with hot := w.hot.act w.now act } : World).sight key' =
        ⟨(w.sight key').isActive, (w.hot.act w.now act).live? w.now key', (w.sight key').row⟩ ∧
        ¬ w.hot.Deactivates w.now key' act := by
  have active : ((w.hot.act w.now act).expire w.now).active.contains key' = true ↔
      (w.hot.expire w.now).active.contains key' = true ∧ ¬ w.hot.Deactivates w.now key' act :=
    Hot.Store.contains_active_act hs sweeps other key'
  by_cases leaves : w.hot.Deactivates w.now key' act
  · refine .inl ⟨Sight.ext ?_ rfl rfl, leaves⟩
    rw [sight, Bool.eq_false_iff]
    exact fun still => (active.1 still).2 leaves
  · refine .inr ⟨Sight.ext ?_ rfl rfl, leaves⟩
    rw [sight, Bool.eq_iff_iff]
    exact active.trans (and_iff_left leaves)

theorem sight_act_of_ne (hs : w.hot.Scheduled) (act : Hot.Act) (sweeps : act.Sweeps)
    (other : ∀ key, ¬ act.Increments key) (stays : ¬ w.hot.Deactivates w.now key' act)
    (same : (w.hot.act w.now act).live? w.now key' = w.hot.live? w.now key') :
    ({ w with hot := w.hot.act w.now act } : World).sight key' = w.sight key' := by
  rcases sight_act hs act sweeps other key' with ⟨-, leaves⟩ | ⟨eq, -⟩
  · exact (stays leaves).elim
  · rw [eq, same]
    rfl

theorem sight_commit (hs : w.hot.Scheduled) {e : Hot.Entry} (live : (w.sight key).live? = some e)
    (markers : Traffic) :
    ({ w with hot := (w.hot.commit w.now key e.traffic markers).2 } : World).sight key =
      ⟨false, some (e.mark markers), (w.sight key).row⟩ := by
  have live : w.hot.live? w.now key = some e := live
  have after := Hot.Store.live?_commit hs w.now key e.traffic markers
  rw [live] at after
  rcases sight_act hs (.commit key e.traffic markers) trivial (fun _ => id) key with
    ⟨eq, -⟩ | ⟨-, stays⟩
  · exact eq.trans (congrArg (Sight.mk false · _) after)
  · refine (stays ⟨rfl, fun e' found => ?_⟩).elim
    rw [live] at found
    exact congrArg Hot.Entry.traffic (Option.some.inj found).symm

theorem sight_commit_of_ne (hs : w.hot.Scheduled) (ne : key' ≠ key) (expected markers : Traffic) :
    ({ w with hot := (w.hot.commit w.now key expected markers).2 } : World).sight key' =
      w.sight key' :=
  sight_act_of_ne hs (.commit key expected markers) trivial (fun _ => id)
    (fun leaves => ne leaves.1.symm) (Hot.Store.live?_commit_of_ne hs w.now ne.symm _ _)

theorem sight_settle (hs : w.hot.Scheduled)
    (settled : (w.sight key).live?.all (·.isSettled) = true) (purge : Bool) :
    ({ w with hot := (w.hot.settle w.now key purge).2 } : World).sight key =
      ⟨false, if purge then none else (w.sight key).live?, (w.sight key).row⟩ := by
  have settled : (w.hot.live? w.now key).all (·.isSettled) = true := settled
  have after := Hot.Store.live?_settle hs w.now key purge
  simp only [settled, and_true] at after
  rcases sight_act hs (.settle key purge) trivial (fun _ => id) key with ⟨eq, -⟩ | ⟨-, stays⟩
  · exact eq.trans (congrArg (Sight.mk false · _) after)
  · refine (stays ⟨rfl, fun e found => ?_⟩).elim
    rw [found] at settled
    exact settled

theorem sight_settle_of_ne (hs : w.hot.Scheduled) (ne : key' ≠ key) (purge : Bool) :
    ({ w with hot := (w.hot.settle w.now key purge).2 } : World).sight key' = w.sight key' :=
  sight_act_of_ne hs (.settle key purge) trivial (fun _ => id)
    (fun leaves => ne leaves.1.symm) (Hot.Store.live?_settle_of_ne hs w.now ne.symm purge)

theorem accumulate_of_known {cold : Cold.Store} (target : Cold.Target)
    (online : cold.isOffline = false)
    (known : cold.retired.contains (target.type, target.resource) = false) (bucket : Bucket)
    (traffic : Traffic) :
    (cold.accumulate target bucket traffic).1 = .ok () ∧
      ∀ row : Cold.RowKey, ((cold.accumulate target bucket traffic).2.rows[row]?).getD 0 =
        if row = ⟨bucket, target⟩ then (cold.rows[row]?).getD 0 + traffic
        else (cold.rows[row]?).getD 0 := by
  have written : (cold.accumulate target bucket traffic).1 = .ok () := by
    unfold Cold.Store.accumulate
    rw [online, known]
    split
    · contradiction
    · split <;> rfl
  refine (Stage.accumulate_cases cold target bucket traffic).resolve_right ?_
  rintro ⟨e, refused, -⟩
  rw [written] at refused
  cases refused

theorem sight_write {cold : Cold.Store} {traffic : Traffic}
    (rows : ∀ row : Cold.RowKey, (cold.rows[row]?).getD 0 =
      if row = .ofKey key then (w.cold.rows[row]?).getD 0 + traffic
      else (w.cold.rows[row]?).getD 0) (key' : Key) :
    ({ w with cold } : World).sight key' =
      if key' = key then { w.sight key' with row := (w.sight key').row + traffic }
      else w.sight key' := by
  have row := rows (.ofKey key')
  by_cases same : key' = key
  · subst same
    rw [if_pos rfl] at row
    rw [if_pos rfl]
    exact Sight.ext rfl rfl row
  · rw [if_neg fun eq => same (Cold.RowKey.ofKey_injective eq)] at row
    rw [if_neg same]
    exact Sight.ext rfl rfl row

theorem sight_expire (hs : w.hot.Scheduled) :
    ({ w with hot := w.hot.expire w.now } : World).sight key = w.sight key :=
  sight_act_of_ne hs .sweep trivial (fun _ => id) id (Hot.Store.live?_expire hs w.now key)

end World

/-! ## One key -/

namespace Compaction

/-- Stores that answer, at one instant; what is retired stays so, and nothing was cancelled. -/
structure Serves (now : Instant) (retired : List (ResourceType × Id)) (w : World) : Prop where
  now : w.now = now
  uncancelled : w.isCancelled = false
  scheduled : w.hot.Scheduled
  online : w.cold.isOffline = false
  retired : w.cold.retired = retired

variable {failing : Cold.RowKey → Option Error} {now : Instant}
  {retired : List (ResourceType × Id)} {key : Key} {d : Sight}

/-- The writes to the row of a key fail. -/
def IsDown (failing : Cold.RowKey → Option Error) (key : Key) : Bool :=
  (failing (.ofKey key)).isSome

/-- All writes are answered by the store. -/
def unfailing : Cold.RowKey → Option Error := fun _ => none

theorem transient_unfailing (row : Cold.RowKey) (e : Error) (fails : unfailing row = some e) :
    e.isNotFound = false := nomatch fails

theorem onCell_isCancelled :
    OnCell (Outage.ofRows failing).answer (Serves now retired) World.sight key
      Procedure.isCancelled d fun isCancelled d' => isCancelled = false ∧ d' = d :=
  OnCell.ask fun _ serves own => ⟨⟨serves, fun _ _ => rfl⟩, serves.uncancelled, own⟩

theorem onCell_record (event : Event) :
    OnCell (Outage.ofRows failing).answer (Serves now retired) World.sight key
      (Procedure.record event) d fun _ d' => d' = d :=
  OnCell.ask fun _ serves own =>
    ⟨⟨⟨serves.now, serves.uncancelled, serves.scheduled, serves.online, serves.retired⟩,
      fun _ _ => rfl⟩, own⟩

theorem onCell_commit {e : Hot.Entry} (live : d.live? = some e) (markers : Traffic) :
    OnCell (Outage.ofRows failing).answer (Serves now retired) World.sight key
      (Procedure.hot (.commit key e.traffic markers)) d fun result d' =>
        result = .ok .settled ∧ d' = ⟨false, some (e.mark markers), d.row⟩ := by
  refine OnCell.ask fun w serves own => ?_
  subst own
  refine ⟨⟨⟨serves.now, serves.uncancelled, serves.scheduled.commit .., serves.online,
    serves.retired⟩, fun key' ne => World.sight_commit_of_ne serves.scheduled ne ..⟩, ?_,
    World.sight_commit serves.scheduled live markers⟩
  have found : w.hot.live? w.now key = some e := live
  refine congrArg Except.ok (congrArg Prod.fst (Hot.Store.commit_of_live serves.scheduled found
    e.traffic markers) |>.trans ?_)
  rw [if_pos rfl]

theorem onCell_settle (settled : d.live?.all (·.isSettled) = true) (purge : Bool) :
    OnCell (Outage.ofRows failing).answer (Serves now retired) World.sight key
      (Procedure.hot (.settle key purge)) d fun result d' =>
        result = .ok true ∧ d' = ⟨false, if purge then none else d.live?, d.row⟩ := by
  refine OnCell.ask fun w serves own => ?_
  subst own
  refine ⟨⟨⟨serves.now, serves.uncancelled, serves.scheduled.settle .., serves.online,
    serves.retired⟩, fun key' ne => World.sight_settle_of_ne serves.scheduled ne ..⟩, ?_,
    World.sight_settle serves.scheduled settled purge⟩
  exact congrArg Except.ok ((Hot.Store.settle_fst serves.scheduled ..).trans settled)

theorem onCell_write (known : IsDown failing key = false →
    retired.contains (key.type, key.resource) = false) (traffic : Traffic) :
    OnCell (Outage.ofRows failing).answer (Serves now retired) World.sight key
      (Procedure.cold (.accumulate (.ofKey key) key.bucket traffic)) d fun result d' =>
        match failing (.ofKey key) with
        | some e => result = .error e ∧ d' = d
        | none => result = .ok () ∧ d' = { d with row := d.row + traffic } := by
  refine OnCell.ask fun w serves own => ?_
  subst own
  have called : (Outage.ofRows failing).answer
      (.cold (.accumulate (.ofKey key) key.bucket traffic)) w =
        Stage.reply (failing (.ofKey key))
          (.cold (.accumulate (.ofKey key) key.bucket traffic)) w := rfl
  rw [called]
  cases down : failing (.ofKey key) with
  | some e => exact ⟨⟨serves, fun _ _ => rfl⟩, rfl, rfl⟩
  | none =>
    have known := known (congrArg Option.isSome down)
    rw [← serves.retired] at known
    obtain ⟨written, rows⟩ :=
      World.accumulate_of_known (.ofKey key) serves.online known key.bucket traffic
    obtain ⟨stays, online⟩ :=
      Stage.cold_answer w.cold (.accumulate (.ofKey key) key.bucket traffic)
    have sight := World.sight_write (w := w) rows
    refine ⟨⟨⟨serves.now, serves.uncancelled, serves.scheduled, online.trans serves.online,
      stays.trans serves.retired⟩, fun key' ne => ?_⟩, written, ?_⟩
    · exact (sight key').trans (if_neg ne)
    · exact (sight key).trans (if_pos rfl)

/-! ## The work on a key -/

variable {boundary : Bucket}

theorem onCell_commitFlushed {e : Hot.Entry} (live : d.live? = some e) (pending : Traffic) :
    OnCell (Outage.ofRows failing).answer (Serves now retired) World.sight key
      (commitFlushed key e.traffic pending boundary) d fun outcome d' => outcome ≠ .cancelled ∧
        d' = ⟨false, if (key.bucket < boundary : Bool) then none else some (e.mark e.traffic),
          d.row⟩ := by
  refine (onCell_commit live e.traffic).bind ?_
  rintro _ _ ⟨rfl, rfl⟩
  by_cases old : key.bucket < boundary
  · -- nothing has come in since the record was read, so the old record can go
    have settled : (some (e.mark e.traffic)).all (·.isSettled) = true :=
      Hot.Entry.isSettled_iff.2 rfl
    dsimp only
    rw [if_pos ⟨rfl, old⟩]
    refine (onCell_settle (d := ⟨false, some (e.mark e.traffic), _⟩) settled true).bind ?_
    rintro _ _ ⟨-, rfl⟩
    exact .pure ⟨nofun, by simp [old]⟩
  · dsimp only
    rw [if_neg fun h => old h.2]
    exact .pure ⟨nofun, by simp [old]⟩

theorem onCell_writePending {e : Hot.Entry} (transient : ∀ row e, failing row = some e →
      e.isNotFound = false)
    (known : IsDown failing key = false → retired.contains (key.type, key.resource) = false)
    (live : d.live? = some e) (pending : e.pending ≠ 0) :
    OnCell (Outage.ofRows failing).answer (Serves now retired) World.sight key
      (writePending key e.traffic e.pending boundary) d fun outcome d' =>
        outcome ≠ .cancelled ∧ d' = d.handled key (IsDown failing key) (key.bucket < boundary) := by
  rw [Sight.handled_pending live pending]
  unfold writePending IsDown
  refine (onCell_write known e.pending).bind fun result d' told => ?_
  cases down : failing (.ofKey key) with
  | some why =>
    rw [down] at told
    obtain ⟨rfl, rfl⟩ := told
    dsimp only
    rw [transient _ _ down]
    exact .pure ⟨nofun, rfl⟩
  | none =>
    rw [down] at told
    obtain ⟨rfl, rfl⟩ := told
    exact onCell_commitFlushed (d := { d with row := d.row + e.pending }) live e.pending

theorem isSettled_of_idle {e : Hot.Entry} (idle : e.pending = 0)
    (kept : (e.toRecord key).isReset = false) : e.isSettled = true := by
  refine Hot.Entry.isSettled_iff.2 (Traffic.ext_bytes fun d => ?_)
  have le : e.traffic.bytes d - e.flushed.bytes d = 0 := by
    rw [← e.bytes_pending, idle, Traffic.bytes_zero]
  have ge : ¬ e.traffic.bytes d < e.flushed.bytes d := fun below =>
    Bool.eq_false_iff.1 kept (Hot.Record.isReset_iff.2 ⟨d, below⟩)
  omega

theorem onCell_movePending {e : Hot.Entry} (transient : ∀ row e, failing row = some e →
      e.isNotFound = false)
    (known : IsDown failing key = false → retired.contains (key.type, key.resource) = false)
    (live : d.live? = some e) :
    OnCell (Outage.ofRows failing).answer (Serves now retired) World.sight key
      (movePending (e.toRecord key) boundary) d fun outcome d' =>
        outcome ≠ .cancelled ∧ d' = d.handled key (IsDown failing key) (key.bucket < boundary) := by
  have same : (e.toRecord key).pending = e.pending := rfl
  unfold movePending
  rw [same]
  by_cases idle : e.pending = 0
  · have zero : e.pending.isZero = true := Traffic.isZero_iff.2 idle
    rw [zero]
    cases reset : (e.toRecord key).isReset with
    | true =>
      rw [Sight.handled_reset live idle reset]
      refine (onCell_commit live e.traffic).bind ?_
      rintro _ _ ⟨rfl, rfl⟩
      exact .pure ⟨nofun, rfl⟩
    | false =>
      rw [Sight.handled_idle live idle reset]
      have settled : d.live?.all (·.isSettled) = true := live ▸ isSettled_of_idle idle reset
      refine (onCell_settle settled (key.bucket < boundary)).bind ?_
      rintro _ _ ⟨rfl, rfl⟩
      refine .pure ⟨?_, by rw [live]⟩
      split <;> exact nofun
  · have pending : e.pending.isZero = false := Bool.eq_false_iff.2 (mt Traffic.isZero_iff.1 idle)
    rw [pending]
    exact onCell_writePending transient known live idle

theorem onCell_settleMissing (live : d.live? = none) :
    OnCell (Outage.ofRows failing).answer (Serves now retired) World.sight key
      (settleMissing key) d fun outcome d' =>
        outcome ≠ .cancelled ∧ d' = ⟨false, d.live?, d.row⟩ := by
  have settled : d.live?.all (·.isSettled) = true := live ▸ rfl
  refine (onCell_settle settled false).bind ?_
  rintro _ _ ⟨rfl, rfl⟩
  exact .pure ⟨nofun, rfl⟩

/-- What the work on a key makes of it. -/
theorem onCell_handleKey (transient : ∀ row e, failing row = some e → e.isNotFound = false)
    (known : IsDown failing key = false → retired.contains (key.type, key.resource) = false) :
    OnCell (Outage.ofRows failing).answer (Serves now retired) World.sight key
      (handleKey key (d.live?.map (·.toRecord key)) boundary) d fun result d' =>
        result.2 ≠ .cancelled ∧ d' = d.handled key (IsDown failing key) (key.bucket < boundary) := by
  refine onCell_isCancelled.bind ?_
  rintro _ d ⟨rfl, rfl⟩
  cases live : d.live? with
  | none =>
    rw [Sight.handled_missing live]
    exact (onCell_settleMissing live).bind fun _ _ handled => .pure handled
  | some e =>
    refine OnCell.bind (Q := fun outcome d' => outcome ≠ .cancelled ∧ d' = _) ?_
      fun _ _ handled => .pure handled
    rw [flushRecord_eq]
    split
    · refine (onCell_record _).bind ?_
      rintro _ _ rfl
      exact onCell_movePending transient known live
    · exact onCell_movePending transient known live

/-! ## Batches -/

/-- The report of a cycle that has read some keys, and that nobody has cancelled. -/
structure Report.Covers (report : Report) (keys : Nat) : Prop where
  scanned : report.scanned = keys
  uncancelled : report.isCancelled = false

theorem Report.Covers.count {report : Report} {keys : Nat} (h : report.Covers keys)
    {outcome : Outcome} (handled : outcome ≠ .cancelled) : (report.count outcome).Covers keys := by
  cases outcome with
  | cancelled => exact (handled rfl).elim
  | _ => exact ⟨h.scanned, h.uncancelled⟩

theorem Report.Covers.read {report : Report} {n : Nat} (h : report.Covers n) {batch keys : Nat}
    (length : batch = keys) :
    ({ report with scanned := report.scanned + batch } : Report).Covers (n + keys) :=
  ⟨congrArg₂ (· + ·) h.scanned length, h.uncancelled⟩

theorem Report.Covers.notes {p : Progress} {keys : Nat} (h : p.report.Covers keys)
    {outcomes : List (Key × Outcome)} (handled : ∀ result ∈ outcomes, result.2 ≠ .cancelled) :
    (outcomes.foldl (fun p (key, outcome) => p.note key outcome) p).report.Covers keys := by
  induction outcomes generalizing p with
  | nil => exact h
  | cons result outcomes ih =>
    obtain ⟨first, others⟩ := List.forall_mem_cons.1 handled
    exact ih (p := p.note result.1 result.2) (h.count first) others

variable {v : Key → Sight}

/-- What there is once some keys have been handled. -/
def sightsAfter (failing : Cold.RowKey → Option Error) (boundary : Bucket) (keys : List Key)
    (v : Key → Sight) : Key → Sight := fun key =>
  if key ∈ keys then (v key).handled key (IsDown failing key) (key.bucket < boundary) else v key

theorem onCells_isCancelled :
    OnCells (Outage.ofRows failing).answer (Serves now retired) World.sight
      Procedure.isCancelled v fun isCancelled v' => isCancelled = false ∧ v' = v :=
  OnCells.ask fun _ serves own => ⟨serves, serves.uncancelled, own⟩

theorem onCells_now :
    OnCells (Outage.ofRows failing).answer (Serves now retired) World.sight
      Procedure.now v fun told v' => told = now ∧ v' = v :=
  OnCells.ask fun _ serves own => ⟨serves, serves.now, own⟩

theorem onCells_record (event : Event) :
    OnCells (Outage.ofRows failing).answer (Serves now retired) World.sight
      (Procedure.record event) v fun _ v' => v' = v :=
  OnCells.ask fun _ serves own =>
    ⟨⟨serves.now, serves.uncancelled, serves.scheduled, serves.online, serves.retired⟩, own⟩

theorem onCells_snapshot (keys : List Key) :
    OnCells (Outage.ofRows failing).answer (Serves now retired) World.sight
      (Procedure.hot (.snapshot keys)) v fun result v' =>
        result = .ok (keys.map fun key => (v key).live?.map (·.toRecord key)) ∧ v' = v :=
  OnCells.ask fun _ serves own => ⟨serves, own ▸ rfl, own⟩

theorem onCells_forM {β : Type} (event : β → Event) (bs : List β) :
    OnCells (Outage.ofRows failing).answer (Serves now retired) World.sight
      (bs.forM fun b => Procedure.record (event b)) v fun _ v' => v' = v := by
  induction bs with
  | nil => exact .pure rfl
  | cons b bs ih =>
    refine (onCells_record (event b)).bind ?_
    rintro _ _ rfl
    exact ih

theorem onCells_readBatch (batch : List Key) :
    OnCells (Outage.ofRows failing).answer (Serves now retired) World.sight
      (readBatch batch) v fun result v' =>
        result = some (.ok (batch.map fun key => (v key).live?.map (·.toRecord key))) ∧
          v' = v := by
  refine onCells_isCancelled.bind ?_
  rintro _ v ⟨rfl, rfl⟩
  exact OnCells.abandonIf (fun w serves => ⟨serves.uncancelled, serves, rfl⟩)
    fun w serves own => ⟨serves, own ▸ rfl, own⟩

theorem onCells_handleBatch (transient : ∀ row e, failing row = some e → e.isNotFound = false)
    {keys : List Key} (distinct : keys.Nodup)
    (known : ∀ key ∈ keys, IsDown failing key = false →
      retired.contains (key.type, key.resource) = false) (c : Settings) {p : Progress} {n : Nat}
    (covers : p.report.Covers n) :
    OnCells (Outage.ofRows failing).answer (Serves now retired) World.sight
      (handleBatch c boundary p
        (keys.zip (keys.map fun key => (v key).live?.map (·.toRecord key)))) v
      fun p' v' => p'.report.Covers (n + keys.length) ∧
        v' = sightsAfter failing boundary keys v := by
  have fst : (keys.zip (keys.map fun key => (v key).live?.map (·.toRecord key))).map Prod.fst =
      keys := List.map_fst_zip (by simp)
  have each : ∀ x ∈ keys.zip (keys.map fun key => (v key).live?.map (·.toRecord key)),
      OnCell (Outage.ofRows failing).answer (Serves now retired) World.sight x.1
        (handleKey x.1 x.2 boundary) (v x.1) fun result d' => result.2 ≠ .cancelled ∧
          d' = (v x.1).handled x.1 (IsDown failing x.1) (x.1.bucket < boundary) := by
    rintro ⟨key, record?⟩ member
    obtain ⟨listed, rfl⟩ := mem_zip_map.1 member
    exact onCell_handleKey transient (known key listed)
  refine (OnCells.gather c.config.concurrency Prod.fst (fun x result d' =>
    result.2 ≠ .cancelled ∧
      d' = (v x.1).handled x.1 (IsDown failing x.1) (x.1.bucket < boundary))
      (by rwa [fst]) each).bind fun outcomes v' ⟨⟨order, perm, results⟩, others⟩ => ?_
  refine (onCells_forM _ outcomes).bind ?_
  rintro _ _ rfl
  have length : (keys.zip (keys.map fun key => (v key).live?.map (·.toRecord key))).length =
      keys.length := by
    rw [← List.length_map Prod.fst, fst]
  refine .pure ⟨(covers.read length).notes (p := ⟨p.streaks, _⟩) fun result member => ?_,
    funext fun key => ?_⟩
  · obtain ⟨_, handled, -⟩ := OnCells.exists_of_forall₂ results.flip member
    exact handled
  · unfold sightsAfter
    split
    · next member =>
      obtain ⟨_, -, own⟩ :=
        OnCells.exists_of_forall₂ results (perm.mem_iff.2 (mem_zip_map.2 ⟨member, rfl⟩))
      exact own
    · next absent => exact others key (by rwa [fst])

/-- A run of batches, or of a whole cycle, ends with a report of all keys that it was to read. -/
def Succeeds (keys : Nat) (result : Except Error Report) : Prop :=
  ∃ report, result = .ok report ∧ report.Covers keys

/-- Batches are handled one after another; none has a key of another. -/
theorem onCells_runBatches (transient : ∀ row e, failing row = some e → e.isNotFound = false)
    {batches : List (List Key)} (distinct : batches.flatten.Nodup)
    (known : ∀ key ∈ batches.flatten, IsDown failing key = false →
      retired.contains (key.type, key.resource) = false) (c : Settings) {p : Progress} {n : Nat}
    (covers : p.report.Covers n) :
    OnCells (Outage.ofRows failing).answer (Serves now retired) World.sight
      (runBatches c boundary batches p) v
      fun ended v' => Succeeds (n + batches.flatten.length) ended.2 ∧
        v' = sightsAfter failing boundary batches.flatten v := by
  induction batches generalizing p v n with
  | nil => exact .pure ⟨⟨p.report, rfl, covers⟩, funext fun key => (if_neg List.not_mem_nil).symm⟩
  | cons batch rest ih =>
    rw [List.flatten_cons, List.nodup_append] at distinct
    obtain ⟨distinct, distinct_rest, apart⟩ := distinct
    unfold runBatches
    refine (onCells_readBatch batch).bind ?_
    rintro _ v ⟨rfl, rfl⟩
    refine (onCells_handleBatch transient distinct (fun key member =>
      known key (List.mem_append_left _ member)) c covers).bind ?_
    rintro p v' ⟨covers, same⟩
    refine (ih distinct_rest (fun key member =>
      known key (List.mem_append_right _ member)) covers).mono ?_
    rintro _ _ ⟨succeeds, rfl⟩
    rw [List.flatten_cons, List.length_append, ← Nat.add_assoc]
    refine ⟨succeeds, funext fun key => ?_⟩
    subst same
    unfold sightsAfter
    by_cases here : key ∈ batch
    · have later : key ∉ rest.flatten := fun later => apart key here key later rfl
      simp [here, later]
    · simp [here]

theorem onCells_pruneStreaks (streaks : Streaks) :
    OnCells (Outage.ofRows failing).answer (Serves now retired) World.sight
      (pruneStreaks streaks) v fun _ v' => v' = v := by
  unfold pruneStreaks
  split
  · exact .pure rfl
  · refine (onCells_snapshot streaks.keys).bind ?_
    rintro _ _ ⟨rfl, rfl⟩
    exact .pure rfl

/-! ## A cycle -/

/-- The active keys of `v` are those of a set. -/
def ActiveAre (active : Std.ExtTreeSet Key) (v : Key → Sight) : Prop :=
  ∀ key, key ∈ active ↔ (v key).isActive = true

theorem onCells_activeKeys {active : Std.ExtTreeSet Key} (actives : ActiveAre active v)
    (limit : Nat) :
    OnCells (Outage.ofRows failing).answer (Serves now retired) World.sight
      (Procedure.hot (.activeKeys limit)) v fun result v' =>
        result = .ok (active.toList.take limit) ∧ v' = v := by
  refine OnCells.ask fun w serves own => ?_
  subst own
  have same : (w.hot.expire w.now).active = active :=
    Std.ExtTreeSet.ext_mem fun key => by
      rw [actives key, World.sight, Std.ExtTreeSet.contains_iff_mem]
  refine ⟨⟨serves.now, serves.uncancelled, serves.scheduled.expire _, serves.online,
    serves.retired⟩, ?_, funext fun key => World.sight_expire serves.scheduled⟩
  exact congrArg (fun active : Std.ExtTreeSet Key => Except.ok (active.toList.take limit)) same

theorem nodup_toList_take (active : Std.ExtTreeSet Key) (limit : Nat) :
    (active.toList.take limit).Nodup := by
  refine List.Nodup.sublist (List.take_sublist ..) ?_
  refine Std.ExtTreeSet.distinct_toList.imp ?_
  rintro a b distinct rfl
  exact distinct Std.ReflOrd.compare_self

/-- A cycle handles the first active keys, up to its limit. -/
theorem onCells_cycle (transient : ∀ row e, failing row = some e → e.isNotFound = false)
    {active : Std.ExtTreeSet Key} (actives : ActiveAre active v)
    (known : ∀ key ∈ active, IsDown failing key = false →
      retired.contains (key.type, key.resource) = false) (c : Settings) (streaks : Streaks) :
    OnCells (Outage.ofRows failing).answer (Serves now retired) World.sight
      (cycle c streaks) v fun ended v' =>
        Succeeds (active.toList.take c.config.maxKeysPerCycle).length ended.2 ∧
          v' = sightsAfter failing (c.boundaryAt now)
            (active.toList.take c.config.maxKeysPerCycle) v := by
  refine (onCells_activeKeys actives _).bind ?_
  rintro _ v ⟨rfl, rfl⟩
  refine onCells_now.bind ?_
  rintro now v ⟨rfl, rfl⟩
  have listed := flatten_chunks c.config.snapshotBatch
    (active.toList.take c.config.maxKeysPerCycle)
  refine (onCells_runBatches transient (listed.symm ▸ nodup_toList_take active _) ?_ c
    (p := ⟨streaks, {}⟩) ⟨rfl, rfl⟩).bind ?_
  · intro key member
    rw [listed] at member
    exact known key (Std.ExtTreeSet.mem_toList.1 (List.mem_of_mem_take member))
  · rintro ⟨streaks, _⟩ v' ⟨⟨report, rfl, covers⟩, same⟩
    rw [listed, Nat.zero_add] at covers
    rw [listed] at same
    subst same
    dsimp only
    rw [covers.uncancelled]
    refine (onCells_pruneStreaks streaks).bind ?_
    rintro _ _ rfl
    exact .pure ⟨⟨report, rfl, covers⟩, rfl⟩

theorem onCells_run (transient : ∀ row e, failing row = some e → e.isNotFound = false)
    {active : Std.ExtTreeSet Key} (actives : ActiveAre active v)
    (known : ∀ key ∈ active, IsDown failing key = false →
      retired.contains (key.type, key.resource) = false) (c : Settings) (memory : Compactor) :
    OnCells (Outage.ofRows failing).answer (Serves now retired) World.sight
      (memory.run c) v fun ended v' =>
        Succeeds (active.toList.take c.config.maxKeysPerCycle).length ended.2 ∧
          v' = sightsAfter failing (c.boundaryAt now)
            (active.toList.take c.config.maxKeysPerCycle) v := by
  refine onCells_isCancelled.bind ?_
  rintro _ v ⟨rfl, rfl⟩
  refine (onCells_cycle transient actives known c memory.streaks).bind ?_
  rintro ⟨streaks, _⟩ v' ⟨⟨report, rfl, covers⟩, same⟩
  -- what is left only reports
  refine (onCells_record _).bind ?_
  rintro _ _ rfl
  refine (onCells_record _).bind ?_
  rintro _ _ rfl
  exact .pure ⟨⟨report, rfl, covers⟩, same⟩

/-- What one cycle does, whatever the order is in which it handles its keys. -/
theorem sight_of_cycle {c : Settings} {memory : Compactor} {w w' : World}
    {result : Compactor × Except Error Report}
    (transient : ∀ row e, failing row = some e → e.isNotFound = false)
    (serves : Serves now retired w)
    (known : ∀ key ∈ w.queue, IsDown failing key = false →
      retired.contains (key.type, key.resource) = false)
    (ran : Reaches (Outage.ofRows failing).answer (memory.run c) w (.pure result) w') :
    Serves now retired w' ∧
      Succeeds (w.queue.take c.config.maxKeysPerCycle).length result.2 ∧
      w'.sight = sightsAfter failing (c.boundaryAt now)
        (w.queue.take c.config.maxKeysPerCycle) w.sight := by
  have actives : ActiveAre (w.hot.expire w.now).active w.sight := fun key => by
    rw [World.sight, Std.ExtTreeSet.contains_iff_mem]
  have run : OnCells (Outage.ofRows failing).answer (Serves now retired) World.sight
      (memory.run c) w.sight fun ended v =>
        Succeeds (w.queue.take c.config.maxKeysPerCycle).length ended.2 ∧
          v = sightsAfter failing (c.boundaryAt now)
            (w.queue.take c.config.maxKeysPerCycle) w.sight :=
    onCells_run transient actives
      (fun key member => known key (Std.ExtTreeSet.mem_toList.2 member)) c memory
  exact run.reaches serves ran

end Compaction

end Metering

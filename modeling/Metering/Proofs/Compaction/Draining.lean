import Metering.Proofs.Cold.RollUp
import Metering.Proofs.Compaction.Course
import Metering.Proofs.Compaction.Effect
import Metering.Proofs.Hot.Buckets
import Metering.Proofs.Hot.Enlistment
import Metering.Proofs.Program.Inversion

/-!
# Where drained traffic goes

A drain takes a bucket out of the hot tier first, and then writes the records that it has taken.
What is pending in a record ends in one of four ways, as its calls are answered: it is in the row,
it is counted in the hot tier again, its resource is gone, or it is lost. The report counts the
ways, in whatever order the records are handled. Meanwhile traffic may arrive in the bucket; it is
counted apart from all this.

Results:
1. `Refilled.increment`: a key that has only just been emptied holds what has come in since.
2. `Since.meet`, `Since.write`, `Since.restore`: what the tiers have, told from the log since the
   bucket was taken.
3. `Reports.total`, `reports_of_results`: the report counts what each record came to.
4. `drain_accounts`, the result of a drain, whatever fails in it and whatever arrives.
-/

namespace Metering.Compaction

open Program

/-! ## Traffic that comes in -/

/-- All that the hot tier has of a key is some traffic, which is pending; the key is active if there
is any. -/
structure Refilled (s : Hot.Store) (now : Instant) (key : Key) (total : Traffic) : Prop where
  enlists : s.Enlists now key False
  amounts : ∀ d, flushedOf d (s.live? now key) = 0 ∧ trafficOf d (s.live? now key) = total.bytes d

/-- What some increments add to a key. -/
def entriesOf (key : Key) (entries : List (Key × Traffic)) : List Traffic :=
  (entries.filter (·.1 = key)).map (·.2)

section Refilled

variable {s : Hot.Store} {now : Instant} {key : Key} {total : Traffic}

theorem Refilled.empty (absent : s.live? now key = none) : Refilled s now key 0 := by
  refine ⟨.of_none absent, fun d => ?_⟩
  rw [absent, Traffic.bytes_zero]
  exact ⟨rfl, rfl⟩

theorem Refilled.increment (h : Refilled s now key total) (hs : s.Scheduled)
    (lives : 0 < s.lifespan) (key' : Key) (traffic : Traffic) :
    Refilled (s.increment now key' traffic) now key
      (total + if key' = key then traffic else 0) := by
  refine ⟨h.enlists.increment hs key' traffic, fun d => ?_⟩
  obtain ⟨flushed, counted⟩ := h.amounts d
  by_cases own : key' = key
  · subst own
    rw [if_pos rfl]
    have accrues := Stage.accrues_increment hs now key' traffic
    generalize (s.increment now key' traffic).live? now key' = live?' at accrues ⊢
    cases accrues with
    | nothing zero =>
      rw [zero, Traffic.add_zero]
      exact ⟨flushed, counted⟩
    | grown entry nonzero grows =>
      rw [Traffic.bytes_add, ← counted]
      exact ⟨(grows.flushed d).trans flushed, grows.traffic d⟩
    | lost entry nonzero grows expired =>
      have brief := expired.2.2
      rw [show (s.increment now key' traffic).lifespan = s.lifespan from
        Hot.Store.lifespan_act hs now (.increment key' traffic)] at brief
      exact (Int.not_le.2 lives brief).elim
  · rw [if_neg own, Traffic.add_zero, Hot.Store.live?_increment_of_ne s now own]
    exact ⟨flushed, counted⟩

theorem sum_entriesOf_cons (entry : Key × Traffic) (entries : List (Key × Traffic)) :
    Traffic.sum (entriesOf key (entry :: entries)) =
      (if entry.1 = key then entry.2 else 0) + .sum (entriesOf key entries) := by
  unfold entriesOf
  rw [List.filter_cons]
  by_cases mine : entry.1 = key
  · rw [if_pos (decide_eq_true mine), if_pos mine, List.map_cons, Traffic.sum_cons]
  · rw [if_neg (mt of_decide_eq_true mine), if_neg mine, Traffic.zero_add]

theorem Refilled.incrementAll (h : Refilled s now key total) (hs : s.Scheduled)
    (lives : 0 < s.lifespan) (entries : List (Key × Traffic)) :
    Refilled (s.incrementAll now entries) now key (total + .sum (entriesOf key entries)) := by
  induction entries generalizing s total with
  | nil =>
    rw [show total + Traffic.sum (entriesOf key []) = total from Traffic.add_zero total]
    exact h
  | cons entry entries ih =>
    have same : (s.increment now entry.1 entry.2).lifespan = s.lifespan :=
      Hot.Store.lifespan_act hs now (.increment entry.1 entry.2)
    rw [sum_entriesOf_cons, ← Traffic.add_assoc]
    exact ih (h.increment hs lives entry.1 entry.2) (hs.increment now entry.1 entry.2)
      (same ▸ lives)

theorem Refilled.pending_eq (h : Refilled s now key total) :
    (s.live? now key).elim 0 (·.pending) = total := by
  refine Traffic.ext_bytes fun d => ?_
  have same : ((s.live? now key).elim 0 (·.pending) : Traffic).bytes d =
      pendingOf d (s.live? now key) := by
    cases s.live? now key with
    | none => exact Traffic.bytes_zero d
    | some entry => rfl
  rw [same, pendingOf_eq, (h.amounts d).1, (h.amounts d).2, Nat.sub_zero]

theorem Refilled.isActive (h : Refilled s now key total) (nonzero : total ≠ 0) :
    (s.isActive now key).1 = true := by
  obtain ⟨d, pos⟩ := Traffic.ne_zero_iff.1 nonzero
  obtain ⟨flushed, counted⟩ := h.amounts d
  cases live : s.live? now key with
  | none =>
    rw [live] at counted
    exact absurd (counted.symm.trans rfl) (Nat.ne_of_gt pos)
  | some entry =>
    rw [live] at counted flushed
    have unsettled : entry.isSettled = false := by
      refine Bool.eq_false_iff.2 fun settled => Nat.ne_of_gt pos ?_
      rw [← counted, ← flushed]
      exact congrArg (Traffic.bytes · d) (Hot.Entry.isSettled_iff.1 settled)
    have member := h.enlists.active entry live (.inl unsettled)
    refine Std.ExtTreeSet.contains_iff_mem.2 (Hot.Store.mem_active_expire.2 ⟨?_, member⟩)
    exact h.enlists.dated.not_overdue live

end Refilled

/-! ## What the log tells -/

namespace Occurrence

variable (key : Key)

/-- Traffic of a key that arrived. -/
def arrived : Occurrence → List Traffic
  | .arrival entries => entriesOf key entries
  | _ => []

/-- Traffic of a key that a restoring increment has counted. -/
def restored : Occurrence → List Traffic
  | .restoring key' traffic (.ok _) => if key' = key then [traffic] else []
  | _ => []

/-- Traffic of a key that a write has added to its row. -/
def written : Occurrence → List Traffic
  | .write row traffic (.ok _) => if row = .ofKey key then [traffic] else []
  | _ => []

end Occurrence

theorem Occurrence.written_eq_nil (key : Key) (o : Occurrence) (other : o.isTransfer key = false) :
    o.written key = [] := by
  cases o with
  | write row traffic result =>
    cases result with
    | ok _ => exact if_neg (of_decide_eq_false other)
    | error _ => rfl
  | _ => rfl

theorem Occurrence.restored_eq_nil (key : Key) (o : Occurrence)
    (other : o.isTransfer key = false) : o.restored key = [] := by
  cases o with
  | restoring key' traffic result =>
    cases result with
    | ok _ => exact if_neg (of_decide_eq_false other)
    | error _ => rfl
  | _ => rfl

/-- The traffic that a log tells of, in all its occurrences together. -/
def tallied (f : Occurrence → List Traffic) (log : List Occurrence) : Traffic :=
  .sum (log.flatMap f)

theorem tallied_cons (f : Occurrence → List Traffic) (o : Occurrence) (log : List Occurrence) :
    tallied f (o :: log) = .sum (f o) + tallied f log :=
  Traffic.sum_append (f o) (log.flatMap f)

theorem tallied_cons_of_nil {f : Occurrence → List Traffic} {o : Occurrence} (none : f o = [])
    (log : List Occurrence) : tallied f (o :: log) = tallied f log := by
  rw [tallied_cons, none]
  exact Traffic.zero_add _

/-- What is told by transfers only is told by the transfers of a log. -/
theorem tallied_transfers {f : Occurrence → List Traffic} {key : Key}
    (other : ∀ o, o.isTransfer key = false → f o = []) (log : List Occurrence) :
    tallied f (transfers log key) = tallied f log := by
  induction log with
  | nil => rfl
  | cons o log ih =>
    rw [tallied_cons, ← ih]
    by_cases own : o.isTransfer key = true
    · rw [transfers, List.filter_cons_of_pos own, tallied_cons]
      rfl
    · rw [transfers, List.filter_cons_of_neg own, other o (Bool.eq_false_iff.2 own)]
      exact (Traffic.zero_add _).symm

/-- What the tiers have since a bucket was taken out of the hot tier, at `base`: its keys hold there
what has come in since, and the rows have grown by what was written. -/
structure Since (base : Stage) (bucket : Bucket) (later : List Occurrence) (s : Stage) :
    Prop where
  log : s.log = later ++ base.log
  scheduled : s.world.hot.Scheduled
  lifespan : s.world.hot.lifespan = base.world.hot.lifespan
  row : ∀ key, s.row key = base.row key + tallied (·.written key) later
  hot : 0 < base.world.hot.lifespan → ∀ key : Key, key.bucket = bucket →
    Refilled s.world.hot s.world.now key
      (tallied (·.arrived key) later + tallied (·.restored key) later)

/-- The incident is that traffic arrives. -/
def Incident.IsArrival : Incident → Prop
  | .arrival _ _ | .arrivals _ => True
  | _ => False

instance : DecidablePred Incident.IsArrival
  | .arrival _ _ | .arrivals _ => isTrue trivial
  | .seeding _ _ | .removal _ | .passing _ | .cancellation => isFalse id

section Since

variable {base s : Stage} {bucket : Bucket} {later : List Occurrence} {failure? : Option Error}

theorem Since.start (hs : base.world.hot.Scheduled)
    (emptied : ∀ key : Key, key.bucket = bucket → base.live? key = none) :
    Since base bucket [] base :=
  ⟨rfl, hs, rfl, fun _ => (Traffic.add_zero _).symm, fun _ key own => .empty (emptied key own)⟩

theorem Since.arrivals (h : Since base bucket later s) (entries : List (Key × Traffic)) :
    Since base bucket (.arrival entries :: later) (s.meet (.arrivals entries)) := by
  have same : (s.world.hot.incrementAll s.world.now entries).lifespan = s.world.hot.lifespan :=
    Hot.Store.lifespan_answer h.scheduled s.world.now (.incrementAll entries)
  refine ⟨congrArg (_ :: ·) h.log, h.scheduled.incrementAll _ entries, same.trans h.lifespan,
    fun key => ?_, fun lives key member => ?_⟩
  · rw [tallied_cons_of_nil rfl]
    exact h.row key
  · have refilled := (h.hot lives key member).incrementAll h.scheduled (h.lifespan ▸ lives) entries
    rw [tallied_cons, tallied_cons_of_nil rfl, Traffic.add_assoc, Traffic.add_comm]
    exact refilled

theorem Since.meet (h : Since base bucket later s) {incident : Incident}
    (arrival : incident.IsArrival) : ∃ later, Since base bucket later (s.meet incident) := by
  cases incident with
  | arrival key traffic => exact ⟨_, h.arrivals [(key, traffic)]⟩
  | arrivals entries => exact ⟨_, h.arrivals entries⟩
  | _ => exact arrival.elim

theorem Since.meets (h : Since base bucket later s) {incidents : List Incident}
    (arrivals : ∀ incident ∈ incidents, incident.IsArrival) :
    ∃ later, Since base bucket later (incidents.foldl Stage.meet s) := by
  induction incidents generalizing s later with
  | nil => exact ⟨later, h⟩
  | cons incident rest ih =>
    obtain ⟨first, others⟩ := List.forall_mem_cons.1 arrivals
    obtain ⟨later, met⟩ := h.meet first
    exact ih met others

/-- A request that changes nothing in the tiers, and tells of nothing that is tallied. -/
theorem Since.idle (h : Since base bucket later s) {o : Occurrence} {w : World}
    (hot : w.hot = s.world.hot) (now : w.now = s.world.now) (cold : w.cold = s.world.cold)
    (arrived : ∀ key, o.arrived key = []) (restored : ∀ key, o.restored key = [])
    (written : ∀ key, o.written key = []) :
    Since base bucket (o :: later) ⟨w, o :: s.log⟩ := by
  refine ⟨congrArg (_ :: ·) h.log, hot ▸ h.scheduled, hot ▸ h.lifespan, fun key => ?_,
    fun lives key member => ?_⟩
  · rw [tallied_cons_of_nil (written key), ← h.row key]
    exact congrArg (fun cold : Cold.Store => (cold.row (.ofKey key) key.bucket).getD 0) cold
  · rw [tallied_cons_of_nil (arrived key), tallied_cons_of_nil (restored key), hot, now]
    exact h.hot lives key member

theorem Since.record (h : Since base bucket later s) (event : Event) :
    ∃ later, Since base bucket later (Stage.answer failure? (.record event) s).2 := by
  cases failure? <;>
    exact ⟨_, h.idle rfl rfl rfl (fun _ => rfl) (fun _ => rfl) fun _ => rfl⟩

theorem Since.write (h : Since base bucket later s) (key : Key) (traffic : Traffic) :
    ∃ later, Since base bucket later
      (Stage.answer failure? (.cold (.accumulate (.ofKey key) key.bucket traffic)) s).2 := by
  cases failure? with
  | some e => exact ⟨_, h.idle rfl rfl rfl (fun _ => rfl) (fun _ => rfl) fun _ => rfl⟩
  | none =>
    obtain ⟨ok, rows⟩ | ⟨e, refused, same, -⟩ :=
      Stage.accumulate_cases s.world.cold (.ofKey key) key.bucket traffic
    · refine ⟨.write (.ofKey key) traffic (.ok ()) :: later, ?_, h.scheduled, h.lifespan,
        fun key' => ?_, fun lives key' member => ?_⟩
      · exact congrArg₂ (· :: ·) (congrArg (Occurrence.write _ traffic) ok) h.log
      · have told : Traffic.sum ((Occurrence.write (.ofKey key) traffic (.ok ())).written key') =
            if Cold.RowKey.ofKey key = .ofKey key' then traffic else 0 := by
          rw [Occurrence.written]
          split
          · exact Traffic.zero_add traffic
          · rfl
        refine (rows (.ofKey key')).trans ?_
        rw [tallied_cons, told, Traffic.add_comm (ite ..), ← Traffic.add_assoc, ← h.row key']
        by_cases own : Cold.RowKey.ofKey key = .ofKey key'
        · rw [if_pos own]
          exact if_pos own.symm
        · rw [if_neg own, Traffic.add_zero]
          exact if_neg (Ne.symm own)
      · rw [tallied_cons_of_nil rfl, tallied_cons_of_nil rfl]
        exact h.hot lives key' member
    · refine ⟨.write (.ofKey key) traffic (.error e) :: later, ?_⟩
      have told : (Stage.answer none (.cold (.accumulate (.ofKey key) key.bucket traffic)) s).2 =
          ⟨{ s.world with cold := (s.world.cold.accumulate (.ofKey key) key.bucket traffic).2 },
            .write (.ofKey key) traffic (.error e) :: s.log⟩ := by
        rw [← refused]
        rfl
      rw [told]
      exact h.idle rfl rfl same (fun _ => rfl) (fun _ => rfl) fun _ => rfl

theorem Since.restore (h : Since base bucket later s) (key : Key) (traffic : Traffic) :
    ∃ later, Since base bucket later
      (Stage.answer failure? (.hot (.increment key traffic)) s).2 := by
  cases failure? with
  | some e => exact ⟨_, h.idle rfl rfl rfl (fun _ => rfl) (fun _ => rfl) fun _ => rfl⟩
  | none =>
    have same : (s.world.hot.increment s.world.now key traffic).lifespan = s.world.hot.lifespan :=
      Hot.Store.lifespan_answer h.scheduled s.world.now (.increment key traffic)
    refine ⟨.restoring key traffic (.ok ()) :: later, congrArg (_ :: ·) h.log,
      h.scheduled.increment _ key traffic, same.trans h.lifespan, fun key' => ?_,
      fun lives key' member => ?_⟩
    · rw [tallied_cons_of_nil rfl]
      exact h.row key'
    · have refilled := (h.hot lives key' member).increment h.scheduled (h.lifespan ▸ lives) key
        traffic
      have told : Traffic.sum ((Occurrence.restoring key traffic (.ok ())).restored key') =
          if key = key' then traffic else 0 := by
        rw [Occurrence.restored]
        split
        · exact Traffic.zero_add traffic
        · rfl
      rw [tallied_cons_of_nil rfl, tallied_cons, told,
        Traffic.add_comm (if key = key' then traffic else 0), ← Traffic.add_assoc]
      exact refilled

end Since

/-! ## One record -/

/-- The calls for a record with something pending, by the way in which it ended. -/
inductive Disposes (key : Key) (pending : Traffic) : DrainOutcome → List Occurrence → Prop
  | flushed : Disposes key pending .flushed [.write (.ofKey key) pending (.ok ())]
  | resourceGone {e : Error} (gone : e.isNotFound = true) :
      Disposes key pending .resourceGone [.write (.ofKey key) pending (.error e)]
  | restored {e : Error} (failed : e.isNotFound = false) :
      Disposes key pending .restored
        [.restoring key pending (.ok ()), .write (.ofKey key) pending (.error e)]
  | lost {e e' : Error} (failed : e.isNotFound = false) :
      Disposes key pending .lost
        [.restoring key pending (.error e'), .write (.ofKey key) pending (.error e)]

/-- Nothing but arrivals comes between the calls. -/
def Arriving (fates : List Fate) : Prop :=
  ∀ fate ∈ fates, ∀ incident ∈ fate.incidents, incident.IsArrival

instance (fates : List Fate) : Decidable (Arriving fates) :=
  inferInstanceAs (Decidable (∀ fate ∈ fates, ∀ incident ∈ fate.incidents, incident.IsArrival))

/-- A course since a bucket was taken out of the hot tier. -/
structure Drains (base : Stage) (bucket : Bucket) (s : Course) : Prop where
  since : ∃ later, Since base bucket later s.stage
  arriving : Arriving s.fates

section Drains

variable {base : Stage} {bucket : Bucket} {s : Course}

theorem Arriving.next (h : Arriving s.fates) :
    ∀ incident ∈ s.fate.incidents, incident.IsArrival := by
  obtain ⟨stage, fates⟩ := s
  cases fates with
  | nil => exact fun _ member => (List.not_mem_nil member).elim
  | cons fate fates => exact h fate List.mem_cons_self

theorem Drains.ahead (h : Drains base bucket s) : ∃ later, Since base bucket later s.ahead :=
  h.since.elim fun _ since => since.meets h.arriving.next

theorem Drains.answer (h : Drains base bucket s) {β : Type} {request : Request β}
    (step : ∀ {later : List Occurrence} {s : Stage} {failure? : Option Error},
      Since base bucket later s →
        ∃ later, Since base bucket later (Stage.answer failure? request s).2) :
    Drains base bucket (Course.answer request s).2 :=
  ⟨h.ahead.elim fun _ since => step since,
    fun fate member => h.arriving fate (List.mem_of_mem_tail member)⟩

theorem onCell_drainRecord (key : Key) (pending : Traffic) :
    OnCell Course.answer (Drains base bucket) Course.transfers key (drainRecord key pending) []
      fun result log => result.1 = pending ∧ Disposes key pending result.2 log := by
  refine (Course.onCell_transfer (fun _ h => h.answer fun since => since.write key pending)
    (Course.isTransfer_write key pending)).bind ?_
  rintro result _ rfl
  cases result with
  | ok _ => exact .pure ⟨rfl, .flushed⟩
  | error e =>
    dsimp only
    split
    · next gone => exact .pure ⟨rfl, .resourceGone gone⟩
    · next failed =>
      have failed : e.isNotFound = false := Bool.eq_false_iff.2 failed
      refine (Course.onCell_transfer (fun _ h => h.answer fun since => since.restore key pending)
        (Course.isTransfer_increment key pending)).bind ?_
      rintro result _ rfl
      cases result with
      | ok _ => exact .pure ⟨rfl, .restored failed⟩
      | error e' =>
        refine (Course.onCell_quiet (fun _ h => h.answer fun since => since.record _)
          (Course.quiet_record _)).bind ?_
        rintro _ _ rfl
        exact .pure ⟨rfl, .lost failed⟩

end Drains

/-! ## The report -/

/-- The records with something pending. -/
def nonzero (taken : List Hot.Record) : List Hot.Record :=
  taken.filter fun r => !r.pending.isZero

theorem mem_nonzero {taken : List Hot.Record} {r : Hot.Record} :
    r ∈ nonzero taken ↔ r ∈ taken ∧ r.pending ≠ 0 := by
  rw [nonzero, List.mem_filter, Bool.not_eq_true', Bool.eq_false_iff, ne_eq, Traffic.isZero_iff]

/-- The records with something pending that ended in a way. -/
def endedAs (taken : List Hot.Record) (ending : Key → DrainOutcome) (outcome : DrainOutcome) :
    List Hot.Record :=
  taken.filter fun r => !r.pending.isZero && ending r.key = outcome

/-- A report counts the drained records, and those with something pending by the ways in which they
ended. -/
structure Reports (report : DrainReport) (taken : List Hot.Record) (ending : Key → DrainOutcome) :
    Prop where
  records : report.records = taken.length
  flushed : report.flushed = (endedAs taken ending .flushed).length
  restored : report.restored = (endedAs taken ending .restored).length
  resourcesGone : report.resourcesGone = (endedAs taken ending .resourceGone).length
  lost : report.lost = (endedAs taken ending .lost).length
  bytes : report.bytesFlushed = .sum ((endedAs taken ending .flushed).map (·.pending))

/-- What a report has counted after some more results. -/
structure Adds (before : DrainReport) (results : List (Traffic × DrainOutcome))
    (after : DrainReport) : Prop where
  records : after.records = before.records
  flushed : after.flushed = before.flushed + results.countP (·.2 = .flushed)
  restored : after.restored = before.restored + results.countP (·.2 = .restored)
  resourcesGone : after.resourcesGone = before.resourcesGone + results.countP (·.2 = .resourceGone)
  lost : after.lost = before.lost + results.countP (·.2 = .lost)
  bytes : after.bytesFlushed =
    before.bytesFlushed + .sum ((results.filter (·.2 = .flushed)).map (·.1))

theorem adds_count (report : DrainReport) (pending : Traffic) (outcome : DrainOutcome) :
    Adds report [(pending, outcome)] (report.count pending outcome) := by
  cases outcome with
  | flushed =>
    refine ⟨rfl, rfl, rfl, rfl, rfl, ?_⟩
    exact congrArg (_ + ·) (Traffic.zero_add pending).symm
  | _ => exact ⟨rfl, rfl, rfl, rfl, rfl, (Traffic.add_zero _).symm⟩

theorem Adds.trans {first second third : DrainReport} {results more : List (Traffic × DrainOutcome)}
    (h : Adds first results second) (h' : Adds second more third) :
    Adds first (results ++ more) third := by
  constructor
  · exact h'.records.trans h.records
  · rw [h'.flushed, h.flushed, List.countP_append, Nat.add_assoc]
  · rw [h'.restored, h.restored, List.countP_append, Nat.add_assoc]
  · rw [h'.resourcesGone, h.resourcesGone, List.countP_append, Nat.add_assoc]
  · rw [h'.lost, h.lost, List.countP_append, Nat.add_assoc]
  · rw [h'.bytes, h.bytes, List.filter_append, List.map_append, Traffic.sum_append,
      Traffic.add_assoc]

theorem adds_foldl (report : DrainReport) (results : List (Traffic × DrainOutcome)) :
    Adds report results
      (results.foldl (fun report (traffic, outcome) => report.count traffic outcome) report) := by
  induction results generalizing report with
  | nil => exact ⟨rfl, rfl, rfl, rfl, rfl, (Traffic.add_zero _).symm⟩
  | cons result results ih => exact (adds_count report result.1 result.2).trans (ih _)

/-- The report of a drain counts its records, in whatever order their results came in. -/
theorem reports_of_results {taken order : List Hot.Record} {ending : Key → DrainOutcome}
    (perm : order.Perm (nonzero taken)) :
    Reports ((order.map fun r => (r.pending, ending r.key)).foldl
      (fun report (traffic, outcome) => report.count traffic outcome) { records := taken.length })
      taken ending := by
  have counted := adds_foldl { records := taken.length }
    (order.map fun r => (r.pending, ending r.key))
  have ended (outcome : DrainOutcome) :
      (order.filter fun r => ending r.key = outcome).Perm (endedAs taken ending outcome) := by
    refine (perm.filter _).trans (.of_eq ?_)
    rw [nonzero, List.filter_filter]
    exact List.filter_congr fun r _ => Bool.and_comm _ _
  have number (outcome : DrainOutcome) :
      0 + (order.map fun r => (r.pending, ending r.key)).countP (·.2 = outcome) =
        (endedAs taken ending outcome).length := by
    rw [Nat.zero_add, List.countP_map, ← (ended outcome).length_eq, ← List.countP_eq_length_filter]
    rfl
  refine ⟨counted.records, counted.flushed.trans (number _), counted.restored.trans (number _),
    counted.resourcesGone.trans (number _), counted.lost.trans (number _), counted.bytes.trans ?_⟩
  rw [List.filter_map, List.map_map]
  refine (Traffic.zero_add _).trans (Traffic.sum_perm ?_)
  exact (ended .flushed).map _

/-! ## Drains -/

/-- The way in which a record ended, as its calls tell it. -/
def outcomeOf : List Occurrence → DrainOutcome
  | [.write _ _ (.ok _)] => .flushed
  | [.write _ _ (.error _)] => .resourceGone
  | [.restoring _ _ (.ok _), _] => .restored
  | _ => .lost

theorem Disposes.outcome_eq {key : Key} {pending : Traffic} {outcome : DrainOutcome}
    {log : List Occurrence} (h : Disposes key pending outcome log) : outcomeOf log = outcome := by
  cases h <;> rfl

/-- The tiers account for a drained record: what was pending in it is in one place, and all else
that the hot tier has of its key has arrived since. -/
structure Accounted (before : Stage) (record : Hot.Record) (outcome : DrainOutcome)
    (later : List Occurrence) (after : Stage) : Prop where
  idle : record.pending = 0 → transfers later record.key = []
  calls : record.pending ≠ 0 →
    Disposes record.key record.pending outcome (transfers later record.key)
  row : after.row record.key =
    before.row record.key + if outcome = .flushed then record.pending else 0
  pending : after.pending record.key =
    tallied (·.arrived record.key) later + if outcome = .restored then record.pending else 0
  active : outcome = .restored → record.pending ≠ 0 →
    (after.world.hot.isActive after.world.now record.key).1 = true

theorem tallied_written_of_disposes {key : Key} {pending : Traffic} {outcome : DrainOutcome}
    {log : List Occurrence} (h : Disposes key pending outcome log) :
    tallied (·.written key) log = if outcome = .flushed then pending else 0 := by
  cases h with
  | flushed => simp [tallied, Occurrence.written, Traffic.sum, Traffic.zero_add]
  | _ => rfl

theorem tallied_restored_of_disposes {key : Key} {pending : Traffic} {outcome : DrainOutcome}
    {log : List Occurrence} (h : Disposes key pending outcome log) :
    tallied (·.restored key) log = if outcome = .restored then pending else 0 := by
  cases h with
  | restored failed => simp [tallied, Occurrence.restored, Traffic.sum, Traffic.zero_add]
  | _ => rfl

/-- What came in and what was written account for a record. -/
theorem accounted_of_since {base s : Stage} {bucket : Bucket} {later : List Occurrence}
    {record : Hot.Record} {outcome : DrainOutcome} (since : Since base bucket later s)
    (lives : 0 < base.world.hot.lifespan) (member : record.key.bucket = bucket)
    (idle : record.pending = 0 → transfers later record.key = [])
    (calls : record.pending ≠ 0 →
      Disposes record.key record.pending outcome (transfers later record.key)) :
    Accounted base record outcome later s := by
  have told {f : Occurrence → List Traffic}
      (other : ∀ o : Occurrence, o.isTransfer record.key = false → f o = [])
      (ended : DrainOutcome) (calls : record.pending ≠ 0 →
        tallied f (transfers later record.key) = if outcome = ended then record.pending else 0) :
      tallied f later = if outcome = ended then record.pending else 0 := by
    rw [← tallied_transfers other]
    by_cases pending : record.pending = 0
    · rw [idle pending, pending, ite_self]
      rfl
    · exact calls pending
  have written := told (Occurrence.written_eq_nil record.key) .flushed fun pending =>
    tallied_written_of_disposes (calls pending)
  have restored := told (Occurrence.restored_eq_nil record.key) .restored fun pending =>
    tallied_restored_of_disposes (calls pending)
  have refilled := since.hot lives record.key member
  rw [restored] at refilled
  refine ⟨idle, calls, written ▸ since.row record.key, refilled.pending_eq, ?_⟩
  rintro rfl pending
  rw [if_pos rfl] at refilled
  exact refilled.isActive (Traffic.add_ne_zero _ pending)

theorem Reports.total {report : DrainReport} {taken : List Hot.Record} {ending : Key → DrainOutcome}
    (h : Reports report taken ending) :
    report.flushed + report.restored + report.resourcesGone + report.lost =
      (nonzero taken).length := by
  rw [h.flushed, h.restored, h.resourcesGone, h.lost]
  simp only [endedAs, nonzero, ← List.countP_eq_length_filter]
  clear h
  induction taken with
  | nil => rfl
  | cons r taken ih =>
    simp only [List.countP_cons]
    cases r.pending.isZero <;> cases ending r.key <;>
      simp only [Bool.not_false, Bool.not_true, Bool.true_and, Bool.false_and, reduceCtorEq,
        decide_true, decide_false, if_true, if_false, Bool.false_eq_true] <;>
      omega

/-- A bucket that can be enumerated stays so while traffic arrives. -/
theorem enumerable_meets {s : Stage} (h : s.world.hot.Enumerable s.world.now)
    {incidents : List Incident} (arrivals : ∀ incident ∈ incidents, incident.IsArrival) :
    (incidents.foldl Stage.meet s).world.hot.Enumerable
      (incidents.foldl Stage.meet s).world.now := by
  induction incidents generalizing s with
  | nil => exact h
  | cons incident rest ih =>
    obtain ⟨first, others⟩ := List.forall_mem_cons.1 arrivals
    refine ih ?_ others
    cases incident with
    | arrival key traffic => exact h.answer (.increment key traffic)
    | arrivals entries => exact h.answer (.incrementAll entries)
    | _ => exact first.elim

/-- The records of the bucket that were taken at `base` are drained, in some order. -/
theorem drains_all {base : Stage} {bucket : Bucket} {s t : Course} {taken : List Hot.Record}
    {results : List (Traffic × DrainOutcome)} {width : Nat} (start : Drains base bucket s)
    (fresh : ∀ key, s.transfers key = []) (nodup : (taken.map (·.key)).Nodup)
    (reached : Reaches Course.answer
      (Program.all width (taken.map fun r => drainRecord r.key r.pending)) s (.pure results) t) :
    Drains base bucket t ∧
    (∃ order : List Hot.Record, order.Perm taken ∧
      results = order.map fun r => (r.pending, outcomeOf (t.transfers r.key))) ∧
    (∀ r ∈ taken, Disposes r.key r.pending (outcomeOf (t.transfers r.key)) (t.transfers r.key)) ∧
    ∀ key ∉ taken.map (·.key), t.transfers key = [] := by
  obtain ⟨drains, ⟨order, perm, told⟩, others⟩ :=
    (OnCells.gather (v := s.transfers) width (·.key)
      (fun r result log => result.1 = r.pending ∧ Disposes r.key r.pending result.2 log) nodup
      fun r _ => by
        rw [fresh r.key]
        exact onCell_drainRecord r.key r.pending).reaches start reached
  refine ⟨drains, ⟨order, perm, ?_⟩, fun r member => ?_, fun key absent => ?_⟩
  · have same : List.Forall₂ (fun r result => (r.pending, outcomeOf (t.transfers r.key)) = result)
        order results :=
      told.imp fun r result ⟨pending, disposed⟩ =>
        Prod.ext pending.symm disposed.outcome_eq
    rw [← List.forall₂_map_left_iff, List.forall₂_eq_eq_eq] at same
    exact same.symm
  · obtain ⟨result, -, disposed⟩ := OnCells.exists_of_forall₂ told (perm.mem_iff.2 member)
    rw [disposed.outcome_eq]
    exact disposed
  · rw [others key absent, fresh]

/-- The tiers account for all records that were taken at `base`, once those with something pending
were drained. -/
theorem accounted_of_drained {base s : Stage} {bucket : Bucket} {later : List Occurrence}
    {taken : List Hot.Record} (since : Since base bucket later s)
    (lives : taken ≠ [] → 0 < base.world.hot.lifespan) (nodup : (taken.map (·.key)).Nodup)
    (members : ∀ r ∈ taken, r.key.bucket = bucket)
    (drained : ∀ r ∈ nonzero taken,
      Disposes r.key r.pending (outcomeOf (transfers later r.key)) (transfers later r.key))
    (others : ∀ key ∉ (nonzero taken).map (·.key), transfers later key = []) :
    (∀ r ∈ taken, Accounted base r (outcomeOf (transfers later r.key)) later s) ∧
      ∀ key ∉ taken.map (·.key), s.row key = base.row key := by
  refine ⟨fun r member => ?_, fun key absent => ?_⟩
  · refine accounted_of_since since (lives (List.ne_nil_of_mem member)) (members r member) ?_ ?_
    · intro zero
      refine others r.key fun among => ?_
      obtain ⟨r', kept, same⟩ := List.mem_map.1 among
      obtain ⟨member', pending⟩ := mem_nonzero.1 kept
      obtain rfl := List.inj_on_of_nodup_map nodup member' member same
      exact pending zero
    · exact fun pending => drained r (mem_nonzero.2 ⟨member, pending⟩)
  · have idle : transfers later key = [] :=
      others key fun among => absent ((List.filter_sublist.map _).mem among)
    refine (since.row key).trans ?_
    rw [← tallied_transfers (Occurrence.written_eq_nil key), idle]
    exact Traffic.add_zero _

/-- The stage in which a bucket was taken out of the hot tier. -/
def Stage.take (s : Stage) (bucket : Bucket) : List Hot.Record × Stage :=
  let (taken, hot) := s.world.hot.takeBucket s.world.now bucket
  (taken, ⟨{ s.world with hot }, .taking taken :: s.log⟩)

/-- The live records of a bucket are taken out of the hot tier, and it keeps none of them. -/
structure Emptied (before : Stage) (bucket : Bucket) (taken : List Hot.Record) (base : Stage) :
    Prop where
  nodup : (taken.map (·.key)).Nodup
  sound : ∀ r, r ∈ taken ↔
    r.key.bucket = bucket ∧ (before.live? r.key).map (·.toRecord r.key) = some r
  log : base.log = .taking taken :: before.log
  row : ∀ key, base.row key = before.row key
  lives : taken ≠ [] → 0 < base.world.hot.lifespan
  scheduled : base.world.hot.Scheduled
  absent : ∀ key : Key, key.bucket = bucket → base.live? key = none

theorem emptied_take {s : Stage} (h : s.world.hot.Enumerable s.world.now) (bucket : Bucket) :
    Emptied s bucket (s.take bucket).1 (s.take bucket).2 := by
  have sound (r : Hot.Record) : r ∈ (s.take bucket).1 ↔
      r.key.bucket = bucket ∧ (s.live? r.key).map (·.toRecord r.key) = some r :=
    Hot.Store.mem_recordsOf h.scheduled h.indexed
  refine ⟨Hot.Store.takeBucket_nodup h.scheduled s.world.now bucket, sound, rfl, fun _ => rfl,
    fun some => ?_, (h.answer (.takeBucket bucket)).scheduled, fun key own => ?_⟩
  · obtain ⟨r, member⟩ := List.exists_mem_of_ne_nil _ some
    obtain ⟨entry, live, -⟩ := Option.map_eq_some_iff.1 ((sound r).1 member).2
    have kept : (s.take bucket).2.world.hot.lifespan = s.world.hot.lifespan :=
      Hot.Store.lifespan_answer h.scheduled s.world.now (.takeBucket bucket)
    exact kept.symm ▸ h.indexed.lifespan_pos live
  · exact (h.indexed.live?_takeBucket h.scheduled bucket key).trans (if_pos own)

/-- What a drain makes of a bucket. Traffic may arrive before any of its calls, and any of them may
fail without effect. If the bucket cannot be taken out of the hot tier, nothing happens. Otherwise
all its records are taken; the report counts those with something pending by the ways in which they
ended, and the tiers account for each of them. -/
theorem drain_accounts {lifespan : Int} {calls : List Hot.Call} {w : World}
    (history : w.hot = (Hot.Store.empty lifespan).afterCalls calls)
    (clocked : Hot.Call.Clocked calls w.now) {fates : List Fate} (arriving : Arriving fates)
    (c : Settings) (memory : Compactor) (bucket : Bucket) :
    let start : Course := ⟨⟨w, []⟩, fates⟩
    (∃ ended t, Reaches Course.answer (drain c memory bucket) start (.pure ended) t) ∧
    ∀ memory' result t,
      Reaches Course.answer (drain c memory bucket) start (.pure (memory', result)) t →
      match start.fate.failure? with
      | some e => result = .error e ∧ t.stage.world = start.ahead.world
      | none => ∃ report taken ending later, result = .ok report ∧
        (taken.map (·.key)).Nodup ∧
        (∀ r, r ∈ taken ↔ r.key.bucket = bucket ∧
          (start.ahead.live? r.key).map (·.toRecord r.key) = some r) ∧
        t.stage.log = later ++ .taking taken :: start.ahead.log ∧
        Reports report taken ending ∧
        report.flushed + report.restored + report.resourcesGone + report.lost =
          (nonzero taken).length ∧
        (∀ r ∈ taken, Accounted start.ahead r (ending r.key) later t.stage) ∧
        ∀ key ∉ taken.map (·.key), t.stage.row key = start.ahead.row key := by
  intro start
  refine ⟨⟨_, _, reaches_settle _ _⟩, fun memory' result t reached => ?_⟩
  have rest := reached.of_ask_bind
  have enumerable : start.ahead.world.hot.Enumerable start.ahead.world.now :=
    enumerable_meets (history ▸ .afterCalls clocked) (Arriving.next (s := start) arriving)
  cases failing : start.fate.failure? with
  | some e =>
    have refused : Course.answer (.hot (.takeBucket bucket)) start =
        (.error e, ⟨⟨start.ahead.world, .other :: start.ahead.log⟩, start.fates.tail⟩) := by
      rw [Course.answer, failing]
      rfl
    rw [refused] at rest
    obtain ⟨eq, rfl⟩ := rest.of_pure
    exact ⟨(Prod.mk.inj eq).2, rfl⟩
  | none =>
    have took : Course.answer (.hot (.takeBucket bucket)) start =
        (.ok (start.ahead.take bucket).1, ⟨(start.ahead.take bucket).2, start.fates.tail⟩) := by
      rw [Course.answer, failing]
      rfl
    rw [took] at rest
    have emptied := emptied_take enumerable bucket
    generalize start.ahead.take bucket = took at rest emptied
    obtain ⟨taken, base⟩ := took
    have fresh (key : Key) : Course.transfers ⟨base, start.fates.tail⟩ key = [] := by
      rw [Course.transfers, emptied.log]
      exact start.transfers_ahead key
    have begins : Drains base bucket ⟨base, start.fates.tail⟩ :=
      ⟨⟨[], .start emptied.scheduled emptied.absent⟩,
        fun fate member => arriving fate (List.mem_of_mem_tail member)⟩
    obtain ⟨results, u, ran, ended⟩ := rest.of_bind
    obtain ⟨eq, rfl⟩ := ended.of_pure
    obtain ⟨-, rfl⟩ := Prod.mk.inj eq
    obtain ⟨⟨⟨later, since⟩, -⟩, ⟨order, perm, rfl⟩, drained, others⟩ :=
      drains_all begins fresh (emptied.nodup.sublist (List.filter_sublist.map _)) ran
    have own (key : Key) : t.transfers key = transfers later key := by
      rw [Course.transfers, since.log, transfers, List.filter_append]
      exact (congrArg (_ ++ ·) (fresh key)).trans (List.append_nil _)
    simp only [own] at drained others ⊢
    obtain ⟨accounted, idle⟩ := accounted_of_drained since emptied.lives emptied.nodup
      (fun r member => ((emptied.sound r).1 member).1) drained others
    have reports : Reports _ taken fun key => outcomeOf (transfers later key) :=
      reports_of_results perm
    refine ⟨_, taken, _, later, rfl, emptied.nodup, emptied.sound, since.log.trans ?_, reports,
      reports.total, fun r member => ?_,
      fun key absent => (idle key absent).trans (emptied.row key)⟩
    · rw [emptied.log]
    · have told := accounted r member
      exact ⟨told.idle, told.calls, emptied.row r.key ▸ told.row, told.pending, told.active⟩

/-- Five records, one of them with nothing pending. One write is taken; one finds no resource; of
the other two, which fail, one is made up for by a restoring increment, just after traffic of its
key has arrived, and one is not. -/
theorem drain_in_trouble :
    let key (node : Id) : Key := ⟨⟨default, 474804⟩, 1, .node, node⟩
    let calls : List Hot.Call := [.request ⟨2⟩ (.seed (key 5) (.ofNats 9 9)),
      .request ⟨1⟩ (.incrementAll [(key 1, .ofNats 10 10), (key 2, .ofNats 20 20),
        (key 3, .ofNats 30 30), (key 4, .ofNats 40 40)])]
    let w : World := { now := ⟨5⟩, hot := (Hot.Store.empty 100).afterCalls calls }
    let down : Error := .unavailable .cold "timed out"
    let fates : List Fate := [⟨[.arrival (key 1) (.ofNats 1 1)], none⟩, ⟨[], none⟩,
      ⟨[], some (.notFound "node")⟩, ⟨[], some down⟩, ⟨[.arrival (key 3) (.ofNats 5 5)], none⟩,
      ⟨[], some down⟩, ⟨[], some down⟩]
    let start : Course := ⟨⟨w, []⟩, fates⟩
    let c : Settings := ⟨default, 0, {}⟩
    ∃ memory result t,
      Reaches Course.answer (drain c {} (key 1).bucket) start (.pure (memory, result)) t ∧
      result = .ok ⟨5, 1, 1, 1, 1, .ofNats 11 11⟩ ∧
      t.stage.row (key 1) = .ofNats 11 11 ∧ t.stage.pending (key 3) = .ofNats 35 35 ∧
      ∃ taken, ∃ ending : Key → DrainOutcome, ∃ later, (nonzero taken).length = 4 ∧
        ∀ r ∈ taken, Accounted start.ahead r (ending r.key) later t.stage := by
  intro key calls w down fates start c
  have ended : Reaches Course.answer (drain c {} (key 1).bucket) start _ _ := reaches_settle _ _
  have result : ((drain c {} (key 1).bucket).settle Course.answer start).1.2 =
      .ok ⟨5, 1, 1, 1, 1, .ofNats 11 11⟩ := by
    decide +kernel
  have row : ((drain c {} (key 1).bucket).settle Course.answer start).2.stage.row (key 1) =
      .ofNats 11 11 := by
    decide +kernel
  have pending : ((drain c {} (key 1).bucket).settle Course.answer start).2.stage.pending (key 3) =
      .ofNats 35 35 := by
    decide +kernel
  -- what was computed is all that matters of the run
  generalize (drain c {} (key 1).bucket).settle Course.answer start = settled
    at ended result row pending
  obtain ⟨⟨memory, _⟩, t⟩ := settled
  obtain rfl := result
  have history : w.hot = (Hot.Store.empty 100).afterCalls calls := rfl
  have clocked : Hot.Call.Clocked calls w.now := ⟨by decide, by decide, trivial⟩
  obtain ⟨report, taken, ending, later, same, -, -, -, -, total, accounted, -⟩ :=
    (drain_accounts history clocked (show Arriving fates by decide) c {} (key 1).bucket).2
      _ _ _ ended
  obtain rfl := Except.ok.inj same
  exact ⟨memory, _, t, ended, rfl, row, pending, taken, ending, later, total.symm, accounted⟩

end Metering.Compaction

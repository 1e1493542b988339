import Metering.Proofs.Compaction.Conservation
import Metering.Proofs.Ledger.Rounds

/-!
# No byte is written twice

A record can be removed, drained or expire, and be made anew, while an older state of it is being
flushed. Whatever happens, the row of a key never goes beyond what was counted for it, as long as
every commit of markers lands.

`Bounded` says for one direction why: the row, what the work under way may still write, and what is
pending or may come to be, are together within what was accepted. What may come to be pending is
told by cases. A record that is being flushed and still stands gets the markers of its commit; where
it was lost, the record that stands in its place has no markers yet.

Results: `row_le_accepted`, the row of a key is at most what was counted for it.
-/

namespace Metering

namespace Compaction

open Hot (Entry Record)

/-- Bytes that the work under way may still write or count again. -/
def Phase.unwritten (d : Way) : Phase → Nat
  | observed (some record) => record.pending.bytes d
  | taken pending | refused pending => pending.bytes d
  | _ => 0

/-- No commit of markers is due. -/
def Phase.IsUnwritten : Phase → Prop
  | written _ => False
  | _ => True

theorem Phase.isUnwritten_of_free {φ : Phase} (free : ¬ φ.Owes) : φ.IsUnwritten := by
  cases φ with
  | written record => exact (free trivial).elim
  | _ => trivial

/-- The row of a key, and all that may still be written to it, is within what was accepted. -/
inductive Bounded (d : Way) (φ : Phase) (live? : Option Entry) (row : Traffic) (accepted : Nat) :
    Prop
  /-- No record is being flushed. -/
  | plain (free : ∀ record, ¬ φ.Holds record)
      (within : row.bytes d + φ.unwritten d + pendingOf d live? ≤ accepted)
  /-- The record that is being flushed still stands, and may have been counted since. -/
  | fresh (record : Record) (entry : Entry) (holds : φ.Holds record) (stands : live? = some entry)
      (marked : entry.flushed.bytes d = record.flushed.bytes d)
      (grown : record.traffic.bytes d ≤ entry.traffic.bytes d)
      (within : row.bytes d + φ.unwritten d +
        (entry.traffic.bytes d - record.traffic.bytes d) ≤ accepted)
  /-- The record that is being flushed was lost. -/
  | stale (record : Record) (holds : φ.Holds record) (unmarked : flushedOf d live? = 0)
      (within : row.bytes d + φ.unwritten d + trafficOf d live? ≤ accepted)

theorem Phase.Holds.unwritten_eq {φ : Phase} {record : Record} (holds : φ.Holds record)
    (unwritten : φ.IsUnwritten) (d : Way) : φ.unwritten d = record.pending.bytes d := by
  obtain rfl | rfl := holds
  · rfl
  · exact unwritten.elim

theorem Phase.Holds.eq {φ : Phase} {record other : Record} (holds : φ.Holds record)
    (also : φ.Holds other) : other = record := by
  obtain rfl | rfl := holds <;> obtain ⟨⟨⟩⟩ | ⟨⟨⟩⟩ := also <;> rfl

/-- No record is being flushed, though one may be drained. -/
theorem Phase.Drains.free {φ : Phase} (drains : φ.Drains) (record : Record) : ¬ φ.Holds record :=
  (drains.eq_zero .upload {}).2.2 record

namespace Bounded

variable {d : Way} {φ : Phase} {live? : Option Entry} {row : Traffic} {accepted : Nat}

theorem row_le (h : Bounded d φ live? row accepted) : row.bytes d ≤ accepted := by
  obtain ⟨-, within⟩ | ⟨record, entry, -, -, -, -, within⟩ | ⟨record, -, -, within⟩ := h <;> omega

theorem empty : Bounded d .rest none 0 0 := by
  refine .plain (Phase.Drains.free trivial) ?_
  simp [Phase.unwritten, pendingOf]

/-! ## Records -/

/-- Traffic is counted. -/
theorem grow (h : Bounded d φ live? row accepted) {traffic : Traffic} {entry : Entry}
    (grows : Grows live? traffic entry) :
    Bounded d φ (some entry) row (accepted + traffic.bytes d) := by
  have flushed := grows.flushed d
  have counted : entry.traffic.bytes d ≤ trafficOf d live? + traffic.bytes d := by
    rw [grows.traffic]
    exact Nat.min_le_left ..
  cases h with
  | plain free within =>
    refine .plain free ?_
    rw [pendingOf_eq] at within ⊢
    simp only [trafficOf, flushedOf, Option.elim_some] at counted flushed within ⊢
    omega
  | fresh record old holds stands marked grown within =>
    subst stands
    have top := old.traffic.bytes_le_top d
    have traffic_eq := grows.traffic d
    simp only [trafficOf, flushedOf, Option.elim_some] at counted flushed traffic_eq
    refine .fresh record entry holds rfl ?_ ?_ ?_ <;> omega
  | stale record holds unmarked within =>
    refine .stale record holds ?_ ?_
    · exact flushed.trans unmarked
    · simp only [trafficOf, Option.elim_some] at counted within ⊢
      omega

/-- The record is lost. -/
theorem lose (h : Bounded d φ live? row accepted) : Bounded d φ none row accepted := by
  cases h with
  | plain free within =>
    refine .plain free ?_
    simp only [pendingOf, Option.elim_none]
    omega
  | fresh record entry holds stands marked grown within =>
    refine .stale record holds rfl ?_
    simp only [trafficOf, Option.elim_none]
    omega
  | stale record holds unmarked within =>
    refine .stale record holds rfl ?_
    simp only [trafficOf, Option.elim_none]
    omega

/-! ## Phases -/

/-- The bound while no record is being flushed. -/
theorem within (h : Bounded d φ live? row accepted) (drains : φ.Drains) :
    row.bytes d + φ.unwritten d + pendingOf d live? ≤ accepted := by
  cases h with
  | plain free within => exact within
  | fresh record _ holds => exact (drains.free record holds).elim
  | stale record holds => exact (drains.free record holds).elim

/-- Work that has written nothing can be left as it is. -/
theorem leave (h : Bounded d φ live? row accepted) (unwritten : φ.IsUnwritten)
    {ψ : Phase} (drains : ψ.Drains) (nothing : ψ.unwritten d = 0) :
    Bounded d ψ live? row accepted := by
  refine .plain drains.free ?_
  cases h with
  | plain free within => omega
  | fresh record entry holds stands marked grown within =>
    subst stands
    have pending := record.bytes_pending d
    rw [holds.unwritten_eq unwritten] at within
    simp only [pendingOf, Option.elim_some, Entry.bytes_pending]
    omega
  | stale record holds unmarked within =>
    rw [pendingOf_eq]
    omega

/-- A record is read. -/
theorem read (h : Bounded d .listed live? row accepted) (key : Key) :
    Bounded d (.observed (live?.map (·.toRecord key))) live? row accepted := by
  have within := h.within trivial
  cases live? with
  | none => exact .plain (Phase.IsPlain.missing.not_holds) within
  | some entry =>
    refine .fresh (entry.toRecord key) entry (.inl rfl) rfl rfl (Nat.le_refl _) ?_
    have pending : Phase.unwritten d (.observed (some (entry.toRecord key))) =
        pendingOf d (some entry) := rfl
    have counted : (entry.toRecord key).traffic.bytes d = entry.traffic.bytes d := rfl
    simp only [Option.map_some, Phase.unwritten] at within pending ⊢
    omega

/-- What was pending in the record that was read is written. -/
theorem write {record : Record} (h : Bounded d (.observed (some record)) live? row accepted) :
    Bounded d (.written record) live? (row + record.pending) accepted := by
  have written : (row + record.pending).bytes d ≤ row.bytes d + record.pending.bytes d := by
    rw [Traffic.bytes_add]
    exact Nat.min_le_left ..
  cases h with
  | plain free within => exact (free record (.inl rfl)).elim
  | fresh other entry holds stands marked grown within =>
    obtain rfl : record = other := Phase.Holds.eq holds (.inl rfl)
    refine .fresh record entry (.inr rfl) stands marked grown ?_
    simp only [Phase.unwritten] at within ⊢
    omega
  | stale other holds unmarked within =>
    refine .stale record (.inr rfl) unmarked ?_
    simp only [Phase.unwritten] at within ⊢
    omega

/-- The commit lands on the record that was flushed, or on a new one. -/
theorem commit {record : Record} (h : Bounded d φ live? row accepted) (commits : φ.Commits record) :
    Bounded d .rest (live?.map (·.mark record.traffic)) row accepted := by
  have mine : φ.Holds record := commits.symm.imp And.left id
  refine .plain (Phase.Drains.free trivial) ?_
  cases h with
  | plain free within => exact (free record mine).elim
  | fresh other entry holds stands marked grown within =>
    obtain rfl := mine.eq holds
    subst stands
    simp only [pendingOf, Option.map_some, Option.elim_some, Entry.bytes_pending,
      Entry.traffic_mark, Entry.flushed_mark, Phase.unwritten]
    omega
  | stale other holds unmarked within =>
    cases live? with
    | none =>
      simp only [pendingOf, Option.map_none, Option.elim_none, Phase.unwritten]
      omega
    | some entry =>
      simp only [trafficOf, Option.elim_some] at within
      simp only [pendingOf, Option.map_some, Option.elim_some, Entry.bytes_pending,
        Entry.traffic_mark, Entry.flushed_mark, Phase.unwritten]
      omega

/-! ## Drains -/

/-- Traffic moves between the row, the record and a drain. -/
theorem transfer (h : Bounded d φ live? row accepted) (drains : φ.Drains) {ψ : Phase}
    (drains' : ψ.Drains) {live?' : Option Entry} {row' : Traffic}
    (moved : row'.bytes d + ψ.unwritten d + pendingOf d live?' ≤
      row.bytes d + φ.unwritten d + pendingOf d live?) : Bounded d ψ live?' row' accepted :=
  .plain drains'.free (Nat.le_trans moved (h.within drains))

/-- A record is drained. -/
theorem take (h : Bounded d .waiting live? row accepted) (key : Key) :
    Bounded d (.ofTaken (live?.map (·.toRecord key))) none row accepted := by
  cases live? with
  | none => exact h.leave (ψ := .rest) trivial trivial rfl
  | some entry =>
    rw [Option.map_some, Phase.ofTaken]
    split
    · exact (h.leave (ψ := .rest) trivial trivial rfl).lose
    · refine h.transfer (ψ := .taken _) trivial trivial ?_
      simp only [pendingOf, Option.elim_none, Option.elim_some, Phase.unwritten]
      exact Nat.le_refl _

/-- Drained traffic reaches the cold tier. -/
theorem deliver {pending : Traffic} (h : Bounded d (.taken pending) live? row accepted) :
    Bounded d .rest live? (row + pending) accepted := by
  have written : (row + pending).bytes d ≤ row.bytes d + pending.bytes d := by
    rw [Traffic.bytes_add]
    exact Nat.min_le_left ..
  refine h.transfer (ψ := .rest) trivial trivial ?_
  simp only [Phase.unwritten]
  omega

/-- Drained traffic is counted in the hot tier again. -/
theorem restore {pending : Traffic} (h : Bounded d (.refused pending) live? row accepted)
    {entry : Entry} (grows : Grows live? pending entry) :
    Bounded d .rest (some entry) row accepted := by
  have flushed := grows.flushed d
  have counted : entry.traffic.bytes d ≤ trafficOf d live? + pending.bytes d := by
    rw [grows.traffic]
    exact Nat.min_le_left ..
  refine h.transfer (ψ := .rest) trivial trivial ?_
  rw [pendingOf_eq d live?]
  simp only [pendingOf, Option.elim_some, Entry.bytes_pending, Phase.unwritten]
  omega

/-! ## Effects -/

/-- The bound is kept by every effect but the failure of a commit. -/
theorem effect (h : Bounded d φ live? row accepted) {key : Key} {fails : Error → Prop}
    {lost : Entry → Prop} {o : Occurrence} {live?' : Option Entry} {row' : Traffic}
    (effect : Effect key fails lost φ live? row o live?' row')
    (landed : ∀ markers e, o ≠ .commit key markers (.error e)) :
    Bounded d (φ.after key o) live?' row' accepted := by
  have rests : φ.IsUnwritten → Bounded d .rest live? row accepted :=
    fun unwritten => h.leave unwritten trivial rfl
  cases effect with
  | apart apart => rwa [Phase.after_of_apart apart]
  | list keys =>
    unfold Phase.after
    dsimp only
    split
    · exact h.leave trivial trivial rfl
    · exact rests trivial
  | glance records unlisted =>
    cases φ with
    | listed => exact (unlisted rfl).elim
    | _ => exact h
  | read records told =>
    have phase : Phase.after key .listed (.observation records) =
        .observed (live?.map (·.toRecord key)) := by
      simp [Phase.after, told]
    rw [phase]
    exact h.read key
  | write traffic writes =>
    rw [Phase.after, if_pos rfl]
    obtain ⟨record, rfl, rfl, -⟩ | rfl := writes
    · exact h.write
    · exact h.deliver
  | writeFails traffic e writes failure =>
    rw [Phase.after, if_pos rfl]
    obtain ⟨record, rfl, rfl, -⟩ | rfl := writes
    · unfold Phase.afterWrite
      dsimp only
      split
      · exact h.leave trivial trivial rfl
      · exact rests trivial
    · unfold Phase.afterWrite
      dsimp only
      split
      · exact rests trivial
      · exact h.transfer (ψ := .refused _) trivial trivial (Nat.le_refl _)
  | commit record commits =>
    rw [Phase.after, if_pos rfl]
    exact h.commit commits
  | commitFails record e commits failure => exact (landed _ _ rfl).elim
  | settle purge settles =>
    rw [settles.after_settling]
    have rest := rests (by obtain rfl | ⟨record?, rfl, -⟩ := settles <;> trivial)
    split
    · exact rest.lose
    · exact rest
  | settleFails purge e settles failure =>
    rw [settles.after_settling]
    exact rests (by obtain rfl | ⟨record?, rfl, -⟩ := settles <;> trivial)
  | take records told =>
    rw [Phase.after, told]
    exact h.take key
  | leave records untold =>
    rw [Phase.after, untold]
    exact rests trivial
  | restore traffic live?' accrues =>
    rw [Phase.after, if_pos rfl]
    cases accrues with
    | nothing zero => exact rests trivial
    | grown entry nonzero grows => exact h.restore grows
    | lost entry nonzero grows expired => exact (rests trivial).lose
  | restoreFails traffic e failure =>
    rw [Phase.after, if_pos rfl]
    exact rests trivial
  | forget result live?' left =>
    rw [Phase.after, if_pos rfl]
    obtain rfl | rfl := left
    · exact (rests trivial).lose
    · exact rests trivial

end Bounded

/-! ## Occasions -/

variable {key : Key} {d : Way}

/-- The bound of a key holds in a direction. -/
def Stage.IsBounded (key : Key) (d : Way) (s : Stage) : Prop :=
  Bounded d (s.phase key) (s.live? key) (s.row key) ((s.tally key).accepted d)

theorem bounded_incrementAll {φ : Phase} {row : Traffic} {n : Way → Nat} {now : Instant}
    {hot : Hot.Store} (hs : hot.Scheduled) (entries : List (Key × Traffic))
    (h : Bounded d φ (hot.live? now key) row (n d)) :
    Bounded d φ ((hot.incrementAll now entries).live? now key) row
      (n d + counted key d entries) := by
  have lost : ∀ entry : Entry, hot.lifespan ≤ 0 → (entry.pending ≠ 0 →
      (hot.incrementAll now entries).Forfeits now key) → (fun _ => True) entry :=
    fun _ _ _ => trivial
  refine incrementAll_keeps (P := fun n live? => Bounded d φ live? row (n d)) hs entries lost ?_
    (fun _ => Nat.le_refl _) h
  intro n live? traffic live?' h _ accrues
  cases accrues with
  | nothing zero => simpa [zero] using h
  | grown entry nonzero grows => exact h.grow grows
  | lost entry nonzero grows _ => exact (h.grow grows).lose

/-- What becomes of a record apart from the work and the counting: it stays or is lost. -/
theorem Bounded.stays {φ : Phase} {live? live?' : Option Entry} {row : Traffic} {accepted : Nat}
    (h : Bounded d φ live? row accepted) (stays : live?' = live? ∨ live?' = none) :
    Bounded d φ live?' row accepted := by
  obtain rfl | rfl := stays
  · exact h
  · exact h.lose

/-- A commit of the markers of `key` failed. -/
def Occurrence.misses (key : Key) : Occurrence → Bool
  | .commit key' _ (.error _) => key' = key
  | _ => false

theorem Occurrence.not_misses_of_apart {o : Occurrence} (apart : o.Apart key) :
    o.misses key = false := by
  cases o with
  | commit key' markers result =>
    cases result with
    | ok _ => rfl
    | error e => exact decide_eq_false apart
  | _ => rfl

theorem Tally.after_accepted {o : Occurrence} (other : ∀ entries, o ≠ .arrival entries) (φ : Phase)
    (t : Tally) : (t.after key φ o).accepted = t.accepted := by
  cases o with
  | arrival entries => exact (other entries rfl).elim
  | seeding key' taken =>
    unfold Tally.after
    dsimp only
    split <;> rfl
  | observation records =>
    unfold Tally.after
    dsimp only
    split <;> rfl
  | commit key' markers result =>
    cases φ with
    | written record =>
      unfold Tally.after
      dsimp only
      split
      · cases result <;> rfl
      · rfl
    | _ => rfl
  | _ => rfl

theorem occurrence_ne_arrival {β : Type} (request : Request β) (answer : β)
    (entries : List (Key × Traffic)) : occurrence request answer ≠ .arrival entries := by
  cases request with
  | hot r => cases r <;> cases answer <;> exact nofun
  | cold r => cases r <;> exact nofun
  | _ => exact nofun

end Compaction

namespace Station

open Compaction

variable {l : Ledger} {key : Key} {d : Way}

theorem upkeep_bounded : Upkeep l key (fun choice => ¬ choice.Seeds)
    (fun s => s.world.hot.Scheduled ∧ ∀ o ∈ s.log, o.misses key = false)
    (Stage.IsBounded key d) where
  scheduled good := good.1
  begun _ good := by
    refine ⟨good.1, ?_⟩
    rintro o (_ | ⟨_, member⟩)
    · rfl
    · exact good.2 o member
  apart failure? β request apart good := by
    refine ⟨Stage.scheduled_answer_world good.1 failure? request, ?_⟩
    rintro o (_ | ⟨_, member⟩)
    · exact Occurrence.not_misses_of_apart (Stage.occurrence_of_apart apart)
    · exact good.2 o member
  attends unseeded h good _ := by
    obtain ⟨writes, side, metrics, eq⟩ | ⟨log, row, stays⟩ :=
      Stage.attend_cases key good.1 unseeded
    · rw [eq]
      exact bounded_incrementAll good.1 writes h
    · unfold Stage.IsBounded Stage.phase Stage.tally at h ⊢
      rw [log, row]
      exact h.stays stays
  begins _ free h := by
    refine Bounded.leave h ?_ (ψ := .waiting) trivial rfl
    exact Phase.isUnwritten_of_free free
  answers {_ failure?} _ s β request _ effect h _ good' := by
    have tally : (Stage.answer failure? request s).2.tally key = (s.tally key).after key
        (s.phase key) (occurrence request (Stage.answer failure? request s).1) := rfl
    unfold Stage.IsBounded
    rw [tally, Tally.after_accepted (occurrence_ne_arrival request _)]
    refine Bounded.effect h effect fun markers e told => ?_
    -- a commit that failed would be the newest occurrence of a log that tells of none
    have missed := good'.2 _ List.mem_cons_self
    rw [told] at missed
    exact of_decide_eq_false missed rfl

/-- At every moment of a run from empty stores, the row of a key is at most what was counted for the
key, if no commit of its markers has failed. -/
theorem row_le_accepted {lifespan : Int} {now : Instant} {schedule : List Choice}
    (unseeded : ∀ choice ∈ schedule, ¬ choice.Seeds) {s : Station}
    (reached : (Station.empty lifespan now).play l schedule = s)
    (landed : ∀ o ∈ s.log, o.misses key = false) (d : Way) :
    (s.row key).bytes d ≤ (s.tally key).accepted d := by
  subst reached
  have scheduled := throughout_scheduled (l := l) (s := .empty lifespan now)
    (Hot.Store.scheduled_empty lifespan) schedule
  have start : (Station.empty lifespan now).IsBounded key d := by
    have entry : (Station.empty lifespan now).live? key = none := by
      simp [Station.empty, Stage.live?, Hot.Store.live?]
    have row : (Station.empty lifespan now).row key = 0 := by
      simp [Station.empty, Stage.row, Cold.Store.row]
    change Bounded d .rest _ _ 0
    rw [entry, row]
    exact .empty
  have kept := upkeep_bounded.invariant.play unseeded
    (scheduled.and (Throughout.of_log landed)) start ended_rest
  exact Bounded.row_le kept.1

/-- A record of ten bytes is removed after it was read. Its bytes are written, and the commit marks
them in the record of twenty-five bytes that was made in its place, so fifteen are left to drain;
the first drain cannot write them. -/
theorem row_after_lost_record :
    let key : Key := ⟨⟨default, 474804⟩, 1, .node, 1⟩
    let c : Compaction.Settings := { zone := default, retention := 86400000000000, config := {} }
    let l : Ledger := {
      config := {}, zone := default, compaction := c, quota := ⟨"traffic", 0⟩
      query := ⟨default, 86400000000000, {}, .passthrough⟩, alert := ⟨"traffic", [], 0⟩ }
    let s := (Station.empty 10800000000000 (.ofSeconds 1709266200)).play l
      (.occasion (.incident (.arrival key (.ofNats 10 10))) :: .cycle false :: (Choice.moves 7 ++
        .occasion (.incident (.removal key)) ::
        .occasion (.incident (.arrival key (.ofNats 25 0))) :: (Choice.moves 8 ++
        .drain key.bucket :: .move [] none ::
        .move [] (some (.unavailable .cold "timeout")) :: (Choice.moves 4 ++
        .drain key.bucket :: Choice.moves 5))))
    s.row key = .ofNats 25 10 ∧ (s.tally key).accepted .upload = 35 ∧
      ∀ d, (s.row key).bytes d ≤ (s.tally key).accepted d := by
  intro key c l s
  refine ⟨by decide +kernel, by decide +kernel, row_le_accepted ?_ rfl ?_⟩
  · decide +kernel
  · decide +kernel

end Station

end Metering

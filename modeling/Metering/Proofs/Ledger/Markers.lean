import Metering.Proofs.Compaction.Resets
import Metering.Proofs.Hot.Seeding
import Metering.Proofs.Ledger.Absence
import Metering.Proofs.Ledger.Interludes

/-!
# Markers within their counters

A commit marks what was read, while the counter may have grown since. As long as the record that was
read still stands, the markers go up and stay within the counter. A record that was lost and made
anew could get the markers of the old one, and then look as if it had been reset. So where no record
is lost or seeded between its reading and its commit, no record ever looks like that.

Results:
1. `Ordered.effect`: what an answer leaves of the order of markers and counters.
2. `ordered_play`: the order holds at every moment of a run.
3. `markers_in_order`: markers are within their counters and never go down, no record that is read
   was reset, and no cycle reports a reset.
-/

namespace Metering

namespace Hot.Store

variable {s : Store} {now : Instant} {key : Key}

/-- Where records do not live, counting makes none. -/
theorem live?_incrementAll_of_lifespan (brief : s.lifespan ≤ 0) (absent : s.live? now key = none)
    (entries : List (Key × Traffic)) : (s.incrementAll now entries).live? now key = none := by
  induction entries generalizing s with
  | nil => exact absent
  | cons entry entries ih =>
    obtain ⟨key', traffic⟩ := entry
    refine ih ((lifespan_increment s now key' traffic).symm ▸ brief) ?_
    have records := records_increment s now key' traffic key
    split at records
    · rw [live?, records]
      have expired : ¬ now < now.addNanos s.lifespan := Int.not_lt.2 (addNanos_le brief now)
      simp [expired]
    · exact (live?_congr records now).trans absent

end Hot.Store

namespace Compaction

open Hot (Entry Record)

/-! ## What is still to come -/

namespace Occurrence

/-- The key whose markers are committed. -/
def committed? : Occurrence → Option Key
  | .commit key _ (.ok _) => some key
  | _ => none

/-- The key that is offered a baseline. -/
def seeded? : Occurrence → Option Key
  | .seeding key _ => some key
  | _ => none

/-- Some work begins. -/
def begins : Occurrence → Bool
  | .beginning => true
  | _ => false

end Occurrence

/-- The keys whose markers the work under way is still to commit, in a run that goes on from the log
`log` to the log `final`. -/
def due (final log : List Occurrence) : List Key :=
  ((since log final).reverse.takeWhile (!·.begins)).filterMap (·.committed?)

variable {final log : List Occurrence} {key : Key}

theorem due_cons {o : Occurrence} (later : o :: log <:+ final) (goesOn : o.begins = false) :
    due final log = o.committed?.toList ++ due final (o :: log) := by
  obtain ⟨news, rfl⟩ := later
  have before : since log (news ++ o :: log) = news ++ [o] := by
    rw [List.append_cons, since_append]
  unfold due
  rw [before, since_append, List.reverse_append, List.reverse_singleton, List.singleton_append,
    List.takeWhile_cons, goesOn]
  cases told : o.committed? <;> simp [told]

/-- What is due after an occurrence was due before, and so was what it commits. -/
theorem due_of_cons {o : Occurrence} (later : o :: log <:+ final) (goesOn : o.begins = false)
    (key : Key) :
    (key ∈ due final (o :: log) → key ∈ due final log) ∧
      (o.committed? = some key → key ∈ due final log) := by
  rw [due_cons later goesOn]
  refine ⟨List.mem_append_right _, fun told => List.mem_append_left _ ?_⟩
  rw [told]
  exact List.mem_singleton_self key

/-! ## Records -/

/-- The markers of a record are within its counter, and so were those of a record that is being
flushed. While its commit is due this record still stands, and may have been counted since. The
markers have a floor below which they do not go. -/
structure Ordered (due : Prop) (floor : Way → Nat) (φ : Phase) (live? : Option Entry) : Prop where
  covered : ∀ entry, live? = some entry → ∀ d, entry.flushed.bytes d ≤ entry.traffic.bytes d
  marked : ∀ entry, live? = some entry → ∀ d, floor d ≤ entry.flushed.bytes d
  seen : ∀ record, φ.Holds record → ∀ d, record.flushed.bytes d ≤ record.traffic.bytes d
  stands : due → ∀ record, φ.Holds record → ∃ entry, live? = some entry ∧
    ∀ d, entry.flushed.bytes d = record.flushed.bytes d ∧
      record.traffic.bytes d ≤ entry.traffic.bytes d

/-- Where an increment leaves no record there was none, or the new one was lost. -/
theorem Accrues.of_none {lost : Entry → Prop} {live? live?' : Option Entry} {traffic : Traffic}
    (h : Accrues lost live? traffic live?') (absent : live?' = none) :
    live? = none ∨ ∃ entry, lost entry := by
  cases h with
  | nothing zero => exact .inl absent
  | grown entry nonzero grows => cases absent
  | lost entry nonzero grows expired => exact .inr ⟨entry, expired⟩

/-- The key may be without a record: no commit is due of one that is being flushed, and there is no
floor. -/
structure MayLack (due : Prop) (floor : Way → Nat) (φ : Phase) : Prop where
  idle : due → φ.Drains
  low : ∀ d, floor d = 0

theorem MayLack.mono {due due' : Prop} {floor : Way → Nat} {φ : Phase} (h : MayLack due floor φ)
    (le : due' → due) : MayLack due' floor φ :=
  ⟨fun due' => h.idle (le due'), h.low⟩

namespace Ordered

variable {due due' : Prop} {floor : Way → Nat} {φ ψ : Phase} {live? live?' : Option Entry}

theorem of_none (drains : φ.Drains) : Ordered due floor φ none :=
  ⟨nofun, nofun, fun record holds => (drains.free record holds).elim,
    fun _ record holds => (drains.free record holds).elim⟩

theorem mono (h : Ordered due floor φ live?) (le : due' → due) : Ordered due' floor φ live? :=
  ⟨h.covered, h.marked, h.seen, fun due' => h.stands (le due')⟩

/-- No record is being flushed any more. -/
theorem leave (h : Ordered due floor φ live?) (drains : ψ.Drains) : Ordered due' floor ψ live? :=
  ⟨h.covered, h.marked, fun record holds => (drains.free record holds).elim,
    fun _ record holds => (drains.free record holds).elim⟩

/-- The record is lost where it may be. -/
theorem lose (h : Ordered due floor φ live?) (free : MayLack due floor φ) :
    Ordered due floor φ none :=
  ⟨nofun, nofun, h.seen, fun due record holds => ((free.idle due).free record holds).elim⟩

/-- The record is lost or stays. -/
theorem stays (h : Ordered due floor φ live?) (stays : live?' = live? ∨ live?' = none)
    (free : live?' = none → MayLack due floor φ) : Ordered due floor φ live?' := by
  obtain rfl | rfl := stays
  · exact h
  · exact h.lose (free rfl)

/-- Traffic is counted. -/
theorem grow (h : Ordered due floor φ live?) {traffic : Traffic} {entry : Entry}
    (grows : Grows live? traffic entry) (free : live? = none → MayLack due floor φ) :
    Ordered due floor φ (some entry) := by
  cases live? with
  | none =>
    have fresh (d : Way) : entry.flushed.bytes d = 0 := grows.flushed d
    refine ⟨?_, ?_, h.seen, fun due record holds => (((free rfl).idle due).free record holds).elim⟩
    · rintro _ ⟨⟩ d
      exact fresh d ▸ Nat.zero_le _
    · rintro _ ⟨⟩ d
      exact (free rfl).low d ▸ Nat.zero_le _
  | some old =>
    have same (d : Way) : entry.flushed.bytes d = old.flushed.bytes d := grows.flushed d
    have more (d : Way) : old.traffic.bytes d ≤ entry.traffic.bytes d := by
      have counted := grows.traffic d
      have top := old.traffic.bytes_le_top d
      simp only [trafficOf, Option.elim_some] at counted
      omega
    refine ⟨?_, ?_, h.seen, fun due record holds => ?_⟩
    · rintro _ ⟨⟩ d
      exact same d ▸ Nat.le_trans (h.covered old rfl d) (more d)
    · rintro _ ⟨⟩ d
      exact same d ▸ h.marked old rfl d
    · obtain ⟨_, ⟨⟩, stands⟩ := h.stands due record holds
      refine ⟨entry, rfl, fun d => ⟨(same d).trans (stands d).1, ?_⟩⟩
      exact Nat.le_trans (stands d).2 (more d)

/-- An increment leaves a record where there has to be one. -/
theorem accrue (h : Ordered due floor φ live?) {lost : Entry → Prop} {traffic : Traffic}
    (accrues : Accrues lost live? traffic live?') (free : live? = none → MayLack due floor φ)
    (free' : live?' = none → MayLack due floor φ) : Ordered due floor φ live?' := by
  cases accrues with
  | nothing zero => exact h
  | grown entry nonzero grows => exact h.grow grows free
  | lost => exact h.lose (free' rfl)

/-- A baseline is taken while no commit is due of a record that is being flushed. -/
theorem seed (h : Ordered due floor φ live?) {taken : Traffic} {entry : Entry}
    (takes : Takes live? taken entry) (free : live? = none → MayLack due floor φ)
    (idle : due → φ.Drains) : Ordered due floor φ (some entry) := by
  have flushed := takes.flushed
  have traffic := takes.traffic
  refine ⟨?_, ?_, h.seen, fun due record holds => ((idle due).free record holds).elim⟩
  · rintro _ ⟨⟩ d
    have top := entry.flushed.bytes_le_top d
    have within : flushedOf d live? ≤ trafficOf d live? := by
      cases live? with
      | none => exact Nat.le_refl 0
      | some old => exact h.covered old rfl d
    rw [traffic, Nat.le_min, flushed]
    exact ⟨Nat.add_le_add_right within _, flushed d ▸ top⟩
  · rintro _ ⟨⟩ d
    rw [flushed]
    refine Nat.le_trans ?_ (Nat.le_add_right ..)
    cases live? with
    | none => exact Nat.le_of_eq ((free rfl).low d)
    | some old => exact h.marked old rfl d

/-- A record is read. -/
theorem read (h : Ordered due floor φ live?) :
    Ordered due' floor (.observed (live?.map (·.toRecord key))) live? := by
  have same {record : Record} (holds : (Phase.observed (live?.map (·.toRecord key))).Holds record) :
      ∃ entry, live? = some entry ∧ entry.toRecord key = record := by
    obtain told | ⟨⟨⟩⟩ := holds
    exact Option.map_eq_some_iff.1 (Phase.observed.inj told)
  refine ⟨h.covered, h.marked, fun record holds => ?_, fun _ record holds => ?_⟩
  · obtain ⟨entry, live, rfl⟩ := same holds
    exact h.covered entry live
  · obtain ⟨entry, live, rfl⟩ := same holds
    exact ⟨entry, live, fun d => ⟨rfl, Nat.le_refl _⟩⟩

/-- What was read is written. -/
theorem write {record : Record} (h : Ordered due floor (.observed (some record)) live?) :
    Ordered due floor (.written record) live? := by
  refine ⟨h.covered, h.marked, fun other holds => ?_, fun due other holds => ?_⟩
  · obtain rfl : record = other := Phase.Holds.eq holds (.inr rfl)
    exact h.seen record (.inl rfl)
  · obtain rfl : record = other := Phase.Holds.eq holds (.inr rfl)
    exact h.stands due record (.inl rfl)

/-- The commit that is due lands on the record that was read. -/
theorem commit {record : Record} (h : Ordered due floor φ live?) (commits : φ.Commits record)
    (isDue : due) : Ordered due' floor .rest (live?.map (·.mark record.traffic)) := by
  have holds : φ.Holds record := commits.symm.imp And.left id
  obtain ⟨entry, rfl, stands⟩ := h.stands isDue record holds
  have marks (d : Way) : (entry.mark record.traffic).flushed.bytes d = record.traffic.bytes d :=
    congrArg (Traffic.bytes · d) (Entry.flushed_mark ..)
  refine ⟨?_, ?_, ?_, ?_⟩
  · rintro _ ⟨⟩ d
    rw [marks, Entry.traffic_mark]
    exact (stands d).2
  · rintro _ ⟨⟩ d
    calc floor d ≤ entry.flushed.bytes d := h.marked entry rfl d
      _ = record.flushed.bytes d := (stands d).1
      _ ≤ record.traffic.bytes d := h.seen record holds d
      _ = _ := (marks d).symm
  · rintro other (⟨⟨⟩⟩ | ⟨⟨⟩⟩)
  · rintro - other (⟨⟨⟩⟩ | ⟨⟨⟩⟩)

/-- Every effect keeps the order, if the commits that land were due, and a record stays where there
has to be one. -/
theorem effect (h : Ordered due floor φ live?) {fails : Error → Prop} {lost : Entry → Prop}
    {o : Occurrence} {row row' : Traffic} (effect : Effect key fails lost φ live? row o live?' row')
    (later : due' → due) (landed : o.committed? = some key → due)
    (free : live? = none → MayLack due floor φ)
    (free' : live?' = none → MayLack due' floor (φ.after key o)) :
    Ordered due' floor (φ.after key o) live?' := by
  have rests : Ordered due' floor .rest live? := h.leave trivial
  cases effect with
  | apart apart =>
    rw [Phase.after_of_apart apart]
    exact h.mono later
  | list keys =>
    unfold Phase.after
    dsimp only
    split
    · exact h.leave trivial
    · exact rests
  | glance records unlisted =>
    cases φ with
    | listed => exact (unlisted rfl).elim
    | _ => exact h.mono later
  | read records told =>
    have phase : Phase.after key .listed (.observation records) =
        .observed (live?.map (·.toRecord key)) := by
      simp [Phase.after, told]
    rw [phase]
    exact h.read
  | write traffic writes =>
    rw [Phase.after, if_pos rfl]
    obtain ⟨record, rfl, -⟩ | rfl := writes
    · exact (h.write).mono later
    · exact rests
  | writeFails traffic e writes failure =>
    rw [Phase.after, if_pos rfl]
    exact h.leave (writes.drains e)
  | commit record commits =>
    rw [Phase.after, if_pos rfl]
    exact h.commit commits (landed rfl)
  | commitFails record e commits failure =>
    rw [Phase.after, if_pos rfl]
    exact rests
  | settle purge settles =>
    rw [settles.after_settling] at free' ⊢
    refine rests.stays ?_ free'
    split
    · exact .inr rfl
    · exact .inl rfl
  | settleFails purge e settles failure =>
    rw [settles.after_settling]
    exact rests
  | take records told =>
    have drains : (Phase.after key .waiting (.taking records)).Drains := by
      rw [Phase.after, told]
      unfold Phase.ofTaken
      split
      · split <;> trivial
      · trivial
    exact (h.leave drains).lose (free' rfl)
  | leave records untold =>
    rw [Phase.after, untold]
    exact rests
  | restore traffic live?' accrues =>
    rw [Phase.after, if_pos rfl] at free' ⊢
    exact rests.accrue accrues (fun absent => ⟨fun _ => trivial, (free absent).low⟩) free'
  | restoreFails traffic e failure =>
    rw [Phase.after, if_pos rfl]
    exact rests
  | forget result live?' left =>
    rw [Phase.after, if_pos rfl] at free' ⊢
    exact rests.stays left.symm free'

end Ordered

/-! ## Stages -/

instance : DecidablePred Phase.Drains
  | .observed (some _) | .written _ => .isFalse id
  | .observed none | .waiting | .listed | .taken _ | .refused _ | .gone | .rest => .isTrue trivial

theorem begins_occurrence {β : Type} (request : Request β) (answer : β) :
    (occurrence request answer).begins = false := by
  cases request with
  | hot r => cases r <;> cases answer <;> rfl
  | cold r => cases r <;> rfl
  | _ => rfl

theorem seeded?_occurrence {β : Type} (request : Request β) (answer : β) :
    (occurrence request answer).seeded? = none := by
  cases request with
  | hot r => cases r <;> cases answer <;> rfl
  | cold r => cases r <;> rfl
  | _ => rfl

namespace Stage

variable {l : Ledger} {s : Stage} {floor : Way → Nat}

/-- A record that has been read and whose commit is still to come is there, and no baseline is
offered to it. -/
def Sheltered (final : List Occurrence) (s : Stage) : Prop :=
  ∀ key ∈ due final s.log, ¬ (s.phase key).Drains →
    s.live? key ≠ none ∧ s.log.head?.bind (·.seeded?) ≠ some key

instance (final : List Occurrence) : DecidablePred (Sheltered final) := fun s =>
  inferInstanceAs (Decidable (∀ key ∈ due final s.log, ¬ (s.phase key).Drains →
    s.live? key ≠ none ∧ s.log.head?.bind (·.seeded?) ≠ some key))

/-- The order of the markers of a key and its counter. -/
def IsOrdered (final : List Occurrence) (floor : Way → Nat) (key : Key) (s : Stage) : Prop :=
  Ordered (key ∈ due final s.log) floor (s.phase key) (s.live? key)

/-- The key is without a record only where it may be. -/
def Stands (final : List Occurrence) (floor : Way → Nat) (key : Key) (s : Stage) : Prop :=
  s.live? key = none → MayLack (key ∈ due final s.log) floor (s.phase key)

/-- A baseline is offered only where no commit is due. -/
def Unseeded (final : List Occurrence) (key : Key) (s : Stage) : Prop :=
  s.log.head?.bind (·.seeded?) = some key → key ∈ due final s.log → (s.phase key).Drains

/-- The key is left as it has to be, at a stage on the way to `final`. -/
def Spared (final : List Occurrence) (floor : Way → Nat) (key : Key) (s : Stage) : Prop :=
  s.world.hot.Scheduled ∧ (s.log <:+ final → s.Stands final floor key ∧ s.Unseeded final key)

theorem Sheltered.unseeded (h : s.Sheltered final) : s.Unseeded final key :=
  fun offered isDue => Decidable.byContradiction fun flushing => (h key isDue flushing).2 offered

theorem Sheltered.stands (h : s.Sheltered final)
    (low : s.live? key = none → ∀ d, floor d = 0) : s.Stands final floor key := fun absent =>
  ⟨fun isDue => Decidable.byContradiction fun flushing => (h key isDue flushing).1 absent,
    low absent⟩

theorem ordered_incrementAll {due : Prop} {φ : Phase} {now : Instant} {hot : Hot.Store}
    (hs : hot.Scheduled) (entries : List (Key × Traffic))
    (h : Ordered due floor φ (hot.live? now key))
    (free : hot.live? now key = none → MayLack due floor φ)
    (free' : (hot.incrementAll now entries).live? now key = none → MayLack due floor φ) :
    Ordered due floor φ ((hot.incrementAll now entries).live? now key) := by
  induction entries generalizing hot with
  | nil => exact h
  | cons entry entries ih =>
    obtain ⟨key', traffic⟩ := entry
    have scheduled := hs.increment now key' traffic
    by_cases own : key' = key
    · subst own
      have accrues := Stage.accrues_increment hs now key' traffic
      have between (absent : (hot.increment now key' traffic).live? now key' = none) :
          MayLack due floor φ := by
        obtain before | ⟨entry, -, -, brief⟩ := accrues.of_none absent
        · exact free before
        · -- a record that is lost within the batch is not there at its end
          exact free' (Hot.Store.live?_incrementAll_of_lifespan brief absent entries)
      exact ih scheduled (h.accrue accrues free between) between free'
    · have same := Hot.Store.live?_increment_of_ne hot now own traffic
      exact ih scheduled (same.symm ▸ h) (same.symm ▸ free) free'

theorem ordered_seed {due : Prop} {φ : Phase} {now : Instant} {hot : Hot.Store}
    (hs : hot.Scheduled) (baseline : Traffic) (h : Ordered due floor φ (hot.live? now key))
    (free : hot.live? now key = none → MayLack due floor φ) (idle : due → φ.Drains)
    (free' : (hot.seed now key baseline).2.live? now key = none → MayLack due floor φ) :
    Ordered due floor φ ((hot.seed now key baseline).2.live? now key) := by
  have seeded := Hot.Store.live?_seed hs now now key baseline
  split at seeded
  · rw [seeded]
    exact h.seed (takes_counter hot now key baseline _) free idle
  · rw [seeded]
    exact h.lose (free' seeded)

/-- The stage after traffic was counted. -/
theorem IsOrdered.count (hs : s.world.hot.Scheduled) (h : s.IsOrdered final floor key)
    {writes : List (Key × Traffic)} (later : .arrival writes :: s.log <:+ final)
    (free : s.Stands final floor key)
    (free' : (s.meet (.arrivals writes)).Stands final floor key) :
    (s.meet (.arrivals writes)).IsOrdered final floor key := by
  have still := (due_of_cons later rfl key).1
  exact ordered_incrementAll hs writes (h.mono still) (fun absent => (free absent).mono still) free'

/-- The stage after a baseline was offered. -/
theorem IsOrdered.offer (hs : s.world.hot.Scheduled) (h : s.IsOrdered final floor key) {key' : Key}
    {baseline : Traffic} (later : (s.meet (.seeding key' baseline)).log <:+ final)
    (free : s.Stands final floor key)
    (free' : (s.meet (.seeding key' baseline)).Stands final floor key)
    (unseeded : (s.meet (.seeding key' baseline)).Unseeded final key) :
    (s.meet (.seeding key' baseline)).IsOrdered final floor key := by
  have still := (due_of_cons later rfl key).1
  by_cases own : key' = key
  · subst own
    exact ordered_seed hs baseline (h.mono still) (fun absent => (free absent).mono still)
      (unseeded rfl) free'
  · have same : (s.meet (.seeding key' baseline)).live? key = s.live? key :=
      Hot.Store.live?_seed_of_ne hs s.world.now own baseline
    unfold IsOrdered
    rw [same]
    exact h.mono still

/-- Apart from the work the order stays, if a record stands where it has to. -/
theorem IsOrdered.attend (hs : s.world.hot.Scheduled) {occasion : Occasion}
    (h : s.IsOrdered final floor key) (later : (s.attend l occasion).log <:+ final)
    (free : s.Stands final floor key) (free' : (s.attend l occasion).Stands final floor key)
    (unseeded : (s.attend l occasion).Unseeded final key) :
    (s.attend l occasion).IsOrdered final floor key := by
  by_cases seeds : occasion.Seeds
  · cases occasion with
    | incident incident =>
      cases incident with
      | seeding key' baseline => exact h.offer hs later free free' unseeded
      | _ => exact seeds.elim
    | _ => exact seeds.elim
  · obtain ⟨writes, side, metrics, eq⟩ | ⟨log, -, stays⟩ := attend_cases key hs seeds
    · rw [eq] at later free' ⊢
      exact h.count hs later free free'
    · unfold IsOrdered Stands phase at *
      rw [log] at free' ⊢
      exact Ordered.stays h stays free'

/-- The work under way keeps the order as well. -/
theorem IsOrdered.answer {failure? : Option Error} {β : Type} {request : Request β}
    (h : s.IsOrdered final floor key) (effect : s.Affects key failure? request)
    (later : (Stage.answer failure? request s).2.log <:+ final) (free : s.Stands final floor key)
    (free' : (Stage.answer failure? request s).2.Stands final floor key) :
    (Stage.answer failure? request s).2.IsOrdered final floor key := by
  obtain ⟨still, landed⟩ := due_of_cons later (begins_occurrence request _) key
  exact Ordered.effect h effect still landed free free'

/-- Apart from the work no record is told. -/
theorem unreset_attend {occasion : Occasion} (before : ∀ o ∈ s.log, o.Unreset key) :
    ∀ o ∈ (s.attend l occasion).log, o.Unreset key := by
  obtain same | ⟨o, log, outside⟩ := log_attend l s occasion
  · exact same ▸ before
  · rw [log]
    refine List.forall_mem_cons.2 ⟨?_, before⟩
    cases o with
    | observation => exact outside.elim
    | _ => trivial

/-- A snapshot tells the records that are there, so none that was reset. -/
theorem unreset_answer (covered : ∀ entry, s.live? key = some entry →
      ∀ d, entry.flushed.bytes d ≤ entry.traffic.bytes d) (failure? : Option Error) {β : Type}
    (request : Request β) :
    (occurrence request (Stage.answer failure? request s).1).Unreset key := by
  cases request with
  | hot r =>
    cases r with
    | snapshot keys =>
      cases failure? with
      | some e => trivial
      | none =>
        intro record told
        obtain ⟨entry, live, rfl⟩ := Option.map_eq_some_iff.1 (mem_zip_map.1 told).2.symm
        exact not_reset_of_covered (covered entry live) key
    | activeKeys | takeBucket => cases failure? <;> trivial
    | _ => trivial
  | cold r => cases r <;> trivial
  | _ => trivial

end Stage

end Compaction

/-! ## Runs -/

namespace Station

open Compaction Program

variable {l : Ledger} {key : Key} {final : List Occurrence} {floor : Way → Nat} {s : Station}
  {schedule : List Choice}

theorem upkeep_ordered : Upkeep l key (fun _ => True) (Stage.Spared final floor key)
    (fun s => s.log <:+ final → s.IsOrdered final floor key ∧ ∀ o ∈ s.log, o.Unreset key) where
  scheduled good := good.1
  begun {s} isCancelled good := by
    refine ⟨good.1, fun later => ⟨fun absent => ⟨fun _ => trivial, ?_⟩, nofun⟩⟩
    exact ((good.2 ((List.suffix_cons _ _).trans later)).1 absent).low
  apart {s} failure? β request apart good := by
    refine ⟨Stage.scheduled_answer_world good.1 failure? request, fun later => ⟨?_, fun told => ?_⟩⟩
    · have phase : (Stage.answer failure? request s).2.phase key = s.phase key :=
        Phase.after_of_apart (Stage.occurrence_of_apart apart) _
      unfold Stage.Stands
      rw [(Stage.answer_of_apart good.1 failure? apart).1, phase]
      intro absent
      refine ((good.2 ((List.suffix_cons _ _).trans later)).1 absent).mono ?_
      exact (due_of_cons later (begins_occurrence request _) key).1
    · exact nomatch (seeded?_occurrence request _).symm.trans told
  attends {s occasion} _ held good good' later := by
    have earlier := (log_suffix_attend s occasion).trans later
    obtain ⟨ordered, unreset⟩ := held earlier
    obtain ⟨stands, unseeded⟩ := good'.2 later
    exact ⟨ordered.attend good.1 later (good.2 earlier).1 stands unseeded,
      Stage.unreset_attend unreset⟩
  begins isCancelled _ held later := by
    obtain ⟨ordered, unreset⟩ := held ((List.suffix_cons _ _).trans later)
    exact ⟨ordered.leave (ψ := .waiting) trivial, List.forall_mem_cons.2 ⟨trivial, unreset⟩⟩
  answers {_ failure?} _ s β request _ effect held good good' later := by
    have earlier := (List.suffix_cons _ _).trans later
    obtain ⟨ordered, unreset⟩ := held earlier
    refine ⟨ordered.answer effect later (good.2 earlier).1 (good'.2 later).1, ?_⟩
    exact List.forall_mem_cons.2 ⟨Stage.unreset_answer ordered.covered failure? request, unreset⟩

/-- The order holds at every moment of a run, if no record is disturbed while it is flushed. -/
theorem ordered_play (hs : s.world.hot.Scheduled)
    (working : Invariant.Working (protocol key .any) (Stage.phase key) (Ended False) s)
    (ordered : s.IsOrdered final floor key) (unreset : ∀ o ∈ s.log, o.Unreset key)
    (sheltered : s.Throughout l (Stage.Sheltered final) schedule)
    (low : s.Throughout l (fun s => s.live? key = none → ∀ d, floor d = 0) schedule)
    (later : (s.play l schedule).log <:+ final) :
    (s.play l schedule).IsOrdered final floor key ∧
      ∀ o ∈ (s.play l schedule).log, o.Unreset key := by
  have spared : s.Throughout l (Stage.Spared final floor key) schedule := by
    refine ((throughout_scheduled hs schedule).and (sheltered.and low)).mono ?_
    rintro t ⟨scheduled, sheltered, low⟩
    exact ⟨scheduled, fun _ => ⟨sheltered.stands low, sheltered.unseeded⟩⟩
  have kept := upkeep_ordered.invariant.play (fun _ _ => trivial) spared
    (fun _ => ⟨ordered, unreset⟩) working
  exact kept.1 later

/-- No record that was read so far was reset, and the markers of a key are in order. -/
theorem ordered_of_empty {lifespan : Int} {now : Instant}
    (sheltered : (empty lifespan now).Throughout l (Stage.Sheltered final) schedule)
    (later : ((empty lifespan now).play l schedule).log <:+ final) (key : Key) :
    ((empty lifespan now).play l schedule).IsOrdered final (fun _ => 0) key ∧
      ∀ o ∈ ((empty lifespan now).play l schedule).log, o.Unreset key := by
  have absent : (empty lifespan now).live? key = none := by
    simp [empty, Stage.live?, Hot.Store.live?]
  have ordered : (empty lifespan now).IsOrdered final (fun _ => 0) key := by
    unfold Stage.IsOrdered
    rw [absent]
    exact .of_none trivial
  refine ordered_play (Hot.Store.scheduled_empty lifespan) ended_rest ordered ?_ sheltered
    (.mono (fun _ _ _ _ => rfl) sheltered) later
  exact fun _ member => absurd member List.not_mem_nil

/-- Markers do not go down as long as the record stays. -/
theorem flushed_le {lifespan : Int} {now : Instant} {before during : List Choice}
    (sheltered : (empty lifespan now).Throughout l (Stage.Sheltered final) (before ++ during))
    (later : ((empty lifespan now).play l (before ++ during)).log <:+ final)
    (stays : ((empty lifespan now).play l before).Throughout l (fun s => s.live? key ≠ none) during)
    {old new : Hot.Entry} (first : ((empty lifespan now).play l before).live? key = some old)
    (last : ((empty lifespan now).play l (before ++ during)).live? key = some new) (d : Way) :
    old.flushed.bytes d ≤ new.flushed.bytes d := by
  rw [play_append] at later last
  obtain ⟨early, late⟩ := sheltered.split
  obtain ⟨ordered, unreset⟩ := ordered_of_empty early ((log_suffix_play _ during).trans later) key
  have working := working_play (l := l) lifespan now before key
  have scheduled := (throughout_scheduled (l := l) (s := empty lifespan now)
    (Hot.Store.scheduled_empty lifespan) before).last
  generalize (empty lifespan now).play l before = s at *
  have marked : s.IsOrdered final (old.flushed.bytes ·) key := by
    refine ⟨ordered.covered, fun entry live d => ?_, ordered.seen, ordered.stands⟩
    obtain rfl : old = entry := Option.some.inj (first.symm.trans live)
    exact Nat.le_refl _
  have kept := ordered_play scheduled working marked unreset late
    (.mono (fun _ lives absent => absurd absent lives) stays) later
  exact kept.1.marked new last d

/-! ## Reports -/

/-- No reset was reported, and the work under way will report none if it reads none. -/
structure Reports (s : Station) : Prop where
  told : s.memory.2.stats.Unreset
  work : ∀ work, s.work? = some work →
    Delivers TellsUnreset work fun memory => memory.2.stats.Unreset

/-- No record that was told so far was reset. -/
def IsUnreset (log : List Occurrence) : Prop := ∀ o ∈ log, ∀ key, o.Unreset key

namespace Reports

theorem begin (h : s.Reports) (isCancelled : Bool) {work : Procedure Flusher.Memory}
    (delivers : Delivers TellsUnreset work fun memory => memory.2.stats.Unreset) :
    (s.begin isCancelled work).Reports := by
  unfold Station.begin
  split
  · exact h
  · refine ⟨h.told, ?_⟩
    rintro _ ⟨⟩
    exact delivers

theorem drain (h : s.Reports) (bucket : Bucket) : (s.drain l bucket).Reports :=
  h.begin _ (.map _ (delivers_drain h.told bucket))

theorem move (h : s.Reports) {path : List Nat} {failure? : Option Error}
    (unreset : IsUnreset (s.move path failure?).log) : (s.move path failure?).Reports := by
  unfold Station.move at unreset ⊢
  split at unreset
  · exact h
  · next work busy =>
    split at unreset
    · next memory ended =>
      have told := (h.work work busy).told (eq_pure_of_result? ended)
      exact ⟨told, nofun⟩
    · refine ⟨h.told, ?_⟩
      rintro _ ⟨⟩
      refine Delivers.move (fun s => IsUnreset s.log) ?_ (h.work work busy) unreset
      exact fun request s unreset => unreset _ List.mem_cons_self

theorem step (h : s.Reports) {choice : Choice} (unreset : IsUnreset (s.step l choice).log) :
    (s.step l choice).Reports := by
  cases choice with
  | occasion occasion => exact ⟨h.told, h.work⟩
  | cycle isCancelled => exact h.begin _ (.map _ (delivers_run h.told))
  | round isCancelled => exact h.begin _ (.map _ (delivers_runOnce h.told))
  | drain bucket => exact h.drain bucket
  | trim bucket =>
    unfold Station.step
    dsimp only
    split
    · exact h.drain bucket
    · exact h
  | move path failure? => exact h.move unreset

/-- As long as no record is read that was reset, no reset is reported. -/
theorem play (h : s.Reports) {schedule : List Choice}
    (unreset : IsUnreset (s.play l schedule).log) : (s.play l schedule).Reports := by
  induction schedule generalizing s with
  | nil => exact h
  | cons choice schedule ih =>
    have sofar : IsUnreset (s.step l choice).log := fun o member =>
      unreset o ((log_suffix_play (s.step l choice) schedule).subset member)
    exact ih (h.step sofar) unreset

end Reports

/-! ## Order -/

/-- At every moment of a run from empty stores in which no record is lost, and none is offered a
baseline, between its reading by a cycle and the commit of its markers: the markers of each record
are within its counter, and they have not gone down while the record has lived; no record that was
read was reset, and no cycle has reported that it rebased a key. -/
theorem markers_in_order {lifespan : Int} {now : Instant} {schedule : List Choice} {s : Station}
    (reached : (empty lifespan now).play l schedule = s)
    (sheltered : (empty lifespan now).Throughout l (Stage.Sheltered s.log) schedule) :
    (∀ key entry, s.live? key = some entry →
      ∀ d, entry.flushed.bytes d ≤ entry.traffic.bytes d) ∧
    (∀ before during, before ++ during = schedule → ∀ key old new,
      ((empty lifespan now).play l before).live? key = some old → s.live? key = some new →
      ((empty lifespan now).play l before).Throughout l (fun t => t.live? key ≠ none) during →
      ∀ d, old.flushed.bytes d ≤ new.flushed.bytes d) ∧
    IsUnreset s.log ∧ s.memory.2.stats.Unreset := by
  subst reached
  have ordered := ordered_of_empty sheltered List.suffix_rfl
  have unreset : IsUnreset ((empty lifespan now).play l schedule).log :=
    fun o member key => (ordered key).2 o member
  refine ⟨fun key => (ordered key).1.covered, ?_, unreset, ?_⟩
  · rintro before during rfl key old new first last stays
    exact flushed_le sheltered List.suffix_rfl stays first last
  · have idle : (empty lifespan now).Reports := ⟨nofun, nofun⟩
    exact (idle.play unreset).told

/-- Traffic is counted between a write and its commit, so five bytes are left for the next cycle.
Its commit fails, and the cycle after that marks them. -/
theorem markers_after_failed_commit :
    let key : Key := ⟨⟨default, 474804⟩, 1, .node, 1⟩
    let c : Settings := { zone := default, retention := 86400000000000, config := {} }
    let l : Ledger := {
      config := {}, zone := default, compaction := c, quota := ⟨"traffic", 0⟩
      query := ⟨default, 86400000000000, {}, .passthrough⟩, alert := ⟨"traffic", [], 0⟩ }
    let before : List Choice :=
      .occasion (.incident (.arrival key (.ofNats 10 10))) ::
        .occasion (.incident (.seeding key (.ofNats 100 100))) :: .cycle false :: (Choice.moves 8 ++
        .occasion (.incident (.arrival key (.ofNats 5 0))) :: Choice.moves 7)
    let during : List Choice :=
      .cycle false :: (Choice.moves 8 ++ .move [] (some (.unavailable .hot "timeout")) ::
        (Choice.moves 8 ++ .cycle false :: Choice.moves 15))
    let t := (empty 10800000000000 (.ofSeconds 1709266200)).play l before
    let s := (empty 10800000000000 (.ofSeconds 1709266200)).play l (before ++ during)
    (t.live? key).map (fun e => (e.flushed, e.traffic)) = some (.ofNats 110 110, .ofNats 115 110) ∧
      (s.live? key).map (fun e => (e.flushed, e.traffic)) =
        some (.ofNats 115 110, .ofNats 115 110) ∧
      s.memory.2.stats.completed = 3 ∧ s.memory.2.stats.keyFailures = 1 ∧
      (empty 10800000000000 (.ofSeconds 1709266200)).Throughout l (Stage.Sheltered s.log)
        (before ++ during) ∧
      (∀ old new, t.live? key = some old → s.live? key = some new →
        ∀ d, old.flushed.bytes d ≤ new.flushed.bytes d) ∧
      s.memory.2.stats.Unreset := by
  intro key c l before during t s
  have sheltered : (empty 10800000000000 (.ofSeconds 1709266200)).Throughout l
      (Stage.Sheltered s.log) (before ++ during) := by decide +kernel
  have stays : t.Throughout l (fun u => u.live? key ≠ none) during := by decide +kernel
  obtain ⟨-, rises, -, unreset⟩ := markers_in_order rfl sheltered
  refine ⟨by decide +kernel, by decide +kernel, by decide +kernel, by decide +kernel, sheltered, ?_,
    unreset⟩
  exact fun old new first last => rises before during rfl key old new first last stays

end Station

end Metering

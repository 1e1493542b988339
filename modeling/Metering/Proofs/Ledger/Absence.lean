import Metering.Proofs.Ledger.Window

/-!
# Keys without a record

A key that has no record gets one only where traffic is counted for it, from outside or by a drain
that counts again what it could not write, or where it is seeded. As long as none of that happens no
work finds the key. Work that read the record while there was one may still write what it read, but
work that begins later has nothing to write.

Results:
1. `Stage.hot_attend`: an occasion is a list of acts in the hot store.
2. `Lacks.act`: an act that neither counts nor seeds makes no record.
3. `absent_of_play`: what the log tells, and does not tell, of a key without a record.
-/

namespace Metering

open Hot (Act)

/-! ## Stores -/

namespace Hot.Store

/-- No record stands under `key`, and where it is `gone` it is not active either. -/
structure Lacks (s : Store) (key : Key) (gone : Prop) : Prop where
  records : s.records[key]? = none
  inactive : gone → key ∉ s.active

variable {s : Store} {now : Instant} {key : Key} {gone : Prop}

/-- An act that neither counts nor seeds makes no record. -/
theorem Lacks.act (hs : s.Scheduled) (h : s.Lacks key gone) {a : Act}
    (increments : ¬ a.Increments key) (seeds : ¬ a.Seeds key) : (s.act now a).Lacks key gone := by
  constructor
  · rw [Option.eq_none_iff_forall_ne_some]
    intro entry found
    cases becomes_of_records hs found with
    | kept _ _ _ before _ => exact nomatch h.records.symm.trans before
    | grown nonzero => exact increments ⟨rfl, nonzero⟩
    | marked live => exact nomatch h.records.symm.trans (live?_eq_some.1 live).1
    | seeded => exact seeds rfl
  · intro absent member
    rcases (mem_active_act hs).1 member with again | ⟨-, before, -⟩
    · exact increments again
    · exact h.inactive absent before

theorem Lacks.acts (hs : s.Scheduled) (h : s.Lacks key gone) {acts : List Act}
    (still : ∀ a ∈ acts, ¬ (a.Increments key ∨ a.Seeds key)) :
    (acts.foldl (·.act now ·) s).Lacks key gone := by
  induction acts generalizing s with
  | nil => exact h
  | cons a acts ih =>
    obtain ⟨first, rest⟩ := List.forall_mem_cons.1 still
    obtain ⟨increments, seeds⟩ := not_or.1 first
    exact ih (hs.act now a) (h.act hs increments seeds) rest

theorem Lacks.live? (h : s.Lacks key gone) (now : Instant) : s.live? now key = none := by
  rw [Store.live?, h.records]
  rfl

/-- No enumeration of a bucket tells the key. -/
theorem Lacks.key_ne_of_mem (hs : s.Scheduled) (h : s.Lacks key gone) {bucket : Bucket} {r : Record}
    (told : r ∈ (s.expire now).recordsOf bucket) : r.key ≠ key := by
  rintro rfl
  obtain ⟨key, -, told⟩ := List.mem_filterMap.1 told
  rw [records_expire hs] at told
  obtain ⟨entry, live, rfl⟩ := Option.map_eq_some_iff.1 told
  exact nomatch (h.live? now).symm.trans live

theorem not_mem_activeKeys (inactive : key ∉ s.active) (now : Instant) (limit : Nat) :
    key ∉ (s.activeKeys now limit).1 := by
  intro listed
  have member := Std.ExtTreeSet.mem_toList.1 (List.mem_of_mem_take listed)
  exact inactive (mem_active_expire.1 member).2

end Hot.Store

/-! ## Logs -/

namespace Compaction

namespace Occurrence

variable (key : Key)

/-- There may be a record of `key` now. -/
def Renews : Occurrence → Prop
  | .arrival entries => ∃ entry ∈ entries, entry.1 = key ∧ entry.2 ≠ 0
  | .seeding key' _ => key' = key
  | .restoring key' traffic result => key' = key ∧ traffic ≠ 0 ∧ result = .ok ()
  | _ => False

instance : DecidablePred (Renews key)
  | .arrival entries => inferInstanceAs (Decidable (∃ entry ∈ entries, entry.1 = key ∧ entry.2 ≠ 0))
  | .seeding key' _ => inferInstanceAs (Decidable (key' = key))
  | .restoring key' traffic result =>
    inferInstanceAs (Decidable (key' = key ∧ traffic ≠ 0 ∧ result = .ok ()))
  | .beginning | .listing _ | .observation _ | .write .. | .commit .. | .settling .. | .taking _
  | .forgetting .. | .other => .isFalse id

/-- A record of `key` is told. -/
def Finds : Occurrence → Prop
  | .observation records => ∃ record, records.lookup key = some (some record)
  | .taking records => ∃ record ∈ records, record.key = key
  | _ => False

/-- `key` is told to be active. -/
def Lists : Occurrence → Prop
  | .listing keys => key ∈ keys
  | _ => False

/-- Something was to be added to the row of `key`. -/
def Writes : Occurrence → Prop
  | .write row _ _ => row = .ofKey key
  | _ => False

/-- Traffic was counted, or a baseline offered, from outside. -/
def IsOutside : Occurrence → Prop
  | .arrival _ | .seeding _ _ => True
  | _ => False

/-- What comes from outside finds, lists and writes nothing. -/
theorem IsOutside.not_work {o : Occurrence} (outside : o.IsOutside) (key : Key) :
    ¬ o.Finds key ∧ ¬ o.Lists key ∧ ¬ o.Writes key := by
  cases o with
  | arrival | seeding => exact ⟨id, id, id⟩
  | _ => exact outside.elim

end Occurrence

/-- What a log tells beyond an earlier one. -/
def since (base log : List Occurrence) : List Occurrence := log.take (log.length - base.length)

variable {base log : List Occurrence} {key : Key}

theorem since_append (news base : List Occurrence) : since base (news ++ base) = news := by
  simp [since]

theorem since_cons (later : base <:+ log) (o : Occurrence) :
    since base (o :: log) = o :: since base log := by
  obtain ⟨news, rfl⟩ := later
  rw [← List.cons_append, since_append, since_append]

theorem mem_since_cons {o o' : Occurrence} (h : o' ∈ since base (o :: log)) :
    o' = o ∨ o' ∈ since base log := by
  unfold since at h ⊢
  rw [List.length_cons] at h
  by_cases longer : base.length ≤ log.length
  · rw [Nat.sub_add_comm longer, List.take_succ_cons] at h
    exact List.mem_cons.1 h
  · rw [show log.length + 1 - base.length = 0 by omega, List.take_zero] at h
    cases h

/-- What was news before is news after more has happened. -/
theorem since_subset {log' : List Occurrence} (later : log <:+ log') :
    since base log ⊆ since base log' := by
  obtain ⟨news, rfl⟩ := later
  intro o member
  unfold since at member ⊢
  rw [List.length_append]
  by_cases longer : base.length ≤ log.length
  · rw [Nat.add_sub_assoc longer, List.take_length_add_append]
    exact List.mem_append_right _ member
  · rw [Nat.sub_eq_zero_of_le (Nat.le_of_not_le longer), List.take_zero] at member
    cases member

/-- Nothing was found of a key that was absent, and work that began since then wrote nothing. -/
structure Quiet (key : Key) (gone : Prop) (news : List Occurrence) : Prop where
  unfound : ∀ o ∈ news, ¬ o.Finds key
  unlisted : gone → ∀ o ∈ news, ¬ o.Lists key
  unwritten : ∀ newer older, news = newer ++ .beginning :: older → ∀ o ∈ newer, ¬ o.Writes key

theorem quiet_nil (key : Key) (gone : Prop) : Quiet key gone [] := by
  refine ⟨?_, fun _ => ?_, fun newer older same => ?_⟩
  · simp
  · simp
  · simp at same

theorem Quiet.cons {gone : Prop} {news : List Occurrence} (h : Quiet key gone news) {o : Occurrence}
    (unfound : ¬ o.Finds key) (unlisted : gone → ¬ o.Lists key)
    (unwritten : .beginning ∈ news → ¬ o.Writes key) : Quiet key gone (o :: news) := by
  refine ⟨List.forall_mem_cons.2 ⟨unfound, h.unfound⟩,
    fun absent => List.forall_mem_cons.2 ⟨unlisted absent, h.unlisted absent⟩, ?_⟩
  intro newer older same
  cases newer with
  | nil => simp
  | cons newest newer =>
    obtain ⟨rfl, rfl⟩ := List.cons.inj same
    refine List.forall_mem_cons.2 ⟨?_, h.unwritten newer older rfl⟩
    exact unwritten (List.mem_append_right _ List.mem_cons_self)

/-! ## Phases -/

/-- A key of which nothing is found stays without a record to be flushed or drained. -/
theorem Phase.IsPlain.after {φ : Phase} (plain : φ.IsPlain) {o : Occurrence}
    (unfound : ¬ o.Finds key) : (φ.after key o).IsPlain := by
  cases o with
  | beginning => exact .waiting
  | listing keys =>
    cases plain with
    | waiting =>
      unfold Phase.after
      dsimp only
      split
      · exact .listed
      · exact .rest
    | listed => exact .listed
    | missing => exact .missing
    | rest => exact .rest
  | observation records =>
    cases plain with
    | listed =>
      unfold Phase.after
      dsimp only
      split
      · next record? _ told =>
        cases record? with
        | none => exact .missing
        | some record => exact (unfound ⟨record, told⟩).elim
      · exact .listed
    | _ => constructor
  | write row traffic result =>
    unfold Phase.after
    dsimp only
    split
    · cases plain <;> constructor
    · exact plain
  | settling key' purge result =>
    cases plain with
    | missing =>
      unfold Phase.after
      dsimp only
      split
      · exact .rest
      · exact .missing
    | _ => constructor
  | taking records =>
    cases plain with
    | waiting =>
      have none : records.find? (·.key = key) = none := by
        rw [List.find?_eq_none]
        exact fun record member own => unfound ⟨record, member, of_decide_eq_true own⟩
      rw [Phase.after, none]
      exact .rest
    | _ => constructor
  | commit | restoring | forgetting =>
    unfold Phase.after
    dsimp only
    split
    · exact .rest
    · exact plain
  | arrival | seeding | other => exact plain

/-- Nothing is to be written where no record was found. -/
theorem Phase.IsPlain.not_writes {φ : Phase} (plain : φ.IsPlain) (traffic : Traffic) :
    ¬ φ.Writes traffic := by
  cases plain <;> rintro (⟨record, ⟨⟩, -⟩ | ⟨⟨⟩⟩)

/-! ## Stages -/

theorem Occurrence.Apart.not_renews {o : Occurrence} (apart : o.Apart key) : ¬ o.Renews key := by
  cases o with
  | restoring key' traffic result => exact fun renews => apart renews.1
  | arrival | seeding => exact apart.elim
  | _ => exact id

namespace Stage

variable {l : Ledger} {s : Stage} {gone : Prop}

/-- The acts of an occasion in the hot store. -/
def acts (l : Ledger) (s : Stage) : Occasion → List Act
  | .incident (.arrival key traffic) => (Hot.Request.increment key traffic).acts
  | .incident (.arrivals entries) => (Hot.Request.incrementAll entries).acts
  | .incident (.seeding key baseline) => (Hot.Request.seed key baseline).acts
  | .incident (.removal key) => (Hot.Request.forget key).acts
  | .incident (.passing _) | .incident .cancellation | .retirement _ _ => []
  | .report lag e => (Hot.Request.incrementAll (s.writes l lag [e])).acts
  | .reports lag entries => (Hot.Request.incrementAll (s.writes l lag entries)).acts
  | .clearing bucket => (Hot.Request.takeBucket bucket).acts
  | .sweep => Hot.Request.activeBuckets.acts

theorem hot_attend (l : Ledger) (s : Stage) (occasion : Occasion) :
    (s.attend l occasion).world.hot =
      (s.acts l occasion).foldl (·.act s.world.now ·) s.world.hot := by
  have calls {α : Type} (request : Hot.Request α) :
      (s.world.hot.answer s.world.now request).2 =
        request.acts.foldl (·.act s.world.now ·) s.world.hot := Hot.Store.answer_snd ..
  cases occasion with
  | incident incident =>
    cases incident with
    | arrivals entries => exact calls (.incrementAll entries)
    | _ => rfl
  | report lag e =>
    obtain ⟨side, metrics, eq⟩ := s.attend_report l lag e
    rw [eq]
    exact calls (.incrementAll (s.writes l lag [e]))
  | reports lag entries =>
    obtain ⟨side, metrics, eq⟩ := s.attend_reports l lag entries
    rw [eq]
    exact calls (.incrementAll (s.writes l lag entries))
  | _ => rfl

/-- The acts of a request in the hot store, none if it fails. -/
def actsOf (failure? : Option Error) {β : Type} (request : Request β) : List Act :=
  match failure?, request with
  | none, .hot r => r.acts
  | _, _ => []

theorem hot_answer (failure? : Option Error) {β : Type} (request : Request β) (s : Stage) :
    (Stage.answer failure? request s).2.world.hot =
      (actsOf failure? request).foldl (·.act s.world.now ·) s.world.hot := by
  cases request with
  | hot r =>
    cases failure? with
    | none => exact Hot.Store.answer_snd ..
    | some e => rfl
  | _ => cases failure? <;> rfl

/-- Where an occasion counts or seeds the log tells so. -/
theorem renews_attend {occasion : Occasion} {a : Act} (member : a ∈ s.acts l occasion)
    (renews : a.Increments key ∨ a.Seeds key) :
    ∃ o, (s.attend l occasion).log = o :: s.log ∧ o.Renews key := by
  have arrives {entries : List (Key × Traffic)}
      (member : a ∈ (Hot.Request.incrementAll entries).acts) :
      (Occurrence.arrival entries).Renews key := by
    obtain ⟨entry, listed, rfl⟩ := List.mem_map.1 member
    exact ⟨entry, listed, renews.resolve_right id⟩
  cases occasion with
  | incident incident =>
    cases incident with
    | arrival key' traffic =>
      obtain rfl := List.mem_singleton.1 member
      exact ⟨_, rfl, (key', traffic), List.mem_singleton.2 rfl, renews.resolve_right id⟩
    | arrivals entries => exact ⟨_, rfl, arrives member⟩
    | seeding key' baseline =>
      obtain rfl := List.mem_singleton.1 member
      exact ⟨_, rfl, renews.resolve_left id⟩
    | removal key' =>
      obtain rfl := List.mem_singleton.1 member
      exact (renews.elim id id).elim
    | passing | cancellation => cases member
  | report lag e => exact ⟨_, rfl, arrives member⟩
  | reports lag entries => exact ⟨_, rfl, arrives member⟩
  | clearing | sweep =>
    obtain rfl := List.mem_singleton.1 member
    exact (renews.elim id id).elim
  | retirement => cases member

/-- The work counts a key only where it restores it. -/
theorem renews_answer {failure? : Option Error} {β : Type} {request : Request β} {φ : Phase}
    (allowed : Allows key .any request φ) {a : Act} (member : a ∈ actsOf failure? request)
    (renews : a.Increments key ∨ a.Seeds key) :
    (occurrence request (Stage.answer failure? request s).1).Renews key := by
  cases failure? with
  | some e => cases member
  | none =>
    cases request with
    | hot r =>
      cases r with
      | increment key' traffic =>
        obtain rfl := List.mem_singleton.1 member
        obtain ⟨own, nonzero⟩ := renews.resolve_right id
        exact ⟨own, nonzero, rfl⟩
      | incrementAll | seed | read | readBucket | clearBucket => exact allowed.elim
      | _ =>
        obtain rfl := List.mem_singleton.1 member
        exact (renews.elim id id).elim
    | _ => cases member

/-- Apart from the work only what is counted and what is offered is told. -/
theorem log_attend (l : Ledger) (s : Stage) (occasion : Occasion) :
    (s.attend l occasion).log = s.log ∨
      ∃ o, (s.attend l occasion).log = o :: s.log ∧ o.IsOutside := by
  cases occasion with
  | incident incident =>
    cases incident with
    | arrival | arrivals | seeding => exact .inr ⟨_, rfl, trivial⟩
    | removal | passing | cancellation => exact .inl rfl
  | report | reports => exact .inr ⟨_, rfl, trivial⟩
  | clearing | retirement | sweep => exact .inl rfl

/-- A key without a record is not found. -/
theorem not_finds_answer (hs : s.world.hot.Scheduled) (lacks : s.world.hot.Lacks key gone)
    (failure? : Option Error) {β : Type} (request : Request β) :
    ¬ (occurrence request (Stage.answer failure? request s).1).Finds key := by
  cases request with
  | hot r =>
    cases r with
    | snapshot keys =>
      cases failure? with
      | some e => exact id
      | none =>
        rintro ⟨record, told⟩
        have none := lookup_zip_map.symm.trans told
        split at none
        · rw [lacks.live? s.world.now] at none
          cases none
        · cases none
    | takeBucket bucket =>
      cases failure? with
      | some e => exact id
      | none =>
        rintro ⟨record, told, own⟩
        exact lacks.key_ne_of_mem hs told own
    | activeKeys => cases failure? <;> exact id
    | _ => exact id
  | cold r => cases r <;> exact id
  | _ => exact id

/-- A key that is not active is not listed. -/
theorem not_lists_answer (inactive : key ∉ s.world.hot.active) (failure? : Option Error)
    {β : Type} (request : Request β) :
    ¬ (occurrence request (Stage.answer failure? request s).1).Lists key := by
  cases request with
  | hot r =>
    cases r with
    | activeKeys limit =>
      cases failure? with
      | some e => exact id
      | none => exact Hot.Store.not_mem_activeKeys inactive s.world.now limit
    | snapshot | takeBucket => cases failure? <;> exact id
    | _ => exact id
  | cold r => cases r <;> exact id
  | _ => exact id

theorem not_writes_answer {failure? : Option Error} {β : Type} {request : Request β}
    (allowed : Allows key .any request (s.phase key)) (plain : (s.phase key).IsPlain) :
    ¬ (occurrence request (Stage.answer failure? request s).1).Writes key := by
  cases request with
  | hot r =>
    cases r with
    | activeKeys | snapshot | takeBucket => cases failure? <;> exact id
    | _ => exact id
  | cold r =>
    cases r with
    | accumulate target bucket traffic =>
      exact fun own => plain.not_writes traffic (allowed own)
    | _ => exact id
  | _ => exact id

/-- Since `base` the key has had no record. -/
structure Absent (base : List Occurrence) (key : Key) (gone : Prop) (s : Stage) : Prop where
  later : base <:+ s.log
  lacks : s.world.hot.Lacks key gone
  quiet : Quiet key gone (since base s.log)
  plain : .beginning ∈ since base s.log → (s.phase key).IsPlain

theorem absent_of_lacks (lacks : s.world.hot.Lacks key gone) : Absent s.log key gone s := by
  have nothing : since s.log s.log = [] := since_append [] s.log
  refine ⟨List.suffix_rfl, lacks, nothing ▸ quiet_nil key gone, fun member => ?_⟩
  rw [nothing] at member
  cases member

/-- One more occurrence, which does not find the key. -/
theorem Absent.cons (h : Absent base key gone s) {s' : Stage} {o : Occurrence}
    (log : s'.log = o :: s.log) (lacks : s'.world.hot.Lacks key gone) (unfound : ¬ o.Finds key)
    (unlisted : gone → ¬ o.Lists key) (unwritten : (s.phase key).IsPlain → ¬ o.Writes key) :
    Absent base key gone s' := by
  have news : since base s'.log = o :: since base s.log := log ▸ since_cons h.later o
  have phase : s'.phase key = (s.phase key).after key o := by rw [Stage.phase, log]; rfl
  refine ⟨log ▸ h.later.trans (List.suffix_cons _ _), lacks, ?_, fun begun => ?_⟩
  · rw [news]
    exact h.quiet.cons unfound unlisted fun begun => unwritten (h.plain begun)
  · rw [news] at begun
    rw [phase]
    rcases List.mem_cons.1 begun with rfl | before
    · exact .waiting
    · exact (h.plain before).after unfound

end Stage

/-- The key has not been counted or seeded since `base`. -/
def Unrenewed (base : List Occurrence) (key : Key) (s : Stage) : Prop :=
  s.world.hot.Scheduled ∧ ∀ o ∈ since base s.log, ¬ o.Renews key

end Compaction

/-! ## Stations -/

namespace Station

open Compaction

variable {l : Ledger} {key : Key} {base : List Occurrence} {gone : Prop}

/-- A key without a record stays without one for as long as it is not counted or seeded. -/
theorem absent_upkeep : Upkeep l key (fun _ => True) (Unrenewed base key)
    (Stage.Absent base key gone) where
  scheduled fine := fine.1
  begun isCancelled fine := by
    refine ⟨fine.1, fun o member => ?_⟩
    rcases mem_since_cons member with rfl | before
    · exact id
    · exact fine.2 o before
  apart {s} failure? β request apart fine := by
    refine ⟨Stage.scheduled_answer_world fine.1 failure? request, fun o member => ?_⟩
    rcases mem_since_cons member with rfl | before
    · exact (Stage.occurrence_of_apart apart).not_renews
    · exact fine.2 o before
  attends {s occasion} _ held fine fine' := by
    have lacks : (s.attend l occasion).world.hot.Lacks key gone := by
      rw [Stage.hot_attend]
      refine held.lacks.acts fine.1 fun a member renews => ?_
      obtain ⟨o, log, renews⟩ := Stage.renews_attend member renews
      refine fine'.2 o ?_ renews
      rw [log, since_cons held.later]
      exact List.mem_cons_self
    obtain same | ⟨o, log, outside⟩ := Stage.log_attend l s occasion
    · refine ⟨same ▸ held.later, lacks, same ▸ held.quiet, fun begun => ?_⟩
      rw [Stage.phase_attend]
      exact held.plain (same ▸ begun)
    · obtain ⟨unfound, unlisted, unwritten⟩ := outside.not_work key
      exact held.cons log lacks unfound (fun _ => unlisted) fun _ => unwritten
  begins isCancelled _ held := held.cons rfl held.lacks id (fun _ => id) fun _ => id
  answers {path failure?} _ {s β request} allowed _ held fine fine' := by
    have lacks : (Stage.answer failure? request s).2.world.hot.Lacks key gone := by
      rw [Stage.hot_answer]
      refine held.lacks.acts fine.1 fun a member renews => ?_
      refine fine'.2 _ ?_ (Stage.renews_answer (s := s) allowed member renews)
      exact (since_cons held.later _).symm ▸ List.mem_cons_self
    exact held.cons rfl lacks (Stage.not_finds_answer fine.1 held.lacks failure? request)
      (fun absent => Stage.not_lists_answer (held.lacks.inactive absent) failure? request)
      (Stage.not_writes_answer allowed)

/-- The work at a station keeps the protocol of each key. -/
theorem working_play (lifespan : Int) (start : Instant) (schedule : List Choice) (key : Key) :
    Invariant.Working (protocol key .any) (Stage.phase key) (Ended False)
      ((empty lifespan start).play l schedule) := by
  have upkeep : Upkeep l key (fun _ => True) (fun s => s.world.hot.Scheduled) fun _ => True := {
    scheduled := id
    begun := fun _ => id
    apart := fun failure? _ request _ hs => Stage.scheduled_answer_world hs failure? request
    attends := fun _ _ _ _ => trivial
    begins := fun _ _ _ => trivial
    answers := fun _ _ _ _ _ _ _ _ _ => trivial }
  have idle : Invariant.Working (protocol key .any) (Stage.phase key) (Ended False)
      (empty lifespan start) := ⟨id, nofun⟩
  exact (upkeep.invariant.play (fun _ _ => trivial)
    (throughout_scheduled (Hot.Store.scheduled_empty lifespan) schedule) trivial idle).2

/-- As long as a key that has no record is neither counted nor seeded, it has none, and no work
finds it. Work that has begun since then writes nothing of it. -/
theorem absent_of_play {s : Station} (hs : s.world.hot.Scheduled)
    (working : Invariant.Working (protocol key .any) (Stage.phase key) (Ended False) s)
    (lacks : s.world.hot.Lacks key gone) {schedule : List Choice}
    (still : ∀ o ∈ since s.log (s.play l schedule).log, ¬ o.Renews key) :
    Stage.Absent s.log key gone (s.play l schedule).toStage := by
  have unrenewed : s.Throughout l (Unrenewed s.log key) schedule :=
    (throughout_scheduled hs schedule).and (.of_suffix
      (P := fun log => ∀ o ∈ since s.log log, ¬ o.Renews key)
      (fun later h o member => h o (since_subset later member)) still)
  exact (absent_upkeep.invariant.play (fun _ _ => trivial) unrenewed
    (Stage.absent_of_lacks lacks) working).1

end Station

end Metering

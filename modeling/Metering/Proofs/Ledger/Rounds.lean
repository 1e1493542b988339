import Metering.Proofs.Compaction.Effect
import Metering.Proofs.Ledger.Station

/-!
# Rounds keep the protocol

A round of the flush service is a cycle, and then one drain after another. Drains are told apart in
the log by a beginning of their own, which stands where a drain takes its bucket. `protocol` is the
protocol of a key for such work: it lets a drain begin wherever the key is not owed anything.

Results:
1. `ensures_runOnce`: a round keeps the protocol of every key.
2. `Upkeep.invariant`: what occasions, beginnings and effects keep of a key is an invariant of a
   station.
-/

namespace Metering

namespace Compaction

open Monitor PhaseLemmas

variable {key : Key} {terms : Terms}

/-- A drain begins when it takes its bucket. -/
def Phase.before {β : Type} (request : Request β) (φ : Phase) : Phase :=
  match request with
  | .hot (.takeBucket _) => .waiting
  | _ => φ

/-- The protocol of a key in rounds, in which one piece of work follows another. -/
def protocol (key : Key) (terms : Terms) : Monitor Request Phase where
  allows request φ :=
    match request with
    | .hot (.takeBucket _) => ¬ φ.Owes ∧ terms.drains
    | request => Allows key terms request φ
  sound := Sound terms.calm
  after request answer φ := (φ.before request).after key (occurrence request answer)

theorem widens_protocol : (monitor key terms).Widens (protocol key terms) where
  allows request φ allowed := by
    cases request with
    | hot r =>
      cases r with
      | takeBucket bucket =>
        obtain ⟨rfl, drains⟩ := allowed
        exact ⟨⟨id, drains⟩, fun _ => rfl⟩
      | _ => exact ⟨allowed, fun _ => rfl⟩
    | _ => exact ⟨allowed, fun _ => rfl⟩
  sound _ _ sound := sound

/-! ## Rounds -/

section

variable {φ : Phase}

/-- A drain may begin wherever the key is not owed anything. -/
theorem ensures_drain_of_free (free : ¬ φ.Owes) (drains : terms.drains) (c : Settings)
    (memory : Compactor) (bucket : Bucket) :
    (protocol key terms).Ensures φ (drain c memory bucket) fun _ => Ended terms.calm := by
  -- what the drain takes puts an end to the phase before, so the drain can be begun in any
  obtain ⟨-, -, rest⟩ := (ensures_drain drains c memory bucket).widen widens_protocol
  refine ⟨?_, ⟨free, drains⟩, rest⟩
  rintro _ ⟨⟩

theorem ensures_drainEach (ended : Ended terms.calm φ) (drains : terms.drains) (c : Settings)
    (buckets : List Bucket) (memory : Flusher.Memory) :
    (protocol key terms).Ensures φ (Flusher.drainEach c buckets memory)
      fun _ => Ended terms.calm := by
  induction buckets generalizing φ memory with
  | nil => exact .pure ended
  | cons bucket rest ih =>
    refine Ensures.bind (P := fun _ φ => Ended terms.calm φ) (.ask trivial fun _ _ => ended) ?_
    intro isCancelled φ ended
    split
    · exact .pure ended
    · refine Ensures.bind (ensures_drain_of_free ended.1 drains c memory.2 bucket) ?_
      rintro ⟨compactor, result⟩ φ ended
      cases result with
      | error e => exact .pure ended
      | ok report => exact ih ended _

theorem ensures_trim (ended : Ended terms.calm φ) (drains : terms.drains) (c : Settings)
    (memory : Flusher.Memory) :
    (protocol key terms).Ensures φ (Flusher.trim c memory) fun _ => Ended terms.calm := by
  refine Ensures.bind (P := fun _ φ => Ended terms.calm φ) ?_ ?_
  · exact Ensures.bind (P := fun _ φ => Ended terms.calm φ) (.ask trivial fun _ _ => ended)
      fun _ _ ended => .pure ended
  · intro boundary φ ended
    refine Ensures.bind (P := fun _ φ => Ended terms.calm φ) (.ask trivial fun _ _ => ended) ?_
    intro result φ ended
    cases result with
    | error e => exact .pure ended
    | ok buckets => exact ensures_drainEach ended drains c _ memory

/-- A round keeps the protocol of every key. -/
theorem ensures_runOnce {c : Settings} (enough : terms.cap ≤ c.config.maxKeysPerCycle)
    (drains : terms.drains) (memory : Flusher.Memory) :
    (protocol key terms).Ensures .waiting (Flusher.runOnce c memory) fun _ => Ended terms.calm := by
  refine Ensures.bind ((ensures_run enough memory.2).widen widens_protocol) ?_
  rintro ⟨compactor, result⟩ φ ended
  cases result with
  | error e => exact .pure ended
  | ok report =>
    dsimp only
    split
    · exact .pure ended
    · exact ensures_trim ended drains c _

end

/-! ## Requests -/

theorem apart_of_neutral_protocol {β : Type} {request : Request β}
    (neutral : (protocol key terms).Neutral request) : Apart key request := by
  cases request with
  | hot r =>
    cases r with
    | takeBucket bucket => exact ((neutral (.refused 0)).1.1 trivial).elim
    | _ => exact apart_of_neutral neutral
  | _ => exact apart_of_neutral neutral

namespace Stage

theorem before_of_apart {β : Type} {request : Request β} (apart : Apart key request) (s : Stage) :
    s.before request = s := by
  cases request with
  | hot r =>
    cases r with
    | takeBucket bucket => exact apart.elim
    | _ => rfl
  | _ => rfl

theorem phase_before {β : Type} (request : Request β) (s : Stage) :
    (s.before request).phase key = (s.phase key).before request := by
  cases request with
  | hot r => cases r <;> rfl
  | _ => rfl

theorem phase_serve (failure? : Option Error) {β : Type} (request : Request β) (s : Stage) :
    (serve failure? request s).2.phase key =
      (protocol key terms).after request (serve failure? request s).1 (s.phase key) :=
  congrArg (Phase.after key · _) (phase_before request s)

/-- A request that the protocol allows begins a drain where nothing is owed, or is one of the work
under way. -/
theorem before_cases {β : Type} {request : Request β} {s : Stage}
    (allowed : (protocol key terms).allows request (s.phase key)) :
    Allows key terms request ((s.before request).phase key) ∧
      (s.before request = s ∨
        (¬ (s.phase key).Owes ∧ s.before request = s.begun s.world.isCancelled)) := by
  cases request with
  | hot r =>
    cases r with
    | takeBucket bucket => exact ⟨⟨rfl, allowed.2⟩, .inr ⟨allowed.1, rfl⟩⟩
    | _ => exact ⟨allowed, .inl rfl⟩
  | _ => exact ⟨allowed, .inl rfl⟩

/-! ## Occasions -/

variable {l : Ledger}

theorem phase_attend (l : Ledger) (s : Stage) (occasion : Occasion) :
    (s.attend l occasion).phase key = s.phase key := by
  cases occasion with
  | incident incident => cases incident <;> rfl
  | _ => rfl

theorem scheduled_attend {s : Stage} (hs : s.world.hot.Scheduled) (occasion : Occasion) :
    (s.attend l occasion).world.hot.Scheduled := by
  cases occasion with
  | incident incident =>
    cases incident with
    | arrival key traffic => exact hs.increment _ key traffic
    | arrivals entries => exact hs.incrementAll _ entries
    | seeding key baseline => exact hs.seed _ key baseline
    | removal key => exact hs.forget key
    | passing | cancellation => exact hs
  | report lag e =>
    obtain ⟨side, metrics, eq⟩ := s.attend_report l lag e
    rw [eq]
    exact hs.incrementAll _ _
  | reports lag entries =>
    obtain ⟨side, metrics, eq⟩ := s.attend_reports l lag entries
    rw [eq]
    exact hs.incrementAll _ _
  | clearing bucket => exact hs.takeBucket _ bucket
  | retirement type resource => exact hs
  | sweep => exact hs.expire _

theorem scheduled_answer_world {s : Stage} (hs : s.world.hot.Scheduled) (failure? : Option Error)
    {β : Type} (request : Request β) :
    (Stage.answer failure? request s).2.world.hot.Scheduled := by
  cases request with
  | hot r =>
    cases failure? with
    | none => exact scheduled_answer hs _ r
    | some e => exact hs
  | _ => cases failure? <;> exact hs

/-- Apart from the work, traffic is counted, or a record stays or is lost. -/
theorem attend_cases (key : Key) {s : Stage} (hs : s.world.hot.Scheduled) {occasion : Occasion}
    (unseeded : ¬ occasion.Seeds) :
    (∃ writes side metrics,
      s.attend l occasion = (s.meet (.arrivals writes)).aside side metrics) ∨
    ((s.attend l occasion).log = s.log ∧ (s.attend l occasion).row key = s.row key ∧
      ((s.attend l occasion).live? key = s.live? key ∨
        (s.attend l occasion).live? key = none)) := by
  have kept : ∀ {p : Prop} [Decidable p] {live? live?' : Option Hot.Entry},
      live?' = (if p then none else live?) → live?' = live? ∨ live?' = none := by
    rintro p _ live? _ rfl
    split
    · exact .inr rfl
    · exact .inl rfl
  cases occasion with
  | incident incident =>
    cases incident with
    | arrival key' traffic => exact .inl ⟨[(key', traffic)], _, _, rfl⟩
    | arrivals entries => exact .inl ⟨entries, _, _, rfl⟩
    | seeding key' baseline => exact (unseeded trivial).elim
    | removal key' => exact .inr ⟨rfl, rfl, kept (Hot.Store.live?_forget ..)⟩
    | passing nanos =>
      have le : s.world.now ≤ s.world.now.addNanos nanos :=
        Int.le_add_of_nonneg_right (Int.natCast_nonneg nanos)
      refine .inr ⟨rfl, rfl, ?_⟩
      cases later : (s.attend l (.incident (.passing nanos))).live? key with
      | none => exact .inr rfl
      | some entry => exact .inl (Hot.Store.live?_of_le le later).symm
    | cancellation => exact .inr ⟨rfl, rfl, .inl rfl⟩
  | report lag e => exact .inl ⟨_, s.attend_report l lag e⟩
  | reports lag entries => exact .inl ⟨_, s.attend_reports l lag entries⟩
  | clearing bucket => exact .inr ⟨rfl, rfl, kept (Hot.Store.live?_takeBucket hs _ bucket key)⟩
  | retirement type resource => exact .inr ⟨rfl, rfl, .inl rfl⟩
  | sweep => exact .inr ⟨rfl, rfl, .inl (Hot.Store.live?_expire hs _ key)⟩

end Stage

end Compaction

namespace Station

open Compaction

/-- What has to be shown of a key for an invariant of a station. -/
structure Upkeep (l : Ledger) (key : Key) (fits : Choice → Prop) (good inv : Stage → Prop) :
    Prop where
  scheduled : ∀ {s : Stage}, good s → s.world.hot.Scheduled
  begun : ∀ {s : Stage} (isCancelled : Bool), good s → good (s.begun isCancelled)
  apart : ∀ {s : Stage} (failure? : Option Error) {β : Type} {request : Request β},
    Apart key request → good s → good (Stage.answer failure? request s).2
  attends : ∀ {s : Stage} {occasion : Occasion}, fits (.occasion occasion) → inv s → good s →
    good (s.attend l occasion) → inv (s.attend l occasion)
  begins : ∀ {s : Stage} (isCancelled : Bool), ¬ (s.phase key).Owes → inv s →
    inv (s.begun isCancelled)
  answers : ∀ {path : List Nat} {failure? : Option Error}, fits (.move path failure?) →
    ∀ {s : Stage} {β : Type} {request : Request β}, Allows key .any request (s.phase key) →
      s.Affects key failure? request → inv s → good s →
      good (Stage.answer failure? request s).2 → inv (Stage.answer failure? request s).2

variable {l : Ledger} {key : Key} {fits : Choice → Prop} {good inv : Stage → Prop}

theorem Upkeep.follows (h : Upkeep l key fits good inv) {path : List Nat}
    {failure? : Option Error} (fit : fits (.move path failure?)) :
    (protocol key .any).Follows (Stage.serve failure?) (Stage.phase key) inv good where
  tracks request s := Stage.phase_serve failure? request s
  neutral request s neutral fine := by
    have apart := apart_of_neutral_protocol neutral
    unfold Stage.serve
    rw [Stage.before_of_apart apart]
    exact h.apart failure? apart fine
  allowed request s allowed held fine fine' := by
    obtain ⟨called, before⟩ := Stage.before_cases allowed
    have ready : inv (s.before request) ∧ good (s.before request) := by
      obtain same | ⟨free, begun⟩ := before
      · rw [same]
        exact ⟨held, fine⟩
      · rw [begun]
        exact ⟨h.begins _ free held, h.begun _ fine⟩
    have effect := Stage.effect_answer (h.scheduled ready.2) failure? called
    exact ⟨h.answers fit called effect ready.1 ready.2 fine',
      Stage.sound_of_scheduled (h.scheduled ready.2) failure? request⟩

theorem throughout_scheduled {s : Station} (hs : s.world.hot.Scheduled) (schedule : List Choice) :
    s.Throughout l (fun s => s.world.hot.Scheduled) schedule := by
  have fit : ∀ choice ∈ schedule, (fun _ => True) choice := fun _ _ => trivial
  refine throughout ?_ ?_ ?_ fit hs
  · exact fun _ hs => Stage.scheduled_attend hs _
  · exact fun _ hs => hs
  · exact fun _ _ request _ hs => Stage.scheduled_answer_world hs _ request

/-- All work keeps the protocol of a key, so what is kept step by step is an invariant. -/
theorem Upkeep.invariant (h : Upkeep l key fits good inv) :
    Invariant l (protocol key .any) (Stage.phase key) .waiting (Ended False) fits good inv where
  attends fit held fine fine' := ⟨h.attends fit held fine fine', Stage.phase_attend l _ _⟩
  begins isCancelled ended held := ⟨h.begins isCancelled ended.1 held, rfl⟩
  cycles memory _ := (ensures_run (Nat.zero_le _) memory).widen widens_protocol
  rounds memory _ := ensures_runOnce (Nat.zero_le _) trivial memory
  drains memory _ := ensures_drain_of_free id trivial _ memory _
  trims memory _ _ _ := ensures_drain_of_free id trivial _ memory _
  follows fit := h.follows fit

end Station

end Metering

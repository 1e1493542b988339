import Metering.Proofs.Compaction.Stage
import Metering.Proofs.Query.Reading
import Metering.Proofs.Quota.Law

/-!
# Batches of writes

A batch checks all of its entries, counts those with traffic in one call of the hot tier, and then
feeds the quotas. Single writes do so entry by entry. Where every entry is acceptable and the hot tier
works, both count the same traffic and feed the same quotas, in the same order; otherwise a batch does
nothing, like a single write that fails.

Feeding a quota neither reads nor changes a tier, so it comes to the same before and after other
entries are counted. That is what `Abreast` is kept for.

Results:
1. `mapM_keyed`: the writes of a batch, or what its first bad entry breaks.
2. `tallies_increment`, `tallies_incrementAll`, `tallies_incrementEach`: what writes leave.
3. `batch_eq_singles`: a batch is its single writes, or nothing.
-/

namespace Metering

open Monitor
open Program (settle settle_bind)

/-! ## Faltering stores -/

/-- A world in which calls of the side store may fail, each in its own way. -/
structure Faltering where
  world : World
  /-- The failures of the next calls of the side store; later ones do not fail. -/
  fates : List (Option Error) := []

namespace Faltering

/-- The answer of the world, in which the hot tier is out of order or not. -/
def answer (hot? : Option Error) {β : Type} (request : Request β) (s : Faltering) : β × Faltering :=
  match request with
  | .hot r =>
    let (b, world) := Compaction.Stage.reply hot? (.hot r) s.world
    (b, { s with world })
  | .side r =>
    let (b, world) := Compaction.Stage.reply s.fates.head?.join (.side r) s.world
    (b, ⟨world, s.fates.tail⟩)
  | request =>
    let (b, world) := s.world.answer request
    (b, { s with world })

/-- The world after some traffic has been counted in the hot tier. -/
def count (s : Faltering) (writes : List (Key × Traffic)) : Faltering :=
  { s with world := s.world.count writes }

/-- The worlds are the same to a program that leaves the tiers alone. -/
structure Abreast (s t : Faltering) : Prop where
  now : t.world.now = s.world.now
  isCancelled : t.world.isCancelled = s.world.isCancelled
  side : t.world.side = s.world.side
  fates : t.fates = s.fates

/-- All stores are the same, and no call of the side store has been made. -/
structure Untouched (s t : Faltering) : Prop where
  world : s.world.Alike t.world
  side : t.world.side = s.world.side
  fates : t.fates = s.fates

variable {hot? : Option Error} {s t u : Faltering}

theorem Untouched.refl (s : Faltering) : s.Untouched s := ⟨.refl s.world, rfl, rfl⟩

theorem Untouched.trans (first : s.Untouched t) (second : t.Untouched u) : s.Untouched u :=
  ⟨first.world.trans second.world, second.side.trans first.side, second.fates.trans first.fates⟩

theorem Untouched.abreast (h : s.Untouched t) : s.Abreast t :=
  ⟨h.world.now, h.world.isCancelled, h.side, h.fates⟩

theorem Abreast.trans (first : s.Abreast t) (second : t.Abreast u) : s.Abreast u :=
  ⟨second.now.trans first.now, second.isCancelled.trans first.isCancelled,
    second.side.trans first.side, second.fates.trans first.fates⟩

/-- A request that leaves the tiers alone is answered alike in such worlds. -/
theorem abreast_answer (h : s.Abreast t) {β : Type} {request : Request β}
    (aside : request.IsAside) : (answer hot? request t).1 = (answer hot? request s).1 ∧
      (answer hot? request s).2.Abreast (answer hot? request t).2 := by
  obtain ⟨⟨now', hot', cold', side', isCancelled', metrics'⟩, fates'⟩ := s
  obtain ⟨⟨now, hot, cold, side, isCancelled, metrics⟩, fates⟩ := t
  obtain ⟨rfl, rfl, rfl, rfl⟩ := h
  cases request with
  | hot r => exact aside.elim
  | cold r => exact aside.elim
  | side r =>
    rcases fates with _ | ⟨_ | e, rest⟩ <;> exact ⟨rfl, rfl, rfl, rfl, rfl⟩
  | now => exact ⟨rfl, rfl, rfl, rfl, rfl⟩
  | isCancelled => exact ⟨rfl, rfl, rfl, rfl, rfl⟩
  | record event => exact ⟨rfl, rfl, rfl, rfl, rfl⟩

theorem alike_answer (s : Faltering) {β : Type} {request : Request β} (aside : request.IsAside) :
    s.world.Alike (answer hot? request s).2.world := by
  cases request with
  | hot r => exact aside.elim
  | cold r => exact aside.elim
  | side r =>
    obtain ⟨world, fates⟩ := s
    rcases fates with _ | ⟨_ | e, rest⟩ <;> exact ⟨rfl, rfl, rfl, rfl⟩
  | now => exact ⟨rfl, rfl, rfl, rfl⟩
  | isCancelled => exact ⟨rfl, rfl, rfl, rfl⟩
  | record event => exact ⟨rfl, rfl, rfl, rfl⟩

/-- A program that leaves the tiers alone runs alike in such worlds. -/
theorem abreast_settle (h : s.Abreast t) {α : Type} {p : Procedure α}
    (silent : bystander.Silent p) : (p.settle (answer none) t).1 = (p.settle (answer none) s).1 ∧
      (p.settle (answer none) s).2.Abreast (p.settle (answer none) t).2 :=
  settle_alike Abreast (fun _ neutral _ _ h => abreast_answer h (neutral ()).1) silent h

theorem follows_answer (s : Faltering) : bystander.Follows (answer hot?) (fun _ => ())
    (fun t => s.world.Alike t.world) (fun _ => True) where
  tracks _ _ := rfl
  neutral _ _ _ _ := trivial
  allowed _ t allowed h _ _ := ⟨h.trans (alike_answer t allowed), trivial⟩

theorem alike_settle (s : Faltering) {α : Type} {p : Procedure α} (silent : bystander.Silent p) :
    s.world.Alike (p.settle (answer hot?) s).2.world :=
  (settle_of_silent (follows_answer s) silent (.refl s.world) trivial).1.1

end Faltering

namespace Ledger

variable {l : Ledger} {s t u : Faltering} {entries : List Entry} {e : Entry}

/-! ## Entries -/

/-- What is counted of an acceptable entry. -/
def Entry.write (e : Entry) (bucket : Bucket) : Key × Traffic :=
  (⟨bucket, e.subscription, ResourceType.ofTag e.tag, e.resource⟩, e.traffic)

/-- What the first entry that is not acceptable breaks. -/
def firstFault? (entries : List Entry) : Option Rejection :=
  entries.findSome? fun e => ResourceType.fault? e.tag

theorem firstFault?_cons (e : Entry) (entries : List Entry) :
    firstFault? (e :: entries) = (ResourceType.fault? e.tag).or (firstFault? entries) := by
  unfold firstFault?
  rw [List.findSome?_cons]
  cases ResourceType.fault? e.tag <;> rfl

/-- The entries of a batch are written, or the first bad one fails all of them. -/
theorem mapM_keyed (entries : List Entry) (bucket : Bucket) :
    entries.mapM (·.keyed bucket) = match firstFault? entries with
      | some why => .error why
      | none => .ok (entries.map (·.write bucket)) := by
  induction entries with
  | nil => rfl
  | cons e entries ih =>
    rw [List.mapM_cons, ih, firstFault?_cons]
    cases fault : ResourceType.fault? e.tag with
    | some why => rw [keyed_of_fault fault]; rfl
    | none =>
      rw [Entry.keyed_eq fault]
      cases firstFault? entries <;> rfl

/-- Counts the traffic of many resources, one after another. -/
def incrementEach (l : Ledger) (entries : List Entry) : Task Unit :=
  entries.forM fun e => l.increment e.subscription e.tag e.resource e.traffic

theorem incrementEach_cons (l : Ledger) (e : Entry) (entries : List Entry) :
    l.incrementEach (e :: entries) =
      l.increment e.subscription e.tag e.resource e.traffic >>= fun _ => l.incrementEach entries :=
  rfl

/-! ## What writes leave -/

theorem settle_then {hot? : Option Error} {α : Type} (p : Procedure Unit) (q : Procedure α)
    (s : Faltering) : (p >>= fun _ => q).settle (Faltering.answer hot?) s =
      q.settle (Faltering.answer hot?) (p.settle (Faltering.answer hot?) s).2 :=
  settle_bind ..

/-- Feeds the quotas of some writes. -/
def feedAll (l : Ledger) (writes : List (Key × Traffic)) : Procedure Unit :=
  writes.forM fun write => l.feedQuota write.1 write.2

theorem silent_feedAll (l : Ledger) (writes : List (Key × Traffic)) :
    bystander.Silent (l.feedAll writes) := by
  unfold feedAll
  exact Silent.forM (fun write => silent_feedQuota l write.1 write.2) writes

/-- Some writes have been counted in the hot tier, and their quotas have been fed. -/
structure Tallies (l : Ledger) (s : Faltering) (writes : List (Key × Traffic)) (t : Faltering) :
    Prop where
  hot : t.world.hot = s.world.hot.incrementAll s.world.now writes
  fed : ((l.feedAll writes).settle (Faltering.answer none) s).2.Abreast t

/-- Writes without traffic count nothing and feed no quota. -/
theorem incrementAll_filter (hot : Hot.Store) (now : Instant) (writes : List (Key × Traffic)) :
    hot.incrementAll now (writes.filter fun write => !write.2.isZero) =
      hot.incrementAll now writes := by
  induction writes generalizing hot with
  | nil => rfl
  | cons write writes ih =>
    cases zero : write.2.isZero with
    | true =>
      rw [List.filter_cons_of_neg (by simp [zero]), ih]
      rw [Traffic.isZero_iff] at zero
      change _ = (hot.increment now write.1 write.2).incrementAll now writes
      rw [zero, Hot.Store.increment_zero]
    | false =>
      rw [List.filter_cons_of_pos (by simp [zero])]
      exact ih _

theorem feedQuota_of_isZero {traffic : Traffic} (zero : traffic.isZero = true) (l : Ledger)
    (key : Key) : l.feedQuota key traffic = pure () :=
  if_pos (.inl zero)

theorem feedAll_cons (l : Ledger) (write : Key × Traffic) (writes : List (Key × Traffic)) :
    l.feedAll (write :: writes) = l.feedQuota write.1 write.2 >>= fun _ => l.feedAll writes :=
  rfl

theorem feedAll_singleton (l : Ledger) (write : Key × Traffic) :
    l.feedAll [write] = l.feedQuota write.1 write.2 :=
  Program.bind_pure _

theorem feedAll_filter (l : Ledger) (writes : List (Key × Traffic)) :
    l.feedAll (writes.filter fun write => !write.2.isZero) = l.feedAll writes := by
  induction writes with
  | nil => rfl
  | cons write writes ih =>
    cases zero : write.2.isZero with
    | true =>
      rw [List.filter_cons_of_neg (by simp [zero]), ih, feedAll_cons, feedQuota_of_isZero zero,
        pure_bind]
    | false => rw [List.filter_cons_of_pos (by simp [zero]), feedAll_cons, feedAll_cons, ih]

namespace Tallies

variable {writes : List (Key × Traffic)} {write : Key × Traffic}

theorem of_filter (h : Tallies l s (writes.filter fun write => !write.2.isZero) t) :
    Tallies l s writes t :=
  ⟨incrementAll_filter s.world.hot s.world.now writes ▸ h.hot, feedAll_filter l writes ▸ h.fed⟩

theorem nil (l : Ledger) (s : Faltering) : Tallies l s [] s :=
  ⟨rfl, (Faltering.Untouched.refl s).abreast⟩

theorem now (h : Tallies l s writes t) : t.world.now = s.world.now :=
  h.fed.now.trans (Faltering.alike_settle s (silent_feedAll l writes)).now

theorem cons (first : Tallies l s [write] t) (rest : Tallies l t writes u) :
    Tallies l s (write :: writes) u where
  hot := by
    rw [rest.hot, first.hot, first.now]
    rfl
  fed := by
    have fed := first.fed
    rw [feedAll_singleton] at fed
    rw [feedAll_cons, settle_then]
    exact (Faltering.abreast_settle fed (silent_feedAll l writes)).2.trans rest.fed

end Tallies

section Writing

variable {writes : List (Key × Traffic)}

/-- Reports each of some writes, and feeds its quota. -/
def noteAll (l : Ledger) (writes : List (Key × Traffic)) : Procedure Unit :=
  writes.forM fun write => do
    Procedure.record (.increment write.2 true)
    l.feedQuota write.1 write.2

theorem noteAll_cons (l : Ledger) (write : Key × Traffic) (writes : List (Key × Traffic)) :
    l.noteAll (write :: writes) = (Procedure.record (.increment write.2 true) >>= fun _ =>
      l.feedQuota write.1 write.2) >>= fun _ => l.noteAll writes :=
  rfl

theorem silent_noteAll (l : Ledger) (writes : List (Key × Traffic)) :
    bystander.Silent (l.noteAll writes) := by
  unfold noteAll
  refine Silent.forM (fun write => ?_) writes
  exact Silent.bind (silent_record _) fun _ => silent_feedQuota l write.1 write.2

/-- What is reported between the writes does not concern their quotas. -/
theorem fed_noteAll (h : s.Abreast t) (writes : List (Key × Traffic)) :
    ((l.feedAll writes).settle (Faltering.answer none) s).2.Abreast
      ((l.noteAll writes).settle (Faltering.answer none) t).2 := by
  induction writes generalizing s t with
  | nil => exact h
  | cons write writes ih =>
    have noted : s.Abreast (Faltering.answer none (.record (.increment write.2 true)) t).2 :=
      ⟨h.now, h.isCancelled, h.side, h.fates⟩
    have fed := (Faltering.abreast_settle noted (silent_feedQuota l write.1 write.2)).2
    rw [feedAll_cons, settle_then, noteAll_cons, settle_then, settle_then]
    exact ih fed

/-- What is left where the hot tier has counted some writes and their quotas were fed. -/
theorem tallies_noteAll (l : Ledger) (s : Faltering) (writes : List (Key × Traffic)) :
    Tallies l s writes
      ((l.noteAll writes).settle (Faltering.answer none) (s.count writes)).2 where
  hot := (Faltering.alike_settle (s.count writes) (silent_noteAll l writes)).hot
  fed :=
    have beside : s.Abreast (s.count writes) := ⟨rfl, rfl, rfl, rfl⟩
    fed_noteAll beside writes

theorem ofTag_eq (sound : ResourceType.fault? e.tag = none) (bucket : Bucket) :
    Key.ofTag bucket e.subscription e.tag e.resource = .ok (e.write bucket).1 := by
  unfold Key.ofTag ResourceType.parse
  rw [sound]
  rfl

theorem settle_time {hot? : Option Error} {α : Type} (f : Instant → Procedure α) (s : Faltering) :
    (Procedure.now >>= f).settle (Faltering.answer hot?) s =
      (f s.world.now).settle (Faltering.answer hot?) s :=
  rfl

theorem settle_increment {α : Type} (key : Key) (traffic : Traffic)
    (f : Except Error Unit → Procedure α) (s : Faltering) :
    (Procedure.hot (.increment key traffic) >>= f).settle (Faltering.answer none) s =
      (f (.ok ())).settle (Faltering.answer none) (s.count [(key, traffic)]) :=
  rfl

theorem settle_incrementAll {α : Type} (writes : List (Key × Traffic))
    (f : Except Error Unit → Procedure α) (s : Faltering) :
    (Procedure.hot (.incrementAll writes) >>= f).settle (Faltering.answer none) s =
      (f (.ok ())).settle (Faltering.answer none) (s.count writes) :=
  rfl

/-- A single write of an acceptable entry counts it and feeds its quota. -/
theorem tallies_increment (sound : ResourceType.fault? e.tag = none) (s : Faltering) :
    ((l.increment e.subscription e.tag e.resource e.traffic).run.settle
        (Faltering.answer none) s).1 = .ok () ∧
      Tallies l s [e.write (l.zone.bucketOf s.world.now)]
        ((l.increment e.subscription e.tag e.resource e.traffic).run.settle
          (Faltering.answer none) s).2 := by
  have run : (l.increment e.subscription e.tag e.resource e.traffic).run.settle
      (Faltering.answer none) s =
        ((Except.ok () : Except Error Unit),
          ((l.noteAll [e.write (l.zone.bucketOf s.world.now)]).settle (Faltering.answer none)
            (s.count [e.write (l.zone.bucketOf s.world.now)])).2) := by
    change Program.settle _ (Procedure.now >>= _) s = _
    rw [settle_time]
    dsimp only
    rw [ofTag_eq sound]
    dsimp only
    rw [settle_increment, noteAll_cons]
    simp only [settle_then]
    rfl
  rw [run]
  exact ⟨rfl, tallies_noteAll l s _⟩

/-- A batch of acceptable entries counts them and feeds their quotas, and tells how many had
traffic. -/
theorem tallies_incrementAll (sound : firstFault? entries = none) (s : Faltering) :
    ((l.incrementAll entries).run.settle (Faltering.answer none) s).1 =
        .ok (entries.countP fun e => !e.traffic.isZero) ∧
      Tallies l s (entries.map (·.write (l.zone.bucketOf s.world.now)))
        ((l.incrementAll entries).run.settle (Faltering.answer none) s).2 := by
  let all := entries.map (·.write (l.zone.bucketOf s.world.now))
  have count : (all.filter fun write => !write.2.isZero).length =
      entries.countP fun e => !e.traffic.isZero := by
    rw [← List.countP_eq_length_filter, List.countP_map]
    rfl
  rw [← count]
  change (Program.settle _ (Procedure.now >>= _) s).1 = _ ∧
    Tallies l s all (Program.settle _ (Procedure.now >>= _) s).2
  rw [settle_time]
  dsimp only
  rw [mapM_keyed, sound]
  dsimp only
  split
  · next none =>
    rw [List.isEmpty_iff] at none
    refine ⟨by rw [none]; rfl, .of_filter ?_⟩
    rw [none]
    exact .nil l s
  · rw [settle_incrementAll]
    change (Program.settle _ (l.noteAll _ >>= fun _ => _) _).1 = _ ∧
      Tallies l s all (Program.settle _ (l.noteAll _ >>= fun _ => _) _).2
    rw [settle_then]
    exact ⟨rfl, .of_filter (tallies_noteAll l s _)⟩

/-- Single writes of acceptable entries, one after another, count them and feed their quotas. -/
theorem tallies_incrementEach (sound : firstFault? entries = none) (s : Faltering) :
    ((l.incrementEach entries).run.settle (Faltering.answer none) s).1 = .ok () ∧
      Tallies l s (entries.map (·.write (l.zone.bucketOf s.world.now)))
        ((l.incrementEach entries).run.settle (Faltering.answer none) s).2 := by
  induction entries generalizing s with
  | nil => exact ⟨rfl, .nil l s⟩
  | cons e entries ih =>
    rw [firstFault?_cons, Option.or_eq_none_iff] at sound
    obtain ⟨done, first⟩ := tallies_increment (l := l) sound.1 s
    rw [incrementEach_cons, settle_task_bind done]
    obtain ⟨done, rest⟩ := ih sound.2 _
    rw [first.now] at rest
    exact ⟨done, first.cons rest⟩

end Writing

/-! ## Writes that fail -/

section Failing

variable {hot? : Option Error} {why : Rejection} {error : Error}

/-- A batch with an entry that is not acceptable fails as its first such entry. -/
theorem untouched_of_firstFault (bad : firstFault? entries = some why) (s : Faltering) :
    ((l.incrementAll entries).run.settle (Faltering.answer hot?) s).1 = .error (.rejected why) ∧
      s.Untouched ((l.incrementAll entries).run.settle (Faltering.answer hot?) s).2 := by
  change (Program.settle _ (Procedure.now >>= _) s).1 = _ ∧
    s.Untouched (Program.settle _ (Procedure.now >>= _) s).2
  rw [settle_time]
  dsimp only
  rw [mapM_keyed, bad]
  exact ⟨rfl, ⟨rfl, rfl, rfl, rfl⟩, rfl, rfl⟩

/-- A single write of an entry that is not acceptable fails as the entry does. -/
theorem untouched_of_fault (bad : ResourceType.fault? e.tag = some why) (s : Faltering) :
    ((l.increment e.subscription e.tag e.resource e.traffic).run.settle
        (Faltering.answer hot?) s).1 = .error (.rejected why) ∧
      s.Untouched ((l.increment e.subscription e.tag e.resource e.traffic).run.settle
        (Faltering.answer hot?) s).2 := by
  have refused : Key.ofTag (l.zone.bucketOf s.world.now) e.subscription e.tag e.resource =
      .error why := by
    unfold Key.ofTag ResourceType.parse
    rw [bad]
    rfl
  change (Program.settle _ (Procedure.now >>= _) s).1 = _ ∧
    s.Untouched (Program.settle _ (Procedure.now >>= _) s).2
  rw [settle_time]
  dsimp only
  rw [refused]
  exact ⟨rfl, ⟨rfl, rfl, rfl, rfl⟩, rfl, rfl⟩

/-- A single write that the hot tier fails fails with it. -/
theorem untouched_of_hot_error (sound : ResourceType.fault? e.tag = none) (error : Error)
    (s : Faltering) :
    ((l.increment e.subscription e.tag e.resource e.traffic).run.settle
        (Faltering.answer (some error)) s).1 = .error error ∧
      s.Untouched ((l.increment e.subscription e.tag e.resource e.traffic).run.settle
        (Faltering.answer (some error)) s).2 := by
  change (Program.settle _ (Procedure.now >>= _) s).1 = _ ∧
    s.Untouched (Program.settle _ (Procedure.now >>= _) s).2
  rw [settle_time]
  dsimp only
  rw [ofTag_eq sound]
  exact ⟨rfl, ⟨rfl, rfl, rfl, rfl⟩, rfl, rfl⟩

theorem untouched_by_records {α : Type} (event : α → Event) (told : List α) (s : Faltering) :
    s.Untouched ((told.forM fun a => Procedure.record (event a)).settle
      (Faltering.answer hot?) s).2 := by
  induction told generalizing s with
  | nil => exact .refl s
  | cons a told ih =>
    have first : s.Untouched (Faltering.answer hot? (.record (event a)) s).2 :=
      ⟨⟨rfl, rfl, rfl, rfl⟩, rfl, rfl⟩
    exact first.trans (ih _)

theorem settle_hot_error {α β : Type} (request : Hot.Request α) (error : Error)
    (f : Except Error α → Procedure β) (s : Faltering) :
    (Procedure.hot request >>= f).settle (Faltering.answer (some error)) s =
      (f (.error error)).settle (Faltering.answer (some error)) s :=
  rfl

/-- A batch with traffic that the hot tier fails fails with it. -/
theorem untouched_of_batch_error (sound : firstFault? entries = none)
    (some_traffic : ∃ e ∈ entries, e.traffic ≠ 0) (error : Error) (s : Faltering) :
    ((l.incrementAll entries).run.settle (Faltering.answer (some error)) s).1 = .error error ∧
      s.Untouched ((l.incrementAll entries).run.settle (Faltering.answer (some error)) s).2 := by
  change (Program.settle _ (Procedure.now >>= _) s).1 = _ ∧
    s.Untouched (Program.settle _ (Procedure.now >>= _) s).2
  rw [settle_time]
  dsimp only
  rw [mapM_keyed, sound]
  dsimp only
  split
  · next none =>
    obtain ⟨e, member, nonzero⟩ := some_traffic
    rw [List.isEmpty_iff, List.filter_eq_nil_iff] at none
    have zero := none _ (List.mem_map_of_mem member)
    exact absurd (Traffic.isZero_iff.1 (by simpa [Entry.write] using zero)) nonzero
  · rw [settle_hot_error]
    dsimp only
    rw [settle_then, settle_then]
    have noted : s.Untouched (Faltering.answer (some error)
        (.record (.failure "hot_tier" "batch_increment")) s).2 := ⟨⟨rfl, rfl, rfl, rfl⟩, rfl, rfl⟩
    exact ⟨rfl, noted.trans (untouched_by_records _ _ _)⟩

end Failing

/-! ## Batches and single writes -/

/-- Where every entry is acceptable and the hot tier works, a batch leaves the hot tier and the quotas
as its single writes do, one after another, and tells how many entries had traffic. A batch with a bad
entry, or with traffic that the hot tier does not take, fails and leaves everything as it was, and so
does such a single write. -/
theorem batch_eq_singles (l : Ledger) (entries : List Entry) (e : Entry) (s : Faltering) :
    (firstFault? entries = none →
      let batch := (l.incrementAll entries).run.settle (Faltering.answer none) s
      let singles := (l.incrementEach entries).run.settle (Faltering.answer none) s
      batch.1 = .ok (entries.countP fun e => !e.traffic.isZero) ∧ singles.1 = .ok () ∧
        batch.2.world.hot = singles.2.world.hot ∧ batch.2.world.side = singles.2.world.side) ∧
    (∀ hot? why, firstFault? entries = some why →
      let batch := (l.incrementAll entries).run.settle (Faltering.answer hot?) s
      batch.1 = .error (.rejected why) ∧ s.Untouched batch.2) ∧
    (∀ error, firstFault? entries = none → (∃ e ∈ entries, e.traffic ≠ 0) →
      let batch := (l.incrementAll entries).run.settle (Faltering.answer (some error)) s
      batch.1 = .error error ∧ s.Untouched batch.2) ∧
    (∀ hot? why, ResourceType.fault? e.tag = some why →
      let single := (l.increment e.subscription e.tag e.resource e.traffic).run.settle
        (Faltering.answer hot?) s
      single.1 = .error (.rejected why) ∧ s.Untouched single.2) ∧
    (∀ error, ResourceType.fault? e.tag = none →
      let single := (l.increment e.subscription e.tag e.resource e.traffic).run.settle
        (Faltering.answer (some error)) s
      single.1 = .error error ∧ s.Untouched single.2) := by
  refine ⟨fun sound => ?_, fun _ _ bad => untouched_of_firstFault bad s,
    fun error sound some_traffic => untouched_of_batch_error sound some_traffic error s,
    fun _ _ bad => untouched_of_fault bad s, fun error sound => untouched_of_hot_error sound error s⟩
  obtain ⟨counted, batch⟩ := tallies_incrementAll (l := l) sound s
  obtain ⟨done, singles⟩ := tallies_incrementEach (l := l) sound s
  exact ⟨counted, done, batch.hot.trans singles.hot.symm,
    batch.fed.side.trans singles.fed.side.symm⟩

/-- Writes of two types and one without traffic, while the side store fails its first call; then with a
bad entry; and then while the hot tier is out of order. -/
theorem batches_of_one_hour :
    let zone : Zone := default
    let l : Ledger := {
      config := {}, zone, compaction := ⟨zone, 86400000000000, {}⟩
      query := ⟨zone, 86400000000000, {}, .passthrough⟩
      quota := ⟨"traffic", 2678400000000000⟩
      alert := ⟨"traffic", [80, 90, 100], 2678400000000000⟩ }
    let outage : Error := .unavailable .hot "injected"
    let s : Faltering := {
      world := { now := .ofSeconds 1709266200, hot := l.emptyHotStore }
      fates := [some (.unavailable .state "injected")] }
    let good : Entry := ⟨1, "subscription", 7, .ofNats 11 11⟩
    let bad : Entry := ⟨1, "", 7, .ofNats 1 1⟩
    let entries : List Entry :=
      [good, ⟨1, "node", 7, .ofNats 5 0⟩, ⟨1, "node", 7, 0⟩, ⟨1, "subscription", 7, .ofNats 0 3⟩]
    let batch := (l.incrementAll entries).run.settle (Faltering.answer none) s
    let singles := (l.incrementEach entries).run.settle (Faltering.answer none) s
    let refused := (l.incrementAll (entries ++ [bad])).run.settle (Faltering.answer none) s
    let failed := (l.incrementAll entries).run.settle (Faltering.answer (some outage)) s
    let single (e : Entry) := (l.increment e.subscription e.tag e.resource e.traffic).run.settle
      (Faltering.answer (some outage)) s
    (batch.1 = .ok 3 ∧ batch.2.world.hot = singles.2.world.hot ∧
        batch.2.world.side = singles.2.world.side) ∧
      (refused.1 = .error (.rejected .emptyType) ∧ s.Untouched refused.2) ∧
      (failed.1 = .error outage ∧ s.Untouched failed.2) ∧
      ((single bad).1 = .error (.rejected .emptyType) ∧ s.Untouched (single bad).2) ∧
      (single good).1 = .error outage ∧ s.Untouched (single good).2 := by
  intro zone l outage s good bad entries
  have sound : firstFault? entries = none := by decide
  have faulty : firstFault? (entries ++ [bad]) = some .emptyType := by decide
  have traffic : ∃ e ∈ entries, e.traffic ≠ 0 := ⟨good, List.mem_cons_self, by decide⟩
  obtain ⟨equal, -, failed, refused, -⟩ := batch_eq_singles l entries bad s
  obtain ⟨-, faulted, -, -, unavailable⟩ := batch_eq_singles l (entries ++ [bad]) good s
  obtain ⟨told, -, hot, side⟩ := equal sound
  exact ⟨⟨told, hot, side⟩, faulted none .emptyType faulty, failed outage sound traffic,
    refused (some outage) .emptyType (by decide), unavailable outage (by decide)⟩

end Ledger

end Metering

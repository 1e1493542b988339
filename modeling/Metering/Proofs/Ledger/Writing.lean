import Metering.Ledger
import Metering.Proofs.Program.Monitor

/-!
# What the writing calls of a ledger do

A writing call reads the clock, makes keys for the current hour and counts the traffic under them in
the hot tier. It also reports events and feeds quotas, which touches neither tier. Between the clock
and the hot tier time may pass, so the key of a late call belongs to an earlier hour.

Results: `alike_increment`, `alike_incrementAll`: after a call, late or not, its acceptable writes
have been counted, and the tiers are the same otherwise.
-/

namespace Metering

open Monitor

/-! ## Programs that leave the tiers alone -/

/-- The request is not made to a tier. -/
def Request.IsAside {β : Type} : Request β → Prop
  | .hot _ | .cold _ => False
  | .side _ | .now | .isCancelled | .record _ => True

/-- Allows all requests that leave the tiers alone. -/
def bystander : Monitor Request Unit where
  allows request _ := request.IsAside
  sound _ _ := True
  after _ _ _ := ()

theorem neutral_of_isAside {β : Type} {request : Request β} (aside : request.IsAside) :
    bystander.Neutral request :=
  fun _ => ⟨aside, fun _ => rfl⟩

/-- A task goes on where it has not failed. -/
theorem silent_task_bind {μ : Type} {m : Monitor Request μ} {α β : Type} {x : Task α}
    {f : α → Task β} (h : m.Silent x.run) (rest : ∀ a, m.Silent (f a).run) :
    m.Silent (x >>= f).run := by
  refine Silent.bind h fun result => ?_
  cases result with
  | ok a => exact rest a
  | error e => trivial

namespace World

/-- The answer to a program that is late: it is told the time of `lag` nanoseconds ago. -/
def late (lag : Nat) {β : Type} (request : Request β) (w : World) : β × World :=
  match request with
  | .now => (w.now.addNanos (-lag), w)
  | request => w.answer request

/-- The tiers, the clock and the flag are the same. -/
structure Alike (w w' : World) : Prop where
  now : w'.now = w.now
  hot : w'.hot = w.hot
  cold : w'.cold = w.cold
  isCancelled : w'.isCancelled = w.isCancelled

/-- The world after some traffic has been counted in the hot tier. -/
def count (w : World) (writes : List (Key × Traffic)) : World :=
  { w with hot := w.hot.incrementAll w.now writes }

theorem Alike.eq {w w' : World} (h : w.Alike w') :
    w' = { w with side := w'.side, metrics := w'.metrics } := by
  obtain ⟨now, hot, cold, side, isCancelled, metrics⟩ := w'
  obtain ⟨rfl, rfl, rfl, rfl⟩ := h
  rfl

theorem Alike.refl (w : World) : w.Alike w := ⟨rfl, rfl, rfl, rfl⟩

theorem Alike.trans {w w' w'' : World} (first : w.Alike w') (second : w'.Alike w'') :
    w.Alike w'' :=
  ⟨second.now.trans first.now, second.hot.trans first.hot, second.cold.trans first.cold,
    second.isCancelled.trans first.isCancelled⟩

theorem alike_late {β : Type} {request : Request β} (aside : request.IsAside) (lag : Nat)
    (w : World) : w.Alike (late lag request w).2 := by
  cases request with
  | hot r => exact aside.elim
  | cold r => exact aside.elim
  | _ => exact ⟨rfl, rfl, rfl, rfl⟩

theorem follows_late (lag : Nat) (w : World) :
    bystander.Follows (late lag) (fun _ => ()) w.Alike (fun _ => True) where
  tracks _ _ := rfl
  neutral _ _ _ _ := trivial
  allowed _ w' allowed h _ _ := ⟨h.trans (alike_late allowed lag w'), trivial⟩

theorem alike_settle {α : Type} {p : Procedure α} (silent : bystander.Silent p) (lag : Nat)
    (w : World) : w.Alike (p.settle (late lag) w).2 :=
  (settle_of_silent (follows_late lag w) silent (.refl w) trivial).1.1

end World

namespace Ledger

variable (l : Ledger)

/-! ## Writes -/

/-- What a ledger counts for some entries in a bucket: nothing if one of them is not acceptable. -/
def writesOf (bucket : Bucket) (entries : List Entry) : List (Key × Traffic) :=
  match entries.mapM (·.keyed bucket) with
  | .ok keyed => keyed.filter fun write => !write.2.isZero
  | .error _ => []

theorem Entry.keyed_eq {e : Entry} {bucket : Bucket} (sound : ResourceType.fault? e.tag = none) :
    e.keyed bucket =
      .ok (⟨bucket, e.subscription, ResourceType.ofTag e.tag, e.resource⟩, e.traffic) := by
  unfold Entry.keyed Key.ofTag ResourceType.parse
  rw [sound]
  rfl

theorem Entry.bucket_of_keyed {e : Entry} {bucket : Bucket} {key : Key} {traffic : Traffic}
    (keyed : e.keyed bucket = .ok (key, traffic)) : key.bucket = bucket := by
  unfold Entry.keyed Key.ofTag at keyed
  cases parsed : ResourceType.parse e.tag with
  | error why =>
    rw [parsed] at keyed
    cases keyed
  | ok type =>
    rw [parsed] at keyed
    cases keyed
    rfl

theorem writesOf_of_keyed {e : Entry} {bucket : Bucket} {key : Key}
    (keyed : e.keyed bucket = .ok (key, e.traffic)) (nonzero : e.traffic ≠ 0) :
    writesOf bucket [e] = [(key, e.traffic)] := by
  have single : [e].mapM (·.keyed bucket) = .ok [(key, e.traffic)] := by
    rw [List.mapM_cons, keyed]
    rfl
  have kept : e.traffic.isZero = false := Bool.eq_false_iff.2 (mt Traffic.isZero_iff.1 nonzero)
  unfold writesOf
  rw [single]
  simp [kept]

theorem bucket_of_mapM {bucket : Bucket} {entries : List Entry} {keyed : List (Key × Traffic)}
    (all : entries.mapM (·.keyed bucket) = .ok keyed) {write : Key × Traffic}
    (member : write ∈ keyed) : write.1.bucket = bucket := by
  induction entries generalizing keyed with
  | nil =>
    cases all
    cases member
  | cons e entries ih =>
    rw [List.mapM_cons] at all
    cases first : e.keyed bucket with
    | error why =>
      rw [first] at all
      cases all
    | ok own =>
      rw [first] at all
      cases rest : entries.mapM (·.keyed bucket) with
      | error why =>
        rw [rest] at all
        cases all
      | ok others =>
        rw [rest] at all
        cases all
        rcases List.mem_cons.1 member with rfl | member
        · exact Entry.bucket_of_keyed first
        · exact ih rest member

/-- What is counted in a bucket are keys of the bucket, with some traffic. -/
theorem mem_writesOf {bucket : Bucket} {entries : List Entry} {write : Key × Traffic}
    (member : write ∈ writesOf bucket entries) : write.1.bucket = bucket ∧ write.2 ≠ 0 := by
  unfold writesOf at member
  cases all : entries.mapM (·.keyed bucket) with
  | error why =>
    rw [all] at member
    cases member
  | ok keyed =>
    rw [all] at member
    obtain ⟨member, nonzero⟩ := List.mem_filter.1 member
    refine ⟨bucket_of_mapM all member, fun zero => ?_⟩
    rw [zero] at nonzero
    cases nonzero

theorem silent_record (event : Event) : bystander.Silent (Procedure.record event) :=
  .ask (neutral_of_isAside trivial)

theorem silent_recordUsage (c : Quota.Settings) (subscription : Id) (traffic : Traffic) :
    bystander.Silent (Quota.recordUsage c subscription traffic).run := by
  have side : ∀ {α : Type} (request : Side.Request α),
      bystander.Silent (Task.side request).run :=
    fun request => .ask (neutral_of_isAside trivial)
  have field : ∀ (name : String) (n : Count), bystander.Silent (ExceptT.run
      (if 0 < n.toNat then
        (fun _ => ()) <$> Task.side (.increment (c.key subscription) name (Quota.fieldValue n)
          c.lifespan)
      else pure () : Task PUnit)) := by
    intro name n
    split
    · exact silent_task_bind (side _) fun _ => trivial
    · trivial
  refine silent_task_bind ?_ fun _ => silent_task_bind (side _) fun _ => ?_
  · exact silent_task_bind (field _ _) fun _ => silent_task_bind (field _ _) fun _ => trivial
  · unfold liftExcept
    split <;> trivial

theorem silent_feedQuota (key : Key) (traffic : Traffic) :
    bystander.Silent (l.feedQuota key traffic) := by
  unfold feedQuota
  split
  · trivial
  · refine Silent.bind (silent_recordUsage _ _ _) fun result => ?_
    cases result with
    | ok _ => trivial
    | error e => exact silent_record _

theorem writesOf_singleton (bucket : Bucket) (e : Entry) :
    writesOf bucket [e] = match Key.ofTag bucket e.subscription e.tag e.resource with
      | .ok key => [(key, e.traffic)].filter fun write => !write.2.isZero
      | .error _ => [] := by
  unfold writesOf
  rw [List.mapM_cons, Entry.keyed]
  cases Key.ofTag bucket e.subscription e.tag e.resource <;> rfl

theorem settle_now {α : Type} (f : Instant → Procedure α) (lag : Nat) (w : World) :
    (Procedure.now >>= f).settle (World.late lag) w =
      (f (w.now.addNanos (-lag))).settle (World.late lag) w :=
  rfl

theorem settle_hot {α β : Type} (request : Hot.Request α) (f : Except Error α → Procedure β)
    (lag : Nat) (w : World) :
    (Procedure.hot request >>= f).settle (World.late lag) w =
      (f (.ok (w.hot.answer w.now request).1)).settle (World.late lag)
        { w with hot := (w.hot.answer w.now request).2 } :=
  rfl

/-- A single write counts its entry, if that is acceptable. -/
theorem alike_increment (e : Entry) (lag : Nat) (w : World) :
    (w.count (writesOf (l.zone.bucketOf (w.now.addNanos (-lag))) [e])).Alike
      ((l.increment e.subscription e.tag e.resource e.traffic).run.settle
        (World.late lag) w).2 := by
  change World.Alike _ (Program.settle (World.late lag) (Procedure.now >>= _) w).2
  rw [settle_now, writesOf_singleton]
  dsimp only
  cases Key.ofTag (l.zone.bucketOf (w.now.addNanos (-lag))) e.subscription e.tag e.resource with
  | error why =>
    refine World.alike_settle (Silent.bind (silent_record _) fun _ => ?_) lag w
    trivial
  | ok key =>
    have counted : w.count ([(key, e.traffic)].filter fun write => !write.2.isZero) =
        { w with hot := (w.hot.answer w.now (.increment key e.traffic)).2 } := by
      unfold World.count Hot.Store.answer Hot.Store.incrementAll Hot.Store.increment
      cases zero : e.traffic.isZero <;> simp [zero]
    dsimp only
    rw [settle_hot, counted]
    refine World.alike_settle (Silent.bind (silent_record _) fun _ => ?_) lag _
    exact Silent.bind (silent_feedQuota l key e.traffic) fun _ => trivial

/-- A batch counts its entries, if all of them are acceptable. -/
theorem alike_incrementAll (entries : List Entry) (lag : Nat) (w : World) :
    (w.count (writesOf (l.zone.bucketOf (w.now.addNanos (-lag))) entries)).Alike
      ((l.incrementAll entries).run.settle (World.late lag) w).2 := by
  change World.Alike _ (Program.settle (World.late lag) (Procedure.now >>= _) w).2
  rw [settle_now]
  unfold writesOf
  dsimp only
  cases entries.mapM (·.keyed (l.zone.bucketOf (w.now.addNanos (-lag)))) with
  | error why =>
    refine World.alike_settle (Silent.bind (silent_record _) fun _ => ?_) lag w
    trivial
  | ok keyed =>
    dsimp only
    generalize keyed.filter (fun write => !write.2.isZero) = writes
    split
    · next none =>
      rw [List.isEmpty_iff.1 none]
      exact .refl w
    · rw [settle_hot]
      refine World.alike_settle (Silent.bind (Silent.forM (fun write => ?_) writes) ?_) lag _
      · exact Silent.bind (silent_record _) fun _ => silent_feedQuota l write.1 write.2
      · exact fun _ => trivial

end Ledger

end Metering

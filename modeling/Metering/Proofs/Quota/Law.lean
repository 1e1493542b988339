import Metering.Proofs.Quota.Usage

/-!
# The law of usage

The ledger writes to the record of a subscription when it counts traffic of the type `subscription`,
one by one or in a batch, and when a quota is primed; a reset drops the record. Other commands leave
it alone. Between any two requests others may do whatever they want to the rest of the world; only
the record is spared, and does not expire.

Results: `usage_law`: after any commands the status of a subscription is what its writings since the
last reset say, no command fails to read what is stored, and a priming tells whether it filled a
field.
-/

namespace Metering.Ledger

open Program (Always)
open Side (Holds)
open Quota (Writing numbersOf statusAfter isPrimed)

/-- A command that may change a quota. -/
inductive Command
  | increment (entry : Entry)
  | incrementAll (entries : List Entry)
  | prime (subscription : Id) (limit : Option Count) (used : Traffic)
  | reset (subscription : Id)

/-- What a command answers. -/
inductive Reply
  | done
  | counted (writes : Nat)
  | primed (anyField : Bool)

/-- The program of a command. -/
def perform (l : Ledger) : Command → Task Reply
  | .increment e =>
    (fun _ => .done) <$> l.increment e.subscription e.tag e.resource e.traffic
  | .incrementAll entries => .counted <$> l.incrementAll entries
  | .prime subscription limit used => .primed <$> Quota.prime l.quota subscription limit used
  | .reset subscription => (fun _ => .done) <$> l.resetQuota subscription

/-- Commands one after another, with what each of them answers. -/
def session (l : Ledger) (commands : List Command) : Procedure (List (Except Error Reply)) :=
  commands.mapM fun command => (l.perform command).run

/-! ## Writings of commands -/

/-- The usage that an entry is for a subscription. -/
def Entry.writing? (s : Id) (e : Entry) : Option Writing :=
  if h : (e.tag = "subscription" ∧ e.subscription = s) ∧ e.traffic ≠ 0 then
    some (.usage e.traffic h.2)
  else none

/-- The writings for a subscription since the last reset, after one more command. An increment whose
tag is not acceptable writes nothing, nor does a batch with such an entry. -/
def Command.extend (s : Id) (ws : List Writing) : Command → List Writing
  | increment e => ws ++ (e.writing? s).toList
  | incrementAll entries =>
    if entries.all fun e => (ResourceType.fault? e.tag).isNone then
      ws ++ entries.filterMap (Entry.writing? s)
    else ws
  | prime subscription limit used => if subscription = s then ws ++ [.priming limit used] else ws
  | reset subscription => if subscription = s then [] else ws

/-- The writings of commands for a subscription since the last reset. -/
def writingsOf (s : Id) (commands : List Command) : List Writing :=
  commands.foldl (Command.extend s) []

/-- The usage that a counted write is for a subscription. -/
def writing? (s : Id) (write : Key × Traffic) : Option Writing :=
  if h : (write.1.type = .subscription ∧ write.1.subscription = s) ∧ write.2 ≠ 0 then
    some (.usage write.2 h.2)
  else none

theorem ofTag_eq_subscription_iff (tag : String) :
    ResourceType.ofTag tag = .subscription ↔ tag = "subscription" := by
  constructor
  · intro same
    rw [← ResourceType.tag_ofTag tag, same]
    rfl
  · rintro rfl
    decide

theorem keyed_of_fault {e : Entry} {why : Rejection} (fault : ResourceType.fault? e.tag = some why)
    (bucket : Bucket) : e.keyed bucket = .error why := by
  unfold Entry.keyed Key.ofTag ResourceType.parse
  rw [fault]
  rfl

/-- The write of an acceptable entry is the usage of the entry. -/
theorem writing?_of_keyed {e : Entry} {bucket : Bucket} {write : Key × Traffic} (s : Id)
    (keyed : e.keyed bucket = .ok write) : writing? s write = e.writing? s := by
  cases fault : ResourceType.fault? e.tag with
  | some why =>
    rw [keyed_of_fault fault] at keyed
    cases keyed
  | none =>
    rw [Entry.keyed_eq fault] at keyed
    cases keyed
    unfold writing? Entry.writing?
    simp only [ofTag_eq_subscription_iff]

/-- An entry that is not acceptable is no usage. -/
theorem writing?_of_fault {e : Entry} {why : Rejection}
    (fault : ResourceType.fault? e.tag = some why)
    (s : Id) : e.writing? s = none := by
  have sound : ResourceType.fault? "subscription" = none := by decide
  refine dif_neg fun h => ?_
  rw [h.1.1, sound] at fault
  cases fault

/-- A batch with an entry that is not acceptable has no writes. -/
theorem mapM_keyed_of_not_all {entries : List Entry}
    (bad : (entries.all fun e => (ResourceType.fault? e.tag).isNone) = false) (bucket : Bucket) :
    ∃ why, entries.mapM (·.keyed bucket) = .error why := by
  induction entries with
  | nil => cases bad
  | cons e entries ih =>
    rw [List.mapM_cons]
    cases fault : ResourceType.fault? e.tag with
    | some why => exact ⟨why, by rw [keyed_of_fault fault]; rfl⟩
    | none =>
      rw [List.all_cons, fault] at bad
      obtain ⟨why, failed⟩ := ih bad
      exact ⟨why, by rw [Entry.keyed_eq fault, failed]; rfl⟩

/-- The writes of a batch of acceptable entries are the usage of its entries. -/
theorem mapM_keyed_of_all {entries : List Entry}
    (good : (entries.all fun e => (ResourceType.fault? e.tag).isNone) = true) (bucket : Bucket)
    (s : Id) : ∃ keyed, entries.mapM (·.keyed bucket) = .ok keyed ∧
      keyed.filterMap (writing? s) = entries.filterMap (Entry.writing? s) := by
  induction entries with
  | nil => exact ⟨[], rfl, rfl⟩
  | cons e entries ih =>
    rw [List.all_cons, Bool.and_eq_true_iff] at good
    obtain ⟨keyed, all, same⟩ := ih good.2
    have own : e.keyed bucket = _ := Entry.keyed_eq (Option.isNone_iff_eq_none.1 good.1)
    refine ⟨_ :: keyed, by rw [List.mapM_cons, own, all]; rfl, ?_⟩
    rw [List.filterMap_cons, List.filterMap_cons, same, writing?_of_keyed s own]

theorem writing?_of_isZero {write : Key × Traffic} (zero : write.2.isZero = true) (s : Id) :
    writing? s write = none :=
  dif_neg fun h => h.2 (Traffic.isZero_iff.1 zero)

/-- Writes without traffic are no usage. -/
theorem filterMap_writing?_filter (writes : List (Key × Traffic)) (s : Id) :
    (writes.filter fun write => !write.2.isZero).filterMap (writing? s) =
      writes.filterMap (writing? s) := by
  induction writes with
  | nil => rfl
  | cons write writes ih =>
    cases zero : write.2.isZero with
    | true => rw [List.filter_cons_of_neg (by simp [zero]), List.filterMap_cons,
        writing?_of_isZero zero, ih]
    | false =>
      rw [List.filter_cons_of_pos (by simp [zero]), List.filterMap_cons, List.filterMap_cons, ih]

/-! ## Commands -/

section Commands

variable {l : Ledger} {s : Id} {w : World} {ws : List Writing}

theorem leaves_record (key : String) (event : Event) : Leaves key (Procedure.record event) :=
  .ask trivial

/-- Counted traffic is fed to the quota of its subscription. -/
theorem always_feedQuota (holds : Holds (w.recorded (l.quota.key s)) (numbersOf ws))
    (write : Key × Traffic) :
    Always World.answer (World.Spares (l.quota.key s)) (l.feedQuota write.1 write.2) w fun _ t =>
      Holds (t.recorded (l.quota.key s)) (numbersOf (ws ++ (writing? s write).toList)) := by
  unfold feedQuota writing?
  split
  · next aside =>
    have none : ¬ ((write.1.type = .subscription ∧ write.1.subscription = s) ∧ write.2 ≠ 0) := by
      rintro ⟨⟨type, -⟩, nonzero⟩
      exact aside.elim (fun zero => nonzero (Traffic.isZero_iff.1 zero)) fun ne => ne type
    rw [dif_neg none, Option.toList_none, List.append_nil]
    exact holds
  · next fed =>
    obtain ⟨nonzero, type⟩ := not_or.1 fed
    have type := Decidable.not_not.1 type
    have nonzero : write.2 ≠ 0 := fun zero => nonzero (Traffic.isZero_iff.2 zero)
    by_cases own : write.1.subscription = s
    · subst own
      rw [dif_pos ⟨⟨type, rfl⟩, nonzero⟩]
      refine Always.bind ((Quota.always_recordUsage holds write.2).mono ?_)
      rintro _ t ⟨⟨status, rfl⟩, holds⟩
      rw [Option.toList_some, Quota.numbersOf_concat]
      exact holds
    · rw [dif_neg fun h => own h.1.2]
      refine Always.bind ((Quota.leaves_recordUsage own write.2 w).mono fun result t same => ?_)
      have holds : Holds (t.recorded (l.quota.key s)) (numbersOf (ws ++ [])) := by
        rw [same, List.append_nil]
        exact holds
      cases result with
      | ok _ => exact holds
      | error e => exact (leaves_record _ _ t).mono fun _ _ same => same.symm ▸ holds

/-- The answer is no failure to read what is stored. -/
def Readable {α : Type} (result : Except Error α) : Prop :=
  ∀ text, result ≠ .error (.undecodable text)

theorem readable_ok {α : Type} (a : α) : Readable (.ok a) := fun _ => nofun

theorem always_increment (holds : Holds (w.recorded (l.quota.key s)) (numbersOf ws)) (e : Entry) :
    Always World.answer (World.Spares (l.quota.key s))
      (l.increment e.subscription e.tag e.resource e.traffic).run w fun result t =>
        Readable result ∧
        Holds (t.recorded (l.quota.key s)) (numbersOf (ws ++ (e.writing? s).toList)) := by
  refine Always.bind (Always.bind (always_elsewhere .now trivial fun t t' same => ?_))
  generalize l.zone.bucketOf (t.answer .now).1 = bucket
  rw [← same] at holds
  cases fault : ResourceType.fault? e.tag with
  | some why =>
    have refused : Key.ofTag bucket e.subscription e.tag e.resource = .error why := by
      unfold Key.ofTag ResourceType.parse
      rw [fault]
      rfl
    rw [refused, writing?_of_fault fault, Option.toList_none, List.append_nil]
    refine Always.pure (Always.bind ((leaves_record _ _ t').mono fun _ t same => ?_))
    exact ⟨fun _ => nofun, same.symm ▸ holds⟩
  | none =>
    have keyed : e.keyed bucket = _ := Entry.keyed_eq fault
    have made : Key.ofTag bucket e.subscription e.tag e.resource =
        .ok ⟨bucket, e.subscription, ResourceType.ofTag e.tag, e.resource⟩ := by
      unfold Key.ofTag ResourceType.parse
      rw [fault]
      rfl
    rw [made, ← writing?_of_keyed s keyed]
    refine Always.pure (Always.bind (always_hot _ fun _ t same => ?_))
    refine Always.bind ((leaves_record _ _ t).mono fun _ t' same' => ?_)
    rw [← same, ← same'] at holds
    refine Always.bind ((always_feedQuota holds (_, e.traffic)).mono fun _ t holds => ?_)
    exact ⟨readable_ok _, holds⟩

/-- The writes of a batch are fed one after another. -/
theorem always_feedAll (writes : List (Key × Traffic))
    (holds : Holds (w.recorded (l.quota.key s)) (numbersOf ws)) :
    Always World.answer (World.Spares (l.quota.key s))
      (writes.forM fun write => do
        Procedure.record (.increment write.2 true)
        l.feedQuota write.1 write.2) w fun _ t =>
      Holds (t.recorded (l.quota.key s)) (numbersOf (ws ++ writes.filterMap (writing? s))) := by
  have total (ws : List Writing) :
      writes.foldl (fun ws write => ws ++ (writing? s write).toList) ws =
        ws ++ writes.filterMap (writing? s) := by
    induction writes generalizing ws with
    | nil => simp
    | cons write writes ih =>
      rw [List.foldl_cons, ih, List.filterMap_cons]
      cases writing? s write <;> simp
  rw [← total]
  refine Always.forM (fun ws write => ws ++ (writing? s write).toList)
    (fun ws (t : World) => Holds (t.recorded (l.quota.key s)) (numbersOf ws))
    (fun ws write _ t holds => ?_) holds
  refine Always.bind ((leaves_record _ _ t).mono fun _ t' same => ?_)
  rw [← same] at holds
  exact always_feedQuota holds write

theorem always_incrementAll (holds : Holds (w.recorded (l.quota.key s)) (numbersOf ws))
    (entries : List Entry) :
    Always World.answer (World.Spares (l.quota.key s)) (l.incrementAll entries).run w
      fun result t => Readable result ∧
        Holds (t.recorded (l.quota.key s)) (numbersOf
          (if entries.all fun e => (ResourceType.fault? e.tag).isNone then
            ws ++ entries.filterMap (Entry.writing? s)
          else ws)) := by
  refine Always.bind (always_elsewhere .now trivial fun t t' same => ?_)
  generalize l.zone.bucketOf (t.answer .now).1 = bucket
  rw [← same] at holds
  dsimp only
  cases good : entries.all fun e => (ResourceType.fault? e.tag).isNone with
  | false =>
    obtain ⟨why, failed⟩ := mapM_keyed_of_not_all good bucket
    rw [failed]
    refine Always.bind ((leaves_record _ _ t').mono fun _ t same => ?_)
    exact ⟨fun _ => nofun, same.symm ▸ holds⟩
  | true =>
    obtain ⟨keyed, all, usage⟩ := mapM_keyed_of_all good bucket s
    rw [all, if_pos rfl, ← usage, ← filterMap_writing?_filter]
    dsimp only
    generalize (keyed.filter fun write => !write.2.isZero) = writes
    split
    · next none =>
      rw [List.isEmpty_iff.1 none]
      exact ⟨readable_ok _, by simpa using holds⟩
    · refine Always.bind (always_hot _ fun _ t same => ?_)
      rw [← same] at holds
      refine Always.bind ((always_feedAll writes holds).mono fun _ t holds => ?_)
      exact ⟨readable_ok _, holds⟩

theorem always_resetQuota (holds : Holds (w.recorded (l.quota.key s)) (numbersOf ws)) (s' : Id) :
    Always World.answer (World.Spares (l.quota.key s)) (l.resetQuota s').run w
      fun result t => Readable result ∧
        Holds (t.recorded (l.quota.key s)) (numbersOf (if s' = s then [] else ws)) := by
  have alert (w : World) : Always World.answer (World.Spares (l.quota.key s))
      (Alert.reset l.alert s').run w fun result t => (∃ existed, result = .ok existed) ∧
        t.recorded (l.quota.key s) = w.recorded (l.quota.key s) :=
    always_elsewhere (.side (.delete (l.alert.key s')))
      (fun same => l.quota.key_ne_alert l.alert s s' same.symm) fun t t' same => ⟨⟨_, rfl⟩, same⟩
  split
  · next own =>
    subst own
    refine Always.task_bind (always_delete fun existed t none => ?_)
    refine Always.task_bind ((alert t).mono ?_)
    rintro _ t' ⟨⟨existed, rfl⟩, same⟩
    refine ⟨readable_ok _, ?_⟩
    rw [same, none]
    exact Holds.empty
  · next other =>
    refine Always.task_bind (always_elsewhere (.side (.delete (l.quota.key s')))
      (fun same => other (l.quota.key_inj same)) fun u t same => ?_)
    refine Always.task_bind ((alert t).mono ?_)
    rintro _ t' ⟨⟨existed, rfl⟩, same'⟩
    refine ⟨readable_ok _, ?_⟩
    rw [same', same]
    exact holds

theorem always_prime (holds : Holds (w.recorded (l.quota.key s)) (numbersOf ws)) (s' : Id)
    (limit : Option Count) (used : Traffic) :
    Always World.answer (World.Spares (l.quota.key s)) (Quota.prime l.quota s' limit used).run w
      fun result t => Readable result ∧ (s' = s → result = .ok !isPrimed ws limit) ∧
        Holds (t.recorded (l.quota.key s))
          (numbersOf (if s' = s then ws ++ [.priming limit used] else ws)) := by
  by_cases own : s' = s
  · subst own
    refine (Quota.always_prime holds limit used).mono ?_
    rintro _ t ⟨rfl, holds⟩
    rw [if_pos rfl, Quota.numbersOf_concat]
    exact ⟨readable_ok _, fun _ => congrArg _ (Quota.any_seeds_isNone ws limit used), holds⟩
  · refine (Quota.always_prime_elsewhere own limit used).mono ?_
    rintro _ t ⟨⟨written, rfl⟩, same⟩
    rw [if_neg own, same]
    exact ⟨readable_ok _, fun own' => absurd own' own, holds⟩

/-- A command writes to the record of a subscription what it says, and can read what is stored. -/
theorem always_perform (holds : Holds (w.recorded (l.quota.key s)) (numbersOf ws))
    (command : Command) :
    Always World.answer (World.Spares (l.quota.key s)) (l.perform command).run w fun reply t =>
      Readable reply ∧ Holds (t.recorded (l.quota.key s)) (numbersOf (command.extend s ws)) := by
  have reply {α : Type} {task : Task α} (f : α → Reply) {P : World → Prop}
      (h : Always World.answer (World.Spares (l.quota.key s)) task.run w fun result t =>
        Readable result ∧ P t) :
      Always World.answer (World.Spares (l.quota.key s)) (f <$> task).run w fun result t =>
        Readable result ∧ P t := by
    refine Always.task_bind (h.mono fun result t post => ?_)
    cases result with
    | ok a => exact ⟨readable_ok _, post.2⟩
    | error e => exact ⟨fun text same => post.1 text (by cases same; rfl), post.2⟩
  cases command with
  | increment e => exact reply _ (always_increment holds e)
  | incrementAll entries => exact reply _ (always_incrementAll holds entries)
  | prime s' limit used =>
    exact reply _ ((always_prime holds s' limit used).mono fun _ _ post => ⟨post.1, post.2.2⟩)
  | reset s' => exact reply _ (always_resetQuota holds s')

theorem always_session (holds : Holds (w.recorded (l.quota.key s)) (numbersOf ws))
    (commands : List Command) :
    Always World.answer (World.Spares (l.quota.key s)) (l.session commands) w fun replies t =>
      (∀ reply ∈ replies, Readable reply) ∧
        Holds (t.recorded (l.quota.key s)) (numbersOf (commands.foldl (Command.extend s) ws)) := by
  induction commands generalizing w ws with
  | nil => exact ⟨fun _ => nofun, holds⟩
  | cons command commands ih =>
    unfold session
    rw [List.mapM_cons]
    refine Always.bind ((always_perform holds command).mono fun reply t first => ?_)
    refine Always.bind ((ih first.2).mono fun replies t' rest => ?_)
    refine ⟨fun r member => ?_, rest.2⟩
    rcases List.mem_cons.1 member with rfl | member
    · exact first.1
    · exact rest.1 r member

end Commands

/-! ## The law -/

section Law

variable {l : Ledger} {s : Id} {w : World}

/-- From a store without a record of a subscription: after any commands, whatever others do besides,
the status of the subscription is what its writings since the last reset say, and no command fails
to read what is stored. One more priming tells whether it filled a field; one that finds all its
fields changes nothing. -/
theorem usage_law (fresh : w.side[l.quota.key s]? = none) (commands : List Command) :
    (Always World.answer (World.Spares (l.quota.key s))
      (do
        let replies ← l.session commands
        let status ← (Quota.status l.quota s).run
        return (replies, status))
      w fun (replies, status) _ =>
        (∀ reply ∈ replies, Readable reply) ∧
        status = .ok (statusAfter (writingsOf s commands))) ∧
    ∀ limit used, Always World.answer (World.Spares (l.quota.key s))
      (do
        let _ ← l.session commands
        let primed ← (Quota.prime l.quota s limit used).run
        let status ← (Quota.status l.quota s).run
        return (primed, status))
      w fun (primed, status) _ =>
        primed = .ok !isPrimed (writingsOf s commands) limit ∧
        (primed = .ok false → status = .ok (statusAfter (writingsOf s commands))) := by
  have start : Holds (w.recorded (l.quota.key s)) (numbersOf []) := by
    unfold World.recorded
    rw [fresh]
    exact Holds.empty
  have session := always_session start commands
  constructor
  · refine Always.bind (session.mono fun replies t post => ?_)
    refine Always.bind ((Quota.always_status post.2).mono fun status _ read => ?_)
    exact ⟨post.1, read.1⟩
  · intro limit used
    refine Always.bind (session.mono fun replies t post => ?_)
    refine Always.bind ((always_prime post.2 s limit used).mono fun result t primed => ?_)
    have told : result = .ok !isPrimed (writingsOf s commands) limit := primed.2.1 rfl
    have holds := primed.2.2
    rw [if_pos rfl] at holds
    refine Always.bind ((Quota.always_status holds).mono fun status _ read => ?_)
    refine ⟨told, fun nothing => ?_⟩
    have full : isPrimed (writingsOf s commands) limit = true := by
      rw [told] at nothing
      simpa using nothing
    rw [read.1, ← Quota.statusAfter_concat_priming full used]
    rfl

/-- Uploads are counted before the priming, downloads only after it; what is of another type, of
another subscription or in a refused batch counts for nothing. -/
theorem usage_of_a_cycle :
    let zone : Zone := { offset := 28800 }
    let l : Ledger := {
      config := {}, zone, compaction := ⟨zone, 86400000000000, {}⟩
      query := ⟨zone, 86400000000000, {}, .passthrough⟩
      quota := ⟨"traffic", 2678400000000000⟩
      alert := ⟨"traffic", [80, 90, 100], 2678400000000000⟩ }
    let w : World := { now := .ofSeconds 1709266200, hot := l.emptyHotStore }
    let commands : List Command := [
      .increment ⟨1, "subscription", 7, .ofNats 11 11⟩, .reset 1,
      .increment ⟨1, "subscription", 7, .ofNats 30 0⟩,
      .prime 1 (some (.ofNat 1000)) (.ofNats 500 400),
      .incrementAll [⟨1, "subscription", 8, .ofNats 5 5⟩, ⟨1, "node", 1, .ofNats 9 9⟩,
        ⟨2, "subscription", 1, .ofNats 1 1⟩],
      .incrementAll [⟨1, "subscription", 8, .ofNats 5 5⟩, ⟨1, "", 1, .ofNats 1 1⟩]]
    let status : Quota.Status := ⟨some (.ofNat 1000), .ofNats 35 405⟩
    w.side[l.quota.key 1]? = none ∧
      ((l.session commands >>= fun _ => (Quota.status l.quota 1).run).settle World.answer w).1 =
        .ok (some status) ∧
      Always World.answer (World.Spares (l.quota.key 1))
        (do
          let replies ← l.session commands
          let status ← (Quota.status l.quota 1).run
          return (replies, status))
        w fun (_, read) _ => read = .ok (some status) := by
  intro zone l w commands status
  have fresh : w.side[l.quota.key 1]? = none := Std.ExtTreeMap.getElem?_empty
  have counted : statusAfter (writingsOf 1 commands) = some status := by decide +kernel
  have settled : ((l.session commands >>= fun _ => (Quota.status l.quota 1).run).settle
      World.answer w).1 = .ok (some status) := by decide +kernel
  refine ⟨fresh, settled, ?_⟩
  -- from here on the values do not matter, and unfolding them takes long
  clear settled
  clear_value status commands w l
  exact (usage_law fresh commands).1.mono fun _ _ post => post.2.trans (congrArg _ counted)

end Law

end Metering.Ledger

import Metering.Proofs.Service.Entries

/-!
# Restarts

A call for restarts looks at the statuses once, and then sees to the failed services in the order of
their names: it waits out the delay that the policy sets, counts and orders a run, or leaves the
service alone if the policy allows no further restart. What services do meanwhile has no influence on
which ones are started again.

Results:
1. `RestartPolicy.delay?_eq_some_iff`: which restart a policy allows, and after what delay.
2. `Supervisor.seesTo_restartEach`: what a pass over failed services does.
3. `Supervisor.mem_named_due`, `Supervisor.orderedAt_due`: which services a call starts again, and
   when.
-/

namespace Metering.Service

/-- The policy allows the restart of a number, counted from one, after a delay in milliseconds. -/
inductive RestartPolicy.Allows : RestartPolicy → Nat → Nat → Prop
  | always {backoff number : Nat} : Allows (.always backoff) number backoff
  | onFailure {maxRetries backoff number : Nat} (within : number ≤ maxRetries) :
      Allows (.onFailure maxRetries backoff) number (number * backoff)

theorem RestartPolicy.delay?_eq_some_iff {p : RestartPolicy} {restarts delay : Nat} :
    p.delay? restarts = some delay ↔ p.Allows (restarts + 1) delay := by
  constructor
  · intro told
    cases p with
    | never => cases told
    | always backoff =>
      cases told
      exact .always
    | onFailure maxRetries backoff =>
      simp only [delay?] at told
      split at told
      · next within =>
        cases told
        exact Nat.mul_comm .. ▸ .onFailure within
      · cases told
  · rintro (_ | within)
    · rfl
    · exact (if_pos within).trans (congrArg some (Nat.mul_comm ..))

namespace Supervisor

/-! ## A pass -/

/-- The services that a pass starts again. -/
def named (due : List (String × Option Nat)) : List String :=
  due.filterMap fun entry => entry.2.map fun _ => entry.1

/-- The accounts of all services are as they were, but for the restarts of some names. -/
def Counts (s : Supervisor) (names : List String) (s' : Supervisor) : Prop :=
  ∀ name, s'.account? name = (s.account? name).map (Account.add (names.count name))

theorem isSome_account? (s : Supervisor) (name : String) :
    (s.account? name).isSome = (s.entryOf? name).isSome := Option.isSome_map

theorem Counts.isSome_entryOf? {s s' : Supervisor} {names : List String} (h : s.Counts names s')
    (name : String) : (s'.entryOf? name).isSome = (s.entryOf? name).isSome := by
  rw [← isSome_account?, h, Option.isSome_map, isSome_account?]

theorem Counts.of_eq {s s' : Supervisor} (same : s'.account? = s.account?) : s.Counts [] s' := by
  intro name
  rw [same, List.count_nil]
  exact Option.map_id'.symm

/-- Some services were started again, one after the other, and nothing else was done. -/
structure SeesTo (s : Supervisor) (names : List String) (s' : Supervisor) : Prop where
  settings : s'.settings = s.settings
  isShutdown : s'.isShutdown = s.isShutdown
  counts : s.Counts names s'
  entryOf?_of_notMem : ∀ name, name ∉ names → s'.entryOf? name = s.entryOf? name
  orders : s'.orders = s.orders ++ names

theorem SeesTo.refl (s : Supervisor) : s.SeesTo [] s :=
  ⟨rfl, rfl, .of_eq rfl, fun _ _ => rfl, (List.append_nil _).symm⟩

/-- One more service is started again, before the others. -/
theorem SeesTo.cons {s s₁ s' : Supervisor} {name : String} {names : List String} {now : Nat}
    (first : s.Orders name (fun e => ⟨e.add 1, some now⟩) s₁)
    (rest : s₁.SeesTo names s') : s.SeesTo (name :: names) s' where
  settings := rest.settings.trans first.settings
  isShutdown := rest.isShutdown.trans first.isShutdown
  counts other := by
    rw [rest.counts]
    by_cases same : other = name
    · rw [same, account?, account?, first.entryOf?_self, Option.map_map, Option.map_map,
        Option.map_map, List.count_cons_self]
      refine congrArg (Option.map · _) (funext fun e => ?_)
      simp only [Function.comp_apply, Account.add]
      rw [Nat.add_right_comm, Nat.add_assoc]
    · rw [account?, first.entryOf?_ne other same, List.count_cons_of_ne (Ne.symm same)]
      rfl
  entryOf?_of_notMem other unnamed := by
    obtain ⟨ne, unnamed⟩ := not_or.1 (mt List.mem_cons.2 unnamed)
    rw [rest.entryOf?_of_notMem other unnamed, first.entryOf?_ne other ne]
  orders := by rw [rest.orders, first.orders, List.append_assoc, List.singleton_append]

theorem Orders.isSome_entryOf? {s s' : Supervisor} {name : String} {f : Entry → Entry}
    (h : s.Orders name f s') (other : String) :
    (s'.entryOf? other).isSome = (s.entryOf? other).isSome := by
  by_cases same : other = name
  · rw [same, h.entryOf?_self, Option.isSome_map]
  · rw [h.entryOf?_ne other same]

/-- A pass starts the services again that have a delay, in the order of the list. -/
theorem seesTo_restartEach {due : List (String × Option Nat)} {s : Supervisor}
    (registered : ∀ entry ∈ due, (s.entryOf? entry.1).isSome = true) :
    (restartEach due s).1 = named due ∧ s.SeesTo (named due) (restartEach due s).2 := by
  induction due generalizing s with
  | nil => exact ⟨rfl, .refl s⟩
  | cons entry rest ih =>
    obtain ⟨known, others⟩ := List.forall_mem_cons.1 registered
    obtain ⟨name, delay?⟩ := entry
    cases delay? with
    | none => exact ih others
    | some delay =>
      obtain ⟨s₁, started, ordered⟩ := respawn delay known
      -- the others are registered still, so no start is refused
      obtain ⟨names, sees⟩ := ih fun entry member =>
        (ordered.isSome_entryOf? _).trans (others entry member)
      unfold restartEach
      rw [started]
      exact ⟨congrArg (name :: ·) names, .cons ordered sees⟩

/-- A pass over two lists is a pass over the one and then over the other. -/
theorem restartEach_append (ahead behind : List (String × Option Nat)) (s : Supervisor) :
    (restartEach (ahead ++ behind) s).2 = (restartEach behind (restartEach ahead s).2).2 := by
  induction ahead generalizing s with
  | nil => rfl
  | cons entry rest ih =>
    obtain ⟨name, delay?⟩ := entry
    cases delay? with
    | none => exact ih s
    | some delay =>
      rw [List.cons_append, restartEach, restartEach]
      cases ((s.wait delay).countRestart name).start name with
      | ok s₁ => exact ih s₁
      | error e => exact ih _

/-- A service is started again after its delay, from when its turn has come. -/
theorem orderedAt_restartEach {ahead behind : List (String × Option Nat)} {name : String}
    {delay : Nat} {s : Supervisor}
    (registered : ∀ entry ∈ ahead ++ (name, some delay) :: behind, (s.entryOf? entry.1).isSome = true)
    (once : name ∉ named behind) :
    ((restartEach (ahead ++ (name, some delay) :: behind) s).2.entryOf? name).bind Entry.orderedAt =
      some ((restartEach ahead s).2.now + delay) := by
  obtain ⟨registeredAhead, registered⟩ := List.forall_mem_append.1 registered
  obtain ⟨-, seen⟩ := seesTo_restartEach registeredAhead
  have known := (seen.counts.isSome_entryOf? name).trans (registered _ List.mem_cons_self)
  obtain ⟨s₁, started, ordered⟩ := respawn delay known
  have others : ∀ entry ∈ behind, (s₁.entryOf? entry.1).isSome = true := fun entry member =>
    (ordered.isSome_entryOf? _).trans ((seen.counts.isSome_entryOf? _).trans
      (registered entry (List.mem_cons_of_mem _ member)))
  obtain ⟨-, later⟩ := seesTo_restartEach others
  -- what is done behind it concerns other services
  have last : (restartEach (ahead ++ (name, some delay) :: behind) s).2 =
      (restartEach behind s₁).2 := by
    rw [restartEach_append, restartEach, started]
  obtain ⟨e, found⟩ := Option.isSome_iff_exists.1 known
  rw [last, later.entryOf?_of_notMem name once, ordered.entryOf?_self, found]
  rfl

/-! ## Failed services -/

theorem mem_due {s : Supervisor} {name : String} {delay? : Option Nat} :
    (name, delay?) ∈ s.due ↔ ∃ slot, s.slots[name]? = some slot ∧ slot.status.isFailed = true ∧
      slot.script.policy.delay? slot.restarts = delay? := by
  unfold due
  simp only [List.mem_map, List.mem_filter, Prod.exists, Prod.mk.injEq,
    Std.ExtTreeMap.mem_toList_iff_getElem?_eq_some]
  constructor
  · rintro ⟨_, slot, ⟨found, failed⟩, rfl, delay⟩
    exact ⟨slot, found, failed, delay⟩
  · rintro ⟨slot, found, failed, delay⟩
    exact ⟨name, slot, ⟨found, failed⟩, rfl, delay⟩

/-- Failed services are listed in the order of their names. -/
theorem pairwise_due (s : Supervisor) : s.due.Pairwise fun a b => a.1 < b.1 := by
  unfold due
  rw [List.pairwise_map]
  refine List.Pairwise.filter _ (Std.ExtTreeMap.ordered_keys_toList.imp fun less => ?_)
  exact compareOfLessAndEq_eq_lt.1 less

theorem mem_named {due : List (String × Option Nat)} {name : String} :
    name ∈ named due ↔ ∃ delay, (name, some delay) ∈ due := by
  unfold named
  rw [List.mem_filterMap]
  constructor
  · rintro ⟨⟨other, delay?⟩, member, told⟩
    obtain ⟨delay, rfl, rfl⟩ := Option.map_eq_some_iff.1 told
    exact ⟨delay, member⟩
  · rintro ⟨delay, member⟩
    exact ⟨_, member, rfl⟩

theorem pairwise_named {due : List (String × Option Nat)}
    (sorted : due.Pairwise fun a b => a.1 < b.1) : (named due).Pairwise (· < ·) := by
  refine List.Pairwise.filterMap _ (fun a b less x told y told' => ?_) sorted
  obtain ⟨-, -, rfl⟩ := Option.map_eq_some_iff.1 told
  obtain ⟨-, -, rfl⟩ := Option.map_eq_some_iff.1 told'
  exact less

/-- The services that a call may start again: those that have failed and may be. -/
theorem mem_named_due {s : Supervisor} {name : String} : name ∈ named s.due ↔
    ∃ slot delay, s.slots[name]? = some slot ∧ slot.status.isFailed = true ∧
      slot.script.policy.Allows (slot.restarts + 1) delay := by
  simp only [mem_named, mem_due, RestartPolicy.delay?_eq_some_iff]
  exact exists_comm

theorem nodup_named_due (s : Supervisor) : (named s.due).Nodup :=
  (pairwise_named s.pairwise_due).imp fun {a b} (less : a < b) (same : a = b) =>
    String.lt_irrefl b (same ▸ less)

theorem registered_due (s : Supervisor) : ∀ entry ∈ s.due, (s.entryOf? entry.1).isSome = true := by
  rintro ⟨name, delay?⟩ member
  obtain ⟨slot, found, -⟩ := mem_due.1 member
  rw [entryOf?, found]
  rfl

/-- Each of them is started after its delay, from when its turn has come. -/
theorem orderedAt_due {s : Supervisor} {name : String} {delay : Nat}
    (listed : (name, some delay) ∈ s.due) :
    ∃ ahead behind, s.due = ahead ++ (name, some delay) :: behind ∧
      ((restartEach s.due s).2.entryOf? name).bind Entry.orderedAt =
        some ((restartEach ahead s).2.now + delay) := by
  obtain ⟨ahead, behind, split⟩ := List.append_of_mem listed
  have once : name ∉ named behind := by
    have nodup := s.nodup_named_due
    rw [split, named, List.filterMap_append] at nodup
    exact (List.nodup_cons.1 (List.nodup_append.1 nodup).2.1).1
  have ordered := orderedAt_restartEach (split ▸ s.registered_due) once
  rw [← split] at ordered
  exact ⟨ahead, behind, split, ordered⟩

/-- A call starts services again, or does nothing at all. -/
theorem restartFailed_eq (s : Supervisor) : s.restartFailed =
    if s.settings.autoRestart = true ∧ s.isShutdown = false then restartEach s.due s
    else ([], s) := by
  unfold restartFailed
  cases s.settings.autoRestart <;> cases s.isShutdown <;> rfl

end Supervisor

end Metering.Service

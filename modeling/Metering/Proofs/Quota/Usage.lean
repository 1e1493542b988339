import Metering.Proofs.Ledger.Writing
import Metering.Proofs.Quota.Writings

/-!
# Calls of a quota

Usage is added to the fields of the directions that have any, a priming fills the fields that are
missing, and the status is read off the fields. A call is met with whatever others do to the rest of
the world between its requests; only the record of its subscription is spared. Calls for other
subscriptions are among the others: their records have other keys.

Results: `always_recordUsage`, `always_prime`, `always_status`: what a call makes of the record, and
what it answers; `leaves_recordUsage`, `always_prime_elsewhere`: calls for others leave it alone.
-/

namespace Metering.Quota

open Program (Always)
open Side (Holds Numbers)

section Record

variable {c : Settings} {s : Id} {w : World} {numbers : Numbers}

/-- A call that writes to one field changes its number. -/
theorem always_addTo (holds : Holds (w.recorded (c.key s)) numbers) (field : String) (n : Count) :
    Always World.answer (World.Spares (c.key s)) (ExceptT.run (m := Procedure) (ε := Error)
      (if 0 < n.toNat then
        (fun _ => PUnit.unit) <$> Task.side (.increment (c.key s) field (fieldValue n) c.lifespan)
      else pure PUnit.unit)) w fun result t => result = .ok ⟨⟩ ∧
        Holds (t.recorded (c.key s)) (numbers.change field (added n)) := by
  by_cases pos : 0 < n.toNat
  · have change : added n = fun old => some (min maxField (old.getD 0 + fieldValue n)) := by
      funext old
      exact if_pos pos
    rw [if_pos pos, change]
    refine Always.task_bind ((always_increment holds field (fieldValue n) _).mono ?_)
    rintro _ t ⟨⟨sum, rfl⟩, holds⟩
    exact ⟨rfl, holds⟩
  · have same : added n (numbers field) = numbers field := if_neg pos
    rw [if_neg pos, Numbers.change_eq_self _ _ same]
    exact ⟨rfl, holds⟩

/-- Usage is added to the fields of the directions that have any. -/
theorem always_recordUsage (holds : Holds (w.recorded (c.key s)) numbers) (traffic : Traffic) :
    Always World.answer (World.Spares (c.key s)) (recordUsage c s traffic).run w
      fun result t => (∃ status, result = .ok status) ∧
        Holds (t.recorded (c.key s)) (changeAll added numbers (usage traffic)) := by
  have each (numbers : Numbers) (value : String × Count) (_ : value ∈ usage traffic) (t : World)
      (holds : Holds (t.recorded (c.key s)) numbers) := always_addTo holds value.1 value.2
  refine Always.task_bind ((Always.task_forM _ (fun numbers t =>
    Holds (t.recorded (c.key s)) numbers) each holds).mono ?_)
  rintro _ t ⟨rfl, holds⟩
  refine Always.task_bind (always_fields fun t' same => ?_)
  dsimp only
  rw [holds.statusOf]
  exact ⟨⟨_, rfl⟩, same.symm ▸ holds⟩

theorem leaves_recordUsage {s' : Id} (other : s' ≠ s) (traffic : Traffic) :
    Leaves (c.key s) (recordUsage c s' traffic).run := by
  have elsewhere : c.key s' ≠ c.key s := fun same => other (c.key_inj same)
  have one (field : String) (n : Count) :
      Leaves (c.key s) (ExceptT.run (m := Procedure) (ε := Error) (if 0 < n.toNat then
        (fun _ => PUnit.unit) <$> Task.side (.increment (c.key s') field (fieldValue n) c.lifespan)
      else pure PUnit.unit)) := by
    split
    · exact .task_bind (.ask elsewhere) fun _ => .pure _
    · exact .pure _
  refine .task_bind (.task_bind (one _ _) fun _ => ?_) fun _ => ?_
  · exact .task_bind (one _ _) fun _ => .pure _
  · refine .task_bind (.ask elsewhere) fun fields => ?_
    unfold liftExcept
    split <;> exact .pure _

/-- A value is filled in; that its field was missing is told along with the numbers. -/
def fill (filled : Numbers × Bool) (value : String × Count) : Numbers × Bool :=
  (filled.1.change value.1 (seeded value.2), filled.2 || (filled.1 value.1).isNone)

/-- Values of different fields do not get in the way of each other. -/
theorem foldl_fill {values : List (String × Count)} (once : (values.map Prod.fst).Nodup)
    (filled : Numbers × Bool) : values.foldl fill filled =
      (changeAll seeded filled.1 values,
        filled.2 || values.any fun value => (filled.1 value.1).isNone) := by
  induction values generalizing filled with
  | nil => simp [changeAll]
  | cons value values ih =>
    obtain ⟨fresh, once⟩ := List.nodup_cons.1 once
    have others :
        values.any (fun v => ((filled.1.change value.1 (seeded value.2)) v.1).isNone) =
          values.any fun v => (filled.1 v.1).isNone := by
      rw [Bool.eq_iff_iff, List.any_eq_true, List.any_eq_true]
      refine exists_congr fun v => and_congr_right fun member => ?_
      have ne : v.1 ≠ value.1 := fun same =>
        fresh (same ▸ List.mem_map_of_mem (f := Prod.fst) member)
      rw [Numbers.change_of_ne _ _ ne]
    rw [List.foldl_cons, fill, ih once, others, List.any_cons, ← Bool.or_assoc]
    rfl

/-- A priming fills the fields that are missing, and tells whether there were any. -/
theorem always_prime (holds : Holds (w.recorded (c.key s)) numbers) (limit : Option Count)
    (used : Traffic) :
    Always World.answer (World.Spares (c.key s)) (prime c s limit used).run w
      fun result t =>
        result = .ok ((seeds limit used).any fun value => (numbers value.1).isNone) ∧
        Holds (t.recorded (c.key s)) (changeAll seeded numbers (seeds limit used)) := by
  unfold prime
  have start : Holds (w.recorded (c.key s)) numbers ∧ false = false := ⟨holds, rfl⟩
  refine (Always.task_foldlM fill (fun filled written t =>
    Holds (t.recorded (c.key s)) filled.1 ∧ written = filled.2) ?_
      (g := (numbers, false)) start).mono ?_
  · rintro filled written value - t ⟨holds, rfl⟩
    refine Always.task_bind ((always_setIfAbsent holds value.1 (Nat.min_le_right _ _)
      c.lifespan).mono ?_)
    rintro _ t ⟨rfl, holds⟩
    exact ⟨_, rfl, holds, rfl⟩
  · rintro _ t ⟨written, rfl, holds, rfl⟩
    change Holds _ ((seeds limit used).foldl fill (numbers, false)).1 at holds
    change Except.ok ((seeds limit used).foldl fill (numbers, false)).2 = _ ∧ _
    rw [foldl_fill (nodup_seeds limit used)] at holds ⊢
    exact ⟨by simp, holds⟩

theorem always_prime_elsewhere {s' : Id} (other : s' ≠ s) (limit : Option Count) (used : Traffic) :
    Always World.answer (World.Spares (c.key s)) (prime c s' limit used).run w
      fun result t => (∃ written, result = .ok written) ∧
        t.recorded (c.key s) = w.recorded (c.key s) := by
  have elsewhere : c.key s' ≠ c.key s := fun same => other (c.key_inj same)
  unfold prime
  refine (Always.task_foldlM (fun (_ : Unit) _ => ()) (fun _ _ t =>
    t.recorded (c.key s) = w.recorded (c.key s)) ?_ (g := ()) rfl).mono ?_
  · intro _ written value _ t held
    refine Always.task_bind (always_elsewhere (.side (.setIfAbsent (c.key s') value.1
      (Nat.repr (fieldValue value.2)) c.lifespan)) elsewhere fun t t' same => ?_)
    exact ⟨_, rfl, same.trans held⟩
  · rintro _ t ⟨written, rfl, same⟩
    exact ⟨⟨written, rfl⟩, same⟩

/-- The status that is read is what the numbers say. -/
theorem always_status {ws : List Writing} (holds : Holds (w.recorded (c.key s)) (numbersOf ws)) :
    Always World.answer (World.Spares (c.key s)) (status c s).run w
      fun result t => result = .ok (statusAfter ws) ∧
        t.recorded (c.key s) = w.recorded (c.key s) := by
  refine Always.task_bind (always_fields fun t same => ?_)
  dsimp only
  rw [isEmpty_iff holds, statusOf_eq holds]
  unfold statusAfter
  split
  · exact ⟨rfl, same⟩
  · exact ⟨rfl, same⟩

end Record

end Metering.Quota

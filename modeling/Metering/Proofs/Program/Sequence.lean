import Metering.Program

/-!
# Tasks in sequence

A group or a join that runs in sequence is its tasks one after another. `settleEach` says so for a
list of tasks, without the numbers that tell the tasks of a group apart.

Results: `settle_all`, `settle_together`.
-/

namespace Metering.Program

variable {Op : Type → Type 1} {α : Type} {σ : Type} (answer : {β : Type} → Op β → σ → β × σ)

/-- Runs the tasks of a list one after another. -/
def settleEach : List (Program Op α) → σ → List α × σ
  | [], s => ([], s)
  | task :: tasks, s =>
    let (a, s) := task.settle answer s
    let (as, s) := settleEach tasks s
    (a :: as, s)

variable {answer} {size : Nat} {task : Fin size → Program Op α}

theorem settleAll_eq (is : List (Fin size)) (s : σ) :
    settleAll (fun i => (task i).settle answer) is s = settleEach answer (is.map task) s := by
  induction is generalizing s with
  | nil => rfl
  | cons i is ih => simp only [settleAll, List.map_cons, settleEach, ih]

/-- A join that nothing stops runs all of its tasks. -/
theorem settleJoin_eq (is : List (Fin size)) (s : σ) :
    settleJoin (fun i => (task i).settle answer) (fun _ => false) is s =
      (.ok (settleEach answer (is.map task) s).1, (settleEach answer (is.map task) s).2) := by
  induction is generalizing s with
  | nil => rfl
  | cons i is ih =>
    simp only [settleJoin, List.map_cons, settleEach, ih]
    rfl

theorem map_finRange_toArray (tasks : List (Program Op α)) :
    (List.finRange tasks.toArray.size).map (fun i => getElem tasks.toArray i i.isLt) = tasks := by
  refine List.ext_getElem (by simp) fun i _ _ => ?_
  simp

theorem settle_all (width : Nat) (tasks : List (Program Op α)) (s : σ) :
    (all width tasks).settle answer s = settleEach answer tasks s := by
  simp only [all, settle, settleAll_eq, map_finRange_toArray]

theorem settle_together (tasks : List (Program Op α)) (s : σ) :
    (together tasks).settle answer s = settleEach answer tasks s := by
  simp only [together, settle, settleJoin_eq, joined, map_finRange_toArray]

end Metering.Program

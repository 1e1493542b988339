import Mathlib.Data.List.Forall2
import Metering.Proofs.Program.Completion

/-!
# A state of cells

`view` tells what is in each cell of a state. A task that works on one cell, and leaves the others
alone, is not disturbed by tasks that work on other cells, so what it makes of its cell is told as
if it ran by itself. A group of such tasks makes of each cell what its task does, in whatever order
the tasks take their turns.

Results:
1. `OnCells.move`, `OnCells.reaches`: one move keeps what is known of the end, and so does a run.
2. `OnCells.gather`, `OnCells.all`: a group of tasks, each of which works on a cell of its own.
-/

namespace Metering.Program

variable {Op : Type → Type 1} {σ κ D : Type} (answer : {β : Type} → Op β → σ → β × σ)
  (inv : σ → Prop) (view : σ → κ → D) {α β : Type}

/-- From `d` in the cell `k` the program ends as `Q` says of its result and that cell, and it leaves
all other cells alone. A program that runs tasks is not spoken for. -/
def OnCell (k : κ) : {α : Type} → Program Op α → D → (α → D → Prop) → Prop
  | _, .pure a, d, Q => Q a d
  | _, .request op next, d, Q =>
    ∀ s, inv s → view s k = d →
      (inv (answer op s).2 ∧ ∀ k', k' ≠ k → view (answer op s).2 k' = view s k') ∧
        OnCell k (next (answer op s).1) (view (answer op s).2 k) Q
  | _, .pause next, d, Q => OnCell k next d Q
  | _, .group .., _, _ | _, .join .., _, _ | _, .watch .., _, _ => False

/-- From the cells `v` the program ends as `Q` says of its result and the cells. Each task of a
group works on a cell of its own, which is known by itself (`R`), and a watch is never over. -/
def OnCells : {α : Type} → Program Op α → (κ → D) → (α → (κ → D) → Prop) → Prop
  | _, .pure a, v, Q => Q a v
  | _, .request op next, v, Q =>
    ∀ s, inv s → view s = v →
      inv (answer op s).2 ∧ OnCells (next (answer op s).1) (view (answer op s).2) Q
  | _, .pause next, v, Q => OnCells next v Q
  | _, .group (β := β) _ size task next, v, Q =>
    ∃ (own : Fin size → κ) (R : Fin size → β → D → Prop), (∀ i j, own i = own j → i = j) ∧
      (∀ i, OnCell answer inv view (own i) (task i) (v (own i)) (R i)) ∧
      ∀ order bs v', List.Perm order (List.finRange size) →
        List.Forall₂ (fun i b => R i b (v' (own i))) order bs →
        (∀ k, (∀ i, own i ≠ k) → v' k = v k) → OnCells (next bs) v' Q
  | _, .join .., _, _ => False
  | _, .watch isOver task next, v, Q =>
    (∀ s, inv s → (isOver.settle answer s).1 = false ∧ inv (isOver.settle answer s).2 ∧
      view (isOver.settle answer s).2 = view s) ∧
      OnCells task v fun b v' => OnCells (next (some b)) v' Q

variable {answer inv view}

/-! ## One cell -/

namespace OnCell

variable {k : κ} {p : Program Op α} {d : D} {Q : α → D → Prop} {s : σ}

theorem bind {f : α → Program Op β} {Q' : β → D → Prop} (h : OnCell answer inv view k p d Q)
    (rest : ∀ a d, Q a d → OnCell answer inv view k (f a) d Q') :
    OnCell answer inv view k (p >>= f) d Q' := by
  change OnCell answer inv view k (p.bind f) d Q'
  induction p generalizing d with
  | pure a => exact rest a d h
  | request op next ih => exact fun s kept own => ⟨(h s kept own).1, ih _ (h s kept own).2 rest⟩
  | pause next ih => exact ih h rest
  | group | join | watch => exact h.elim

theorem pure {a : α} (h : Q a d) : OnCell answer inv view k (Pure.pure a : Program Op α) d Q := h

theorem ask {op : Op α} (h : ∀ s, inv s → view s k = d →
    (inv (answer op s).2 ∧ ∀ k', k' ≠ k → view (answer op s).2 k' = view s k') ∧
      Q (answer op s).1 (view (answer op s).2 k)) :
    OnCell answer inv view k (Program.ask op) d Q :=
  h

theorem move (h : OnCell answer inv view k p (view s k) Q) (kept : inv s) (path : List Nat) :
    (inv (p.move answer path s).2 ∧ ∀ k', k' ≠ k → view (p.move answer path s).2 k' = view s k') ∧
      OnCell answer inv view k (p.move answer path s).1 (view (p.move answer path s).2 k) Q := by
  cases p with
  | pure a => exact ⟨⟨kept, fun _ _ => rfl⟩, h⟩
  | request op next => exact h s kept rfl
  | pause next => exact ⟨⟨kept, fun _ _ => rfl⟩, h⟩
  | group | join | watch => exact h.elim

end OnCell

/-! ## All cells -/

namespace OnCells

variable {p : Program Op α} {v : κ → D} {Q : α → (κ → D) → Prop} {s : σ}

theorem mono {Q' : α → (κ → D) → Prop} (h : OnCells answer inv view p v Q)
    (le : ∀ a v, Q a v → Q' a v) : OnCells answer inv view p v Q' := by
  induction p generalizing v with
  | pure a => exact le a v h
  | request op next ih => exact fun s kept own => ⟨(h s kept own).1, ih _ (h s kept own).2 le⟩
  | pause next ih => exact ih h le
  | group width size task next _ ih =>
    obtain ⟨own, R, inj, tasks, rest⟩ := h
    exact ⟨own, R, inj, tasks, fun order bs v' perm results others =>
      ih bs (rest order bs v' perm results others) le⟩
  | join => exact h
  | watch isOver task next _ ih_task ih_next =>
    exact ⟨h.1, ih_task h.2 fun b v' post => ih_next (some b) post le⟩

theorem bind {f : α → Program Op β} {Q' : β → (κ → D) → Prop}
    (h : OnCells answer inv view p v Q)
    (rest : ∀ a v, Q a v → OnCells answer inv view (f a) v Q') :
    OnCells answer inv view (p >>= f) v Q' := by
  change OnCells answer inv view (p.bind f) v Q'
  induction p generalizing v with
  | pure a => exact rest a v h
  | request op next ih => exact fun s kept own => ⟨(h s kept own).1, ih _ (h s kept own).2 rest⟩
  | pause next ih => exact ih h rest
  | group width size task next _ ih =>
    obtain ⟨own, R, inj, tasks, others⟩ := h
    exact ⟨own, R, inj, tasks, fun order bs v' perm results left =>
      ih bs (others order bs v' perm results left) rest⟩
  | join => exact h.elim
  | watch isOver task next _ _ ih =>
    exact ⟨h.1, mono h.2 fun b v' post => ih (some b) post rest⟩

theorem pure {a : α} (h : Q a v) : OnCells answer inv view (Pure.pure a : Program Op α) v Q := h

theorem ask {op : Op α}
    (h : ∀ s, inv s → view s = v → inv (answer op s).2 ∧ Q (answer op s).1 (view (answer op s).2)) :
    OnCells answer inv view (Program.ask op) v Q :=
  h

/-- The cell of a task that has handed in its result stays as it is, and the others go on. -/
theorem handIn {width size : Nat} {task : Fin size → Program Op β} {next : List β → Program Op α}
    (h : OnCells answer inv view (.group width size task next) v Q) {i : Fin size} {b : β}
    (ended : task i = .pure b) :
    OnCells answer inv view
      (.group width (size - 1) (without task i) fun bs => next (b :: bs)) v Q := by
  obtain ⟨own, R, inj, tasks, rest⟩ := h
  refine ⟨fun j => own (skip i j), fun j => R (skip i j), ?_, fun j => tasks (skip i j), ?_⟩
  · exact fun j j' same => skip_injective (inj _ _ same)
  · intro order bs v' perm results others
    have handed : R i b (v (own i)) := by
      have handed := tasks i
      rw [ended] at handed
      exact handed
    rw [← others (own i) fun j same => skip_ne i j (inj _ _ same)] at handed
    refine rest _ (b :: bs) v' (perm_skip perm)
      (.cons handed (List.forall₂_map_left_iff.2 results)) fun k free => ?_
    exact others k fun j => free (skip i j)

/-- A task that makes a move touches its own cell only. -/
theorem advance {width size : Nat} {task : Fin size → Program Op β} {next : List β → Program Op α}
    (h : OnCells answer inv view (.group width size task next) (view s) Q) (kept : inv s)
    (i : Fin size) (path : List Nat) :
    inv ((task i).move answer path s).2 ∧
      OnCells answer inv view
        (.group width size (replace task i ((task i).move answer path s).1) next)
        (view ((task i).move answer path s).2) Q := by
  obtain ⟨own, R, inj, tasks, rest⟩ := h
  obtain ⟨⟨kept, others⟩, moved⟩ := (tasks i).move kept path
  refine ⟨kept, own, R, inj, fun j => ?_, fun order bs v' perm results left => ?_⟩
  · by_cases same : j = i
    · subst same
      rw [replace_self]
      exact moved
    · rw [replace_of_ne task same]
      dsimp only
      rw [others (own j) fun cell => same (inj _ _ cell)]
      exact tasks j
  · refine rest order bs v' perm results fun k free => ?_
    exact (left k free).trans (others k fun same => free i same.symm)

/-- A move keeps the invariant and what is known of the end. -/
theorem move (h : OnCells answer inv view p (view s) Q) (kept : inv s) (path : List Nat) :
    inv (p.move answer path s).2 ∧
      OnCells answer inv view (p.move answer path s).1 (view (p.move answer path s).2) Q := by
  induction p generalizing s path with
  | pure a => exact ⟨kept, h⟩
  | request op next ih => exact h s kept rfl
  | pause next ih => exact ⟨kept, h⟩
  | group width size task next ih_task ih_next =>
    rcases move_group width size task next path s with ⟨rfl, eq⟩ | ⟨i, b, ended, eq⟩ | ⟨i, -, eq⟩
    · obtain ⟨own, R, inj, tasks, rest⟩ := h
      exact eq ▸ ⟨kept, rest [] [] _ (List.Perm.refl _) .nil fun _ _ => rfl⟩
    · exact eq ▸ ⟨kept, h.handIn ended⟩
    · exact eq ▸ h.advance kept i path.tail
  | join => exact h.elim
  | watch isOver task next _ ih_task ih_next =>
    obtain ⟨never, own⟩ := h
    rcases move_watch isOver task next path s with ⟨b, rfl, eq⟩ | ⟨-, eq⟩ | ⟨-, p, hp, eq⟩
    · exact eq ▸ ⟨kept, own⟩
    · obtain ⟨kept, moved⟩ := ih_task own kept path.tail
      exact eq ▸ ⟨kept, never, moved⟩
    · obtain ⟨answered, kept', same⟩ := never s kept
      obtain ⟨ended, -⟩ | rfl := hp
      · exact (Bool.false_ne_true (answered.symm.trans ended)).elim
      · refine eq ▸ ⟨kept', never, ?_⟩
        dsimp only
        rw [same]
        exact own

/-- Whatever the moves are that bring a program to its end, the end is as `Q` says. -/
theorem reaches (h : OnCells answer inv view p (view s) Q) (kept : inv s) {a : α} {t : σ}
    (reached : Reaches answer p s (.pure a) t) : inv t ∧ Q a (view t) := by
  generalize final : (Program.pure a : Program Op α) = q at reached
  induction reached with
  | refl =>
    subst final
    exact ⟨kept, h⟩
  | more path _ _ ih =>
    obtain ⟨kept, h⟩ := h.move kept path
    exact ih h kept final

/-- A request that is given up when `isOver` says so, which it never does. -/
theorem abandonIf {isOver : Program Op Bool} {op : Op β}
    {Q : Option β → (κ → D) → Prop} (never : ∀ s, inv s → (isOver.settle answer s).1 = false ∧
      inv (isOver.settle answer s).2 ∧ view (isOver.settle answer s).2 = view s)
    (h : ∀ s, inv s → view s = v →
      inv (answer op s).2 ∧ Q (some (answer op s).1) (view (answer op s).2)) :
    OnCells answer inv view (Program.abandonIf isOver (Program.ask op)) v Q :=
  ⟨never, h⟩

theorem exists_of_forall₂ {γ δ : Type} {R : γ → δ → Prop} {xs : List γ} {ys : List δ}
    (h : List.Forall₂ R xs ys) {x : γ} (member : x ∈ xs) : ∃ y, R x y := by
  induction h with
  | nil => cases member
  | cons own _ ih =>
    rcases List.mem_cons.1 member with rfl | member
    · exact ⟨_, own⟩
    · exact ih member

/-- Tasks that each work on a cell of their own hand in their results in some order, and leave the
other cells as they were. -/
theorem gather {γ : Type} {xs : List γ} {task : γ → Program Op β} (width : Nat) (cell : γ → κ)
    (post : γ → β → D → Prop) (distinct : (xs.map cell).Nodup)
    (each : ∀ x ∈ xs, OnCell answer inv view (cell x) (task x) (v (cell x)) (post x)) :
    OnCells answer inv view (Program.all width (xs.map task)) v fun bs v' =>
      (∃ order : List γ, order.Perm xs ∧
        List.Forall₂ (fun x b => post x b (v' (cell x))) order bs) ∧
      ∀ k, k ∉ xs.map cell → v' k = v k := by
  obtain ⟨element, own, told⟩ := exists_numbering task xs
  have cells : ((List.finRange _).map fun i => cell (element i)) = xs.map cell :=
    List.map_map.symm.trans (congrArg (List.map cell) told)
  refine ⟨fun i => cell (element i), fun i => post (element i), fun i j same => ?_, fun i => ?_,
    fun order bs v' perm results others => ⟨⟨order.map element, ?_, ?_⟩, fun k absent => ?_⟩⟩
  · rw [← cells] at distinct
    exact List.inj_on_of_nodup_map distinct (List.mem_finRange i) (List.mem_finRange j) same
  · have given := each _ (own i).2
    rw [← (own i).1] at given
    exact given
  · exact (perm.map element).trans (.of_eq told)
  · exact List.forall₂_map_left_iff.2 results
  · refine others k fun i same => absent ?_
    rw [← same]
    exact List.mem_map_of_mem (own i).2

/-- What is known of the cells alone, whatever the results of the tasks are. -/
theorem all {γ : Type} {xs : List γ} {task : γ → Program Op β} (width : Nat) (cell : γ → κ)
    (post : γ → D → Prop) (distinct : (xs.map cell).Nodup)
    (each : ∀ x ∈ xs,
      OnCell answer inv view (cell x) (task x) (v (cell x)) fun _ => post x) :
    OnCells answer inv view (Program.all width (xs.map task)) v fun _ v' =>
      (∀ x ∈ xs, post x (v' (cell x))) ∧ ∀ k, k ∉ xs.map cell → v' k = v k := by
  refine (gather width cell (fun x _ => post x) distinct each).mono ?_
  rintro bs v' ⟨⟨order, perm, results⟩, others⟩
  refine ⟨fun x member => ?_, others⟩
  obtain ⟨_, known⟩ := exists_of_forall₂ results (perm.mem_iff.2 member)
  exact known

end OnCells

end Metering.Program

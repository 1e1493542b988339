import Mathlib.Data.List.Nodup
import Metering.Program

/-!
# One move of a program

`settle` and `turn` run a program along one order of its tasks. A move is the smallest step, at most
one request, and a path says which of the tasks under way makes it, so a list of paths is any order
in which the tasks of a program can take turns, and anything can happen between two moves.

* A group lets one of its first `width` tasks move. A task that has come to its end hands in its
  result, which frees its place; the group goes on when no task is left.
* A join lets any of its tasks move; it goes on when all have ended, or one has with a result that
  stops the others.
* A watch lets its task move, or asks whether the task is over.

Results: `move_group`, `move_join` and `move_watch`, what one move can be; `move_keeps`, what every
request keeps is kept by every move.
-/

namespace Metering.Program

universe u

variable {Op : Type → Type 1} {α β : Type}

/-- The result of a program that has come to its end. -/
def result? : Program Op α → Option α
  | .pure a => some a
  | _ => none

/-- The place of a removed element closes up. -/
def skip {size : Nat} (i : Fin size) (j : Fin (size - 1)) : Fin size :=
  if j < i.val then ⟨j, by omega⟩ else ⟨j + 1, by omega⟩

theorem skip_ne {size : Nat} (i : Fin size) (j : Fin (size - 1)) : skip i j ≠ i := by
  unfold skip
  split
  · next h => exact fun eq => Nat.ne_of_lt h (congrArg Fin.val eq)
  · next h => exact fun eq => by have := congrArg Fin.val eq; simp only at this; omega

theorem skip_injective {size : Nat} {i : Fin size} {j k : Fin (size - 1)}
    (h : skip i j = skip i k) : j = k := by
  have h := congrArg Fin.val h
  unfold skip at h
  ext
  split at h <;> split at h <;> simp only at h <;> omega

theorem exists_skip {size : Nat} {i j : Fin size} (ne : j ≠ i) : ∃ k, skip i k = j := by
  have ne : j.val ≠ i.val := fun h => ne (Fin.ext h)
  by_cases before : j.val < i.val
  · exact ⟨⟨j, by omega⟩, by ext; simp [skip, before]⟩
  · refine ⟨⟨j - 1, by omega⟩, ?_⟩
    ext
    simp only [skip]
    split
    · omega
    · simp only
      omega

/-- A task that has handed in its result comes first. -/
theorem perm_skip {size : Nat} {i : Fin size} {order : List (Fin (size - 1))}
    (perm : order.Perm (List.finRange (size - 1))) :
    (i :: order.map (skip i)).Perm (List.finRange size) := by
  have others : (i :: order.map (skip i)).Nodup := by
    refine List.nodup_cons.2 ⟨fun member => ?_, ?_⟩
    · obtain ⟨j, -, same⟩ := List.mem_map.1 member
      exact skip_ne i j same
    · exact (perm.nodup_iff.2 (List.nodup_finRange _)).map fun _ _ same => skip_injective same
  refine (List.perm_ext_iff_of_nodup others (List.nodup_finRange size)).2 fun j => ?_
  refine iff_of_true (List.mem_cons.2 ?_) (List.mem_finRange j)
  by_cases own : j = i
  · exact .inl own
  · obtain ⟨k, rfl⟩ := exists_skip own
    exact .inr (List.mem_map_of_mem (perm.mem_iff.2 (List.mem_finRange k)))

/-- The tasks of a group without one of them. -/
def without {size : Nat} (task : Fin size → Program Op α) (i : Fin size) :
    Fin (size - 1) → Program Op α :=
  fun j => task (skip i j)

/-- The tasks of a group with another one in a place. -/
def replace {size : Nat} (task : Fin size → Program Op α) (i : Fin size) (p : Program Op α) :
    Fin size → Program Op α :=
  fun j => if j = i then p else task j

theorem replace_self {size : Nat} (task : Fin size → Program Op α) (i : Fin size)
    (p : Program Op α) : replace task i p i = p :=
  if_pos rfl

theorem replace_of_ne {size : Nat} (task : Fin size → Program Op α) {i j : Fin size}
    (ne : j ≠ i) (p : Program Op α) : replace task i p j = task j :=
  if_neg ne

/-- The tasks of a list by number. -/
theorem exists_numbering {γ : Type u} (task : γ → Program Op α) (xs : List γ) :
    ∃ element : Fin (xs.map task).toArray.size → γ,
      (∀ i, (xs.map task).toArray[i] = task (element i) ∧ element i ∈ xs) ∧
        (List.finRange (xs.map task).toArray.size).map element = xs := by
  have length : (xs.map task).toArray.size = xs.length := by simp
  refine ⟨fun i => xs.get ⟨i, length ▸ i.isLt⟩, fun i => ⟨by simp, List.get_mem xs _⟩, ?_⟩
  refine List.ext_getElem (by simp) fun i _ _ => ?_
  simp

/-- The results of a join, if all its tasks have ended. -/
def results? {size : Nat} (task : Fin size → Program Op α) : Option (List α) :=
  (List.finRange size).mapM fun i => (task i).result?

section

variable {σ : Type} (answer : {β : Type} → Op β → σ → β × σ)

/-- One move of a program, by the task that the path leads to. -/
def move : {α : Type} → Program Op α → List Nat → σ → Program Op α × σ
  | _, .pure a, _, s => (.pure a, s)
  | _, .request op next, _, s =>
    let (b, s) := answer op s
    (next b, s)
  | _, .pause next, _, s => (next, s)
  | _, .group width size task next, path, s =>
    if h : 0 < size then
      -- only tasks that have a place among `width` are under way
      let i : Fin size := ⟨path.headD 0 % min size (max width 1),
        Nat.lt_of_lt_of_le (Nat.mod_lt _ (by omega)) (Nat.min_le_left ..)⟩
      match (task i).result? with
      | some b => (.group width (size - 1) (without task i) fun bs => next (b :: bs), s)
      | none =>
        let (p, s) := (task i).move path.tail s
        (.group width size (replace task i p) next, s)
    else (next [], s)
  | _, .join first size task stops next, path, s =>
    if h : 0 < size then
      let i : Fin size := ⟨path.headD 0 % size, Nat.mod_lt _ h⟩
      match (task i).result?, results? task with
      | some b, some bs => (if stops b then next [b] else next bs, s)
      | some b, none => (if stops b then next [b] else .join first size task stops next, s)
      | none, _ =>
        let (p, s) := (task i).move path.tail s
        (.join first size (replace task i p) stops next, s)
    else (next [], s)
  | _, .watch isOver task next, path, s =>
    match task.result? with
    | some b => (next (some b), s)
    | none =>
      if path.headD 0 = 0 then
        let (p, s) := task.move path.tail s
        (.watch isOver p next, s)
      else
        let (isOver', s) := isOver.settle answer s
        (if isOver' then next none else .watch isOver task next, s)

/-! ## What a move can be -/

variable {answer} {s : σ}

theorem eq_pure_of_result? {p : Program Op α} {a : α} (h : p.result? = some a) : p = .pure a := by
  cases p with
  | pure b => exact congrArg Program.pure (Option.some.inj h)
  | _ => cases h

theorem move_group (width size : Nat) (task : Fin size → Program Op β)
    (next : List β → Program Op α) (path : List Nat) (s : σ) :
    (size = 0 ∧ (group width size task next).move answer path s = (next [], s)) ∨
    (∃ i b, task i = .pure b ∧ (group width size task next).move answer path s =
      (group width (size - 1) (without task i) fun bs => next (b :: bs), s)) ∨
    (∃ i, (task i).result? = none ∧ (group width size task next).move answer path s =
      (group width size (replace task i ((task i).move answer path.tail s).1) next,
        ((task i).move answer path.tail s).2)) := by
  rw [move]
  split
  · dsimp only
    split
    · next b h => exact .inr (.inl ⟨_, b, eq_pure_of_result? h, rfl⟩)
    · next h => exact .inr (.inr ⟨_, h, rfl⟩)
  · exact .inl ⟨by omega, rfl⟩

/-- The results with which a join goes on: those of all its tasks, or one that stops the others. -/
def HandsOn {size : Nat} (task : Fin size → Program Op β) (stops : β → Bool) (bs : List β) : Prop :=
  (List.finRange size).map task = bs.map .pure ∨
    ∃ i b, task i = .pure b ∧ stops b = true ∧ bs = [b]

theorem eq_map_pure_of_results? {size : Nat} {task : Fin size → Program Op β} {bs : List β}
    (h : results? task = some bs) : (List.finRange size).map task = bs.map .pure := by
  unfold results? at h
  generalize List.finRange size = is at h ⊢
  induction is generalizing bs with
  | nil =>
    cases h
    rfl
  | cons i is ih =>
    simp only [List.mapM_cons, Option.bind_eq_bind, Option.bind_eq_some_iff, Option.pure_def,
      Option.some.injEq] at h
    obtain ⟨b, first, rest, others, rfl⟩ := h
    rw [List.map_cons, List.map_cons, eq_pure_of_result? first, ih others]

theorem move_join (first size : Nat) (task : Fin size → Program Op β) (stops : β → Bool)
    (next : List β → Program Op α) (path : List Nat) (s : σ) :
    (∃ bs, HandsOn task stops bs ∧
      (join first size task stops next).move answer path s = (next bs, s)) ∨
    (join first size task stops next).move answer path s = (join first size task stops next, s) ∨
    (∃ i, (task i).result? = none ∧ (join first size task stops next).move answer path s =
      (join first size (replace task i ((task i).move answer path.tail s).1) stops next,
        ((task i).move answer path.tail s).2)) := by
  rw [move]
  split
  · dsimp only
    split
    · next b bs own all =>
      cases stop : stops b with
      | true => exact .inl ⟨[b], .inr ⟨_, b, eq_pure_of_result? own, stop, rfl⟩, rfl⟩
      | false => exact .inl ⟨bs, .inl (eq_map_pure_of_results? all), rfl⟩
    · next b own _ =>
      cases stop : stops b with
      | true => exact .inl ⟨[b], .inr ⟨_, b, eq_pure_of_result? own, stop, rfl⟩, rfl⟩
      | false => exact .inr (.inl rfl)
    · next h => exact .inr (.inr ⟨_, h, rfl⟩)
  · next none =>
    obtain rfl : size = 0 := by omega
    exact .inl ⟨[], .inl rfl, rfl⟩

theorem move_watch (isOver : Program Op Bool) (task : Program Op β) (next : Option β → Program Op α)
    (path : List Nat) (s : σ) :
    (∃ b, task = .pure b ∧ (watch isOver task next).move answer path s = (next (some b), s)) ∨
    (task.result? = none ∧ (watch isOver task next).move answer path s =
      (watch isOver (task.move answer path.tail s).1 next, (task.move answer path.tail s).2)) ∨
    (task.result? = none ∧ ∃ rest,
      ((isOver.settle answer s).1 = true ∧ rest = next none ∨ rest = watch isOver task next) ∧
      (watch isOver task next).move answer path s = (rest, (isOver.settle answer s).2)) := by
  rw [move]
  split
  · next b h => exact .inl ⟨b, eq_pure_of_result? h, rfl⟩
  · next h =>
    split
    · exact .inr (.inl ⟨h, rfl⟩)
    · refine .inr (.inr ⟨h, _, ?_, rfl⟩)
      cases (isOver.settle answer s).1 with
      | true => exact .inl ⟨rfl, rfl⟩
      | false => exact .inr rfl

/-! ## What a program cannot change -/

/-- What every request keeps is kept by a run in sequence. -/
theorem settle_keeps {P : σ → Prop}
    (keeps : ∀ {β : Type} (op : Op β) (s : σ), P s → P (answer op s).2) (p : Program Op α) {s : σ}
    (h : P s) : P (p.settle answer s).2 := by
  induction p generalizing s with
  | pure a => exact h
  | request op next ih => exact ih _ (keeps op s h)
  | pause next ih => exact ih h
  | group width size task next ih_task ih_next =>
    have all : ∀ (is : List (Fin size)) (s : σ), P s →
        P (settleAll (fun i => (task i).settle answer) is s).2 := by
      intro is
      induction is with
      | nil => exact fun s h => h
      | cons i is ih => exact fun s h => ih _ (ih_task i h)
    exact ih_next _ (all _ s h)
  | join first size task stops next ih_task ih_next =>
    have all : ∀ (is : List (Fin size)) (s : σ), P s →
        P (settleJoin (fun i => (task i).settle answer) stops is s).2 := by
      intro is
      induction is with
      | nil => exact fun s h => h
      | cons i is ih =>
        intro s h
        unfold settleJoin
        dsimp only
        split
        · exact ih_task i h
        · exact ih _ (ih_task i h)
    exact ih_next _ (all _ s h)
  | watch isOver task next _ ih_task ih_next => exact ih_next _ (ih_task h)

/-- What every request keeps is kept by a move. -/
theorem move_keeps {P : σ → Prop}
    (keeps : ∀ {β : Type} (op : Op β) (s : σ), P s → P (answer op s).2) (p : Program Op α)
    (path : List Nat) {s : σ} (h : P s) : P (p.move answer path s).2 := by
  induction p generalizing s path with
  | pure a => exact h
  | request op next ih => exact keeps op s h
  | pause next ih => exact h
  | group width size task next ih_task ih_next =>
    rcases move_group width size task next path s with ⟨-, eq⟩ | ⟨i, b, -, eq⟩ | ⟨i, -, eq⟩
    · exact eq ▸ h
    · exact eq ▸ h
    · exact eq ▸ ih_task i path.tail h
  | join first size task stops next ih_task ih_next =>
    rcases move_join first size task stops next path s with ⟨bs, -, eq⟩ | eq | ⟨i, -, eq⟩
    · exact eq ▸ h
    · exact eq ▸ h
    · exact eq ▸ ih_task i path.tail h
  | watch isOver task next _ ih_task ih_next =>
    rcases move_watch isOver task next path s with ⟨b, -, eq⟩ | ⟨-, eq⟩ | ⟨-, p, -, eq⟩
    · exact eq ▸ h
    · exact eq ▸ ih_task path.tail h
    · exact eq ▸ settle_keeps keeps isOver h

end

end Metering.Program

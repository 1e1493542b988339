import Metering.Proofs.Program.Moves

/-!
# What a program delivers

The results of the tasks of a group come in in any order, and some of them while others still run.
What each task delivers by itself, whatever turns the tasks take, is all that the program that waits
for them has to know.

Results: `Delivers.bind`, `Delivers.all`, rules by which programs are shown to deliver;
`Delivers.move`, a program delivers the same after each of its moves.
-/

namespace Metering.Program

variable {Op : Type → Type 1} {α β : Type} (sound : {β : Type} → Op β → β → Prop)

/-- If every answer is as `sound` says, the program has a result as `P` says. -/
def Delivers : {α : Type} → Program Op α → (α → Prop) → Prop
  | _, .pure a, P => P a
  | _, .request op next, P => ∀ b, sound op b → Delivers (next b) P
  | _, .pause next, P => Delivers next P
  | _, .group _ _ task next, P =>
    ∃ R, (∀ i, Delivers (task i) R) ∧ ∀ bs, (∀ b ∈ bs, R b) → Delivers (next bs) P
  | _, .join _ _ task _ next, P =>
    ∃ R, (∀ i, Delivers (task i) R) ∧ ∀ bs, (∀ b ∈ bs, R b) → Delivers (next bs) P
  | _, .watch _ task next, P =>
    ∃ R, Delivers task R ∧ Delivers (next none) P ∧ ∀ b, R b → Delivers (next (some b)) P

variable {sound}

namespace Delivers

variable {p : Program Op α} {P : α → Prop} {Q : β → Prop}

theorem bind {f : α → Program Op β} (h : Delivers sound p P)
    (rest : ∀ a, P a → Delivers sound (f a) Q) : Delivers sound (p >>= f) Q := by
  change Delivers sound (p.bind f) Q
  induction p with
  | pure a => exact rest a h
  | request op next ih => exact fun b told => ih b (h b told) rest
  | pause next ih => exact ih h rest
  | group width size task next _ ih =>
    obtain ⟨R, tasks, following⟩ := h
    exact ⟨R, tasks, fun bs all => ih bs (following bs all) rest⟩
  | join first size task stops next _ ih =>
    obtain ⟨R, tasks, following⟩ := h
    exact ⟨R, tasks, fun bs all => ih bs (following bs all) rest⟩
  | watch isOver task next _ _ ih =>
    obtain ⟨R, own, givenUp, following⟩ := h
    exact ⟨R, own, ih none givenUp rest, fun b told => ih (some b) (following b told) rest⟩

theorem pure {a : α} (h : P a) : Delivers sound (Pure.pure a : Program Op α) P := h

theorem told {a : α} (h : Delivers sound p P) (ended : p = .pure a) : P a := by
  rwa [ended] at h

theorem mono {Q : α → Prop} (h : Delivers sound p P) (le : ∀ a, P a → Q a) :
    Delivers sound p Q := by
  rw [← bind_pure p]
  exact bind h fun a told => pure (le a told)

theorem map (f : α → β) (h : Delivers sound p fun a => Q (f a)) : Delivers sound (f <$> p) Q :=
  bind h fun _ told => pure told

theorem ask {op : Op α} (h : ∀ a, sound op a → P a) : Delivers sound (Program.ask op) P := h

theorem forM {f : β → Program Op PUnit} (h : ∀ b, Delivers sound (f b) fun _ => True)
    (bs : List β) : Delivers sound (bs.forM f) fun _ => True := by
  induction bs with
  | nil => trivial
  | cons b bs ih => exact bind (h b) fun _ _ => ih

/-- The results of a group are those of its tasks. -/
theorem all {width : Nat} {tasks : List (Program Op α)}
    (h : ∀ p ∈ tasks, Delivers sound p P) :
    Delivers sound (all width tasks) fun as => ∀ a ∈ as, P a :=
  ⟨P, fun _ => h _ (List.getElem_mem _), fun _ told => told⟩

/-- A request that may be given up while it is waited for. -/
theorem abandonIf {isOver : Program Op Bool} {P : Option α → Prop}
    (h : Delivers sound p fun a => P (some a)) (givenUp : P none) :
    Delivers sound (abandonIf isOver p) P :=
  ⟨_, h, givenUp, fun _ told => told⟩

/-! ## Moves -/

variable {σ : Type} {answer : {β : Type} → Op β → σ → β × σ} {s : σ}

theorem replaced {size : Nat} {task : Fin size → Program Op α} {i : Fin size}
    (tasks : ∀ j, Delivers sound (task j) P) (h : Delivers sound p P) (j : Fin size) :
    Delivers sound (replace task i p j) P := by
  unfold replace
  split
  · exact h
  · exact tasks j

/-- What a join goes on with was delivered by its tasks. -/
theorem handsOn {size : Nat} {task : Fin size → Program Op α} {stops : α → Bool} {as : List α}
    (tasks : ∀ i, Delivers sound (task i) P) (handed : HandsOn task stops as) :
    ∀ a ∈ as, P a := by
  obtain ended | ⟨i, a, ended, -, rfl⟩ := handed
  · intro a member
    have among : .pure a ∈ (List.finRange size).map task := ended ▸ List.mem_map_of_mem member
    obtain ⟨i, -, own⟩ := List.mem_map.1 among
    exact (tasks i).told own
  · exact List.forall_mem_singleton.2 ((tasks i).told ended)

/-- A program delivers the same after each of its moves, if answers from which the state comes out
`good` are as `sound` says. -/
theorem move (good : σ → Prop)
    (faithful : ∀ {β : Type} (op : Op β) (s : σ), good (answer op s).2 → sound op (answer op s).1)
    (h : Delivers sound p P) {path : List Nat} (fine : good (p.move answer path s).2) :
    Delivers sound (p.move answer path s).1 P := by
  induction p generalizing s path with
  | pure a => exact h
  | request op next ih => exact h _ (faithful op s fine)
  | pause next ih => exact h
  | group width size task next ih_task ih_next =>
    obtain ⟨R, tasks, following⟩ := h
    rcases move_group width size task next path s with ⟨-, eq⟩ | ⟨i, b, ended, eq⟩ | ⟨i, -, eq⟩
    · exact eq ▸ following [] (by simp)
    · rw [eq]
      refine ⟨R, fun j => tasks _, fun bs all => following (b :: bs) ?_⟩
      exact List.forall_mem_cons.2 ⟨(tasks i).told ended, all⟩
    · rw [eq] at fine ⊢
      exact ⟨R, replaced tasks (ih_task i (tasks i) fine), following⟩
  | join first size task stops next ih_task ih_next =>
    obtain ⟨R, tasks, following⟩ := h
    rcases move_join first size task stops next path s with ⟨bs, handed, eq⟩ | eq | ⟨i, -, eq⟩
    · rw [eq]
      exact following bs (handsOn tasks handed)
    · exact eq ▸ ⟨R, tasks, following⟩
    · rw [eq] at fine ⊢
      exact ⟨R, replaced tasks (ih_task i (tasks i) fine), following⟩
  | watch isOver task next _ ih_task ih_next =>
    obtain ⟨R, own, givenUp, following⟩ := h
    rcases move_watch isOver task next path s with ⟨b, rfl, eq⟩ | ⟨-, eq⟩ | ⟨-, p, hp, eq⟩
    · exact eq ▸ following b own
    · rw [eq] at fine ⊢
      exact ⟨R, ih_task own fine, givenUp, following⟩
    · rw [eq]
      obtain ⟨-, rfl⟩ | rfl := hp
      · exact givenUp
      · exact ⟨R, own, givenUp, following⟩

end Delivers

end Metering.Program

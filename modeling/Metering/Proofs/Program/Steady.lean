import Mathlib.Data.List.Forall2
import Metering.Proofs.Program.Completion

/-!
# What a program ends with in any order

The tasks of a group hand in their results in the order in which they come to their ends. Where each
request keeps an invariant of the state, and the invariant is all that the answers depend on, the
results can be told apart from that order: each task has its own, and a group goes on with them in
some order.

Results:
1. `Steady.move`, `Steady.reaches`: one move keeps what is known of the result, and so does a run.
2. `Steady.all`, `Steady.together`: the results of tasks that are run as a group, or side by side.
3. `Steady.task_then`, `Steady.task_mapM`: the one result of tasks in sequence, of which any may fail.
-/

namespace Metering.Program

variable {Op : Type → Type 1} {σ : Type} (answer : {β : Type} → Op β → σ → β × σ)
  (inv : σ → Prop) {α β : Type}

/-- The result is as `Q` says, in whatever order the tasks of the program take their turns. The
results of a task are known by themselves (`R`); a watched program is not spoken for. -/
def Steady : {α : Type} → Program Op α → (α → Prop) → Prop
  | _, .pure a, Q => Q a
  | _, .request op next, Q =>
    ∀ s, inv s → inv (answer op s).2 ∧ Steady (next (answer op s).1) Q
  | _, .pause next, Q => Steady next Q
  | _, .group (β := β) _ size task next, Q =>
    ∃ R : Fin size → β → Prop, (∀ i, Steady (task i) (R i)) ∧
      ∀ order bs, List.Perm order (List.finRange size) → List.Forall₂ R order bs →
        Steady (next bs) Q
  | _, .join (β := β) _ size task stops next, Q =>
    ∃ R : Fin size → β → Prop, (∀ i, Steady (task i) (R i)) ∧
      (∀ bs, List.Forall₂ R (List.finRange size) bs → Steady (next bs) Q) ∧
      ∀ i b, R i b → stops b = true → Steady (next [b]) Q
  | _, .watch .., _ => False

variable {answer inv}

namespace Steady

variable {p : Program Op α} {Q : α → Prop} {s : σ}

theorem mono {Q' : α → Prop} (h : Steady answer inv p Q) (le : ∀ a, Q a → Q' a) :
    Steady answer inv p Q' := by
  induction p with
  | pure a => exact le a h
  | request op next ih => exact fun s kept => ⟨(h s kept).1, ih _ (h s kept).2 le⟩
  | pause next ih => exact ih h le
  | group width size task next _ ih =>
    obtain ⟨R, tasks, rest⟩ := h
    exact ⟨R, tasks, fun order bs perm results => ih bs (rest order bs perm results) le⟩
  | join first size task stops next _ ih =>
    obtain ⟨R, tasks, rest, stopped⟩ := h
    exact ⟨R, tasks, fun bs results => ih bs (rest bs results) le,
      fun i b result stop => ih [b] (stopped i b result stop) le⟩
  | watch => exact h

theorem bind {f : α → Program Op β} {Q' : β → Prop} (h : Steady answer inv p Q)
    (rest : ∀ a, Q a → Steady answer inv (f a) Q') : Steady answer inv (p >>= f) Q' := by
  change Steady answer inv (p.bind f) Q'
  induction p with
  | pure a => exact rest a h
  | request op next ih => exact fun s kept => ⟨(h s kept).1, ih _ (h s kept).2 rest⟩
  | pause next ih => exact ih h rest
  | group width size task next _ ih =>
    obtain ⟨R, tasks, others⟩ := h
    exact ⟨R, tasks, fun order bs perm results => ih bs (others order bs perm results) rest⟩
  | join first size task stops next _ ih =>
    obtain ⟨R, tasks, others, stopped⟩ := h
    exact ⟨R, tasks, fun bs results => ih bs (others bs results) rest,
      fun i b result stop => ih [b] (stopped i b result stop) rest⟩
  | watch => exact h

theorem pure {a : α} (h : Q a) : Steady answer inv (Pure.pure a : Program Op α) Q := h

theorem ask {op : Op α}
    (h : ∀ s, inv s → inv (answer op s).2 ∧ Q (answer op s).1) :
    Steady answer inv (Program.ask op) Q :=
  h

theorem forM {f : β → Program Op PUnit} {bs : List β}
    (each : ∀ b ∈ bs, Steady answer inv (f b) fun _ => True) :
    Steady answer inv (bs.forM f) fun _ => True := by
  induction bs with
  | nil => exact trivial
  | cons b bs ih =>
    refine (each b List.mem_cons_self).bind fun _ _ => ih fun b' member => ?_
    exact each b' (List.mem_cons_of_mem b member)

/-! ## Tasks that may fail -/

section Failing

variable {ε : Type} {x : ExceptT ε (Program Op) α} {f : α → ExceptT ε (Program Op) β}

/-- A task goes on where it has not failed. -/
theorem task_bind {P : Except ε α → Prop} {Q' : Except ε β → Prop} (h : Steady answer inv x.run P)
    (rest : ∀ a, P (.ok a) → Steady answer inv (f a).run Q')
    (failed : ∀ e, P (.error e) → Q' (.error e)) : Steady answer inv (x >>= f).run Q' := by
  refine bind h fun result known => ?_
  cases result with
  | ok a => exact rest a known
  | error e => exact failed e known

/-- A task goes on with what another is known to give. -/
theorem task_ok {a : α} {Q : Except ε β → Prop} (h : Steady answer inv x.run (· = .ok a))
    (rest : Steady answer inv (f a).run Q) : Steady answer inv (x >>= f).run Q := by
  refine h.task_bind (fun a' eq => ?_) fun _ eq => nomatch eq
  cases eq
  exact rest

/-- A task fails where another is known to fail. -/
theorem task_fails {e : ε} (h : Steady answer inv x.run (· = .error e)) :
    Steady answer inv (x >>= f).run (· = .error e) := by
  refine h.task_bind (fun _ eq => nomatch eq) fun e' eq => ?_
  cases eq
  rfl

/-- A task goes on with the one result of another, or fails with it. -/
theorem task_then {result : Except ε α} {next : α → Except ε β}
    (h : Steady answer inv x.run (· = result))
    (rest : ∀ a, result = .ok a → Steady answer inv (f a).run (· = next a)) :
    Steady answer inv (x >>= f).run (· = result.bind next) := by
  cases result with
  | ok a => exact h.task_ok (rest a rfl)
  | error e => exact h.task_fails

/-- Tasks that follow each other, each with its one result. -/
theorem task_mapM {result : α → β} {xs : List α}
    (each : ∀ x ∈ xs, Steady answer inv (f x).run (· = .ok (result x))) :
    Steady answer inv (xs.mapM f).run (· = .ok (xs.map result)) := by
  induction xs with
  | nil => rfl
  | cons x xs ih =>
    obtain ⟨first, rest⟩ := List.forall_mem_cons.1 each
    rw [List.mapM_cons]
    exact first.task_ok ((ih rest).task_ok rfl)

end Failing

/-! ## One move -/

theorem replace {size : Nat} {task : Fin size → Program Op β} {R : Fin size → β → Prop}
    (tasks : ∀ i, Steady answer inv (task i) (R i)) {i : Fin size} {q : Program Op β}
    (moved : Steady answer inv q (R i)) (j : Fin size) :
    Steady answer inv (Program.replace task i q j) (R j) := by
  by_cases own : j = i
  · subst own
    rw [replace_self]
    exact moved
  · rw [replace_of_ne task own]
    exact tasks j

theorem forall₂_of_ended {size : Nat} {task : Fin size → Program Op β} {R : Fin size → β → Prop}
    (tasks : ∀ i, Steady answer inv (task i) (R i)) {is : List (Fin size)} {bs : List β}
    (ended : is.map task = bs.map .pure) : List.Forall₂ R is bs := by
  have ended : List.Forall₂ (· = ·) (is.map task) (bs.map .pure) := ended ▸ List.forall₂_refl _
  rw [List.forall₂_map_left_iff, List.forall₂_map_right_iff] at ended
  refine ended.imp fun i b eq => ?_
  have own := tasks i
  rw [eq] at own
  exact own

/-- A move keeps the invariant and what is known of the result. -/
theorem move (h : Steady answer inv p Q) (kept : inv s) (path : List Nat) :
    inv (p.move answer path s).2 ∧ Steady answer inv (p.move answer path s).1 Q := by
  induction p generalizing s path with
  | pure a => exact ⟨kept, h⟩
  | request op next ih => exact h s kept
  | pause next ih => exact ⟨kept, h⟩
  | group width size task next ih_task ih_next =>
    obtain ⟨R, tasks, rest⟩ := h
    rcases move_group width size task next path s with ⟨rfl, eq⟩ | ⟨i, b, ended, eq⟩ | ⟨i, -, eq⟩
    · exact eq ▸ ⟨kept, rest [] [] (List.Perm.refl _) .nil⟩
    · refine eq ▸ ⟨kept, fun j => R (skip i j), fun j => tasks (skip i j), ?_⟩
      intro order bs perm results
      have own : R i b := by
        have own := tasks i
        rw [ended] at own
        exact own
      exact rest _ (b :: bs) (perm_skip perm) (.cons own (List.forall₂_map_left_iff.2 results))
    · obtain ⟨kept, moved⟩ := ih_task i (tasks i) kept path.tail
      exact eq ▸ ⟨kept, R, replace tasks moved, rest⟩
  | join first size task stops next ih_task ih_next =>
    obtain ⟨R, tasks, rest, stopped⟩ := h
    rcases move_join first size task stops next path s with ⟨bs, results, eq⟩ | eq | ⟨i, -, eq⟩
    · refine eq ▸ ⟨kept, ?_⟩
      rcases results with ended | ⟨i, b, ended, stop, rfl⟩
      · exact rest bs (forall₂_of_ended tasks ended)
      · have own := tasks i
        rw [ended] at own
        exact stopped i b own stop
    · exact eq ▸ ⟨kept, R, tasks, rest, stopped⟩
    · obtain ⟨kept, moved⟩ := ih_task i (tasks i) kept path.tail
      exact eq ▸ ⟨kept, R, replace tasks moved, rest, stopped⟩
  | watch => exact h.elim

/-- Whatever the moves are that bring a program to its end, its result is as `Q` says. -/
theorem reaches (h : Steady answer inv p Q) (kept : inv s) {a : α} {t : σ}
    (reached : Reaches answer p s (.pure a) t) : inv t ∧ Q a := by
  generalize final : (Program.pure a : Program Op α) = q at reached
  induction reached with
  | refl =>
    subst final
    exact ⟨kept, h⟩
  | more path _ _ ih =>
    obtain ⟨kept, h⟩ := h.move kept path
    exact ih h kept final

/-! ## Lists of tasks -/

section Tasks

universe u

variable {γ : Type u} {task : γ → Program Op α} {post : γ → α → Prop} {xs : List γ}

/-- The results of a group are those of its tasks, in some order. -/
theorem all (width : Nat) (each : ∀ x ∈ xs, Steady answer inv (task x) (post x)) :
    Steady answer inv (Program.all width (xs.map task)) fun results =>
      ∃ order : List γ, order.Perm xs ∧ List.Forall₂ post order results := by
  obtain ⟨element, own, told⟩ := exists_numbering task xs
  refine ⟨fun i => post (element i), fun i => ?_, fun order bs perm results => ?_⟩
  · dsimp only
    rw [(own i).1]
    exact each _ (own i).2
  · refine ⟨order.map element, ?_, List.forall₂_map_left_iff.2 results⟩
    exact (perm.map element).trans (.of_eq told)

/-- The results of tasks side by side are those of the tasks, in their order. -/
theorem together (each : ∀ x ∈ xs, Steady answer inv (task x) (post x)) :
    Steady answer inv (Program.together (xs.map task)) (List.Forall₂ post xs) := by
  obtain ⟨element, own, told⟩ := exists_numbering task xs
  refine ⟨fun i => post (element i), fun i => ?_, fun bs results => ?_,
    fun i b _ stop => nomatch stop⟩
  · dsimp only
    rw [(own i).1]
    exact each _ (own i).2
  · have results := List.forall₂_map_left_iff.2 results
    rwa [told] at results

/-- Two tasks side by side. -/
theorem pair {p q : Program Op α} {P Q : α → Prop} (first : Steady answer inv p P)
    (second : Steady answer inv q Q) :
    Steady answer inv (Program.together [p, q]) fun results =>
      ∃ a b, P a ∧ Q b ∧ results = [a, b] := by
  have both : ∀ x ∈ [(p, P), (q, Q)], Steady answer inv x.1 x.2 :=
    List.forall_mem_cons.2 ⟨first, List.forall_mem_singleton.2 second⟩
  refine mono (together both) fun results told => ?_
  cases told with
  | cons own rest =>
    cases rest with
    | cons other rest =>
      cases rest
      exact ⟨_, _, own, other, rfl⟩

end Tasks

end Steady

end Metering.Program

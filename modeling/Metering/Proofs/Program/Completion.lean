import Metering.Proofs.Program.Moves

/-!
# Every program comes to its end

`settle` runs the tasks of a program one after another. Such a run is a list of moves, so moves can
bring every program to its end, and what holds whatever the moves are holds for a run in sequence.

Results: `reaches_settle`.
-/

namespace Metering.Program

variable {Op : Type → Type 1} {α β : Type} {σ : Type} (answer : {β : Type} → Op β → σ → β × σ)

/-- Some moves lead from a program to what is left of it. -/
inductive Reaches : Program Op α → σ → Program Op α → σ → Prop
  | refl (p : Program Op α) (s : σ) : Reaches p s p s
  | more {p q : Program Op α} {s t : σ} (path : List Nat) (unfinished : p.result? = none)
      (rest : Reaches (p.move answer path s).1 (p.move answer path s).2 q t) : Reaches p s q t

variable {answer}

theorem Reaches.trans {p q r : Program Op α} {s t u : σ} (first : Reaches answer p s q t)
    (second : Reaches answer q t r u) : Reaches answer p s r u := by
  induction first with
  | refl => exact second
  | more path unfinished _ ih => exact .more path unfinished (ih second)

theorem Reaches.step {p q : Program Op α} {s t : σ} (path : List Nat)
    (unfinished : p.result? = none) (moved : p.move answer path s = (q, t)) :
    Reaches answer p s q t := by
  refine .more path unfinished ?_
  rw [moved]
  exact .refl q t

/-- What every request keeps is kept by a run. -/
theorem Reaches.keeps {P : σ → Prop}
    (keeps : ∀ {β : Type} (op : Op β) (s : σ), P s → P (answer op s).2) {p q : Program Op α}
    {s t : σ} (h : P s) (reached : Reaches answer p s q t) : P t := by
  induction reached with
  | refl => exact h
  | more path _ _ ih => exact ih (move_keeps keeps _ path h)

/-! ## Groups -/

section Groups

variable {width : Nat} {next : List β → Program Op α}

/-- A group of the tasks in a list. -/
def groupOf (width : Nat) (tasks : List (Program Op β)) (next : List β → Program Op α) :
    Program Op α :=
  .group width tasks.length (fun i => tasks[i]) next

theorem group_eq_groupOf {size : Nat} {task : Fin size → Program Op β}
    {tasks : List (Program Op β)} (length : tasks.length = size)
    (same : ∀ i (h : i < tasks.length), tasks[i] = task ⟨i, length ▸ h⟩) :
    group width size task next = groupOf width tasks next := by
  subst length
  have same : task = fun i => tasks[i] := funext fun i => (same i i.isLt).symm
  rw [groupOf, same]

theorem group_eq_map {size : Nat} (task : Fin size → Program Op β) :
    group width size task next = groupOf width ((List.finRange size).map task) next :=
  group_eq_groupOf (by simp) (by simp)

variable {xs ys : List (Program Op β)}

theorem replace_append {p q : Program Op β} {i : Fin (xs ++ p :: ys).length}
    (place : i.val = xs.length) :
    group width (xs ++ p :: ys).length (replace (fun i => (xs ++ p :: ys)[i]) i q) next =
      groupOf width (xs ++ q :: ys) next := by
  refine group_eq_groupOf (by simp) fun j lt => ?_
  unfold replace
  by_cases same : j = xs.length
  · subst same
    simp [Fin.ext_iff, place]
  · simp only [Fin.ext_iff, place, if_neg same, Fin.getElem_fin]
    simp only [List.getElem_append, List.getElem_cons]
    split
    · rfl
    · rw [dif_neg (by omega), dif_neg (by omega)]

theorem without_append {p : Program Op β} {i : Fin (xs ++ p :: ys).length}
    (place : i.val = xs.length) :
    group width ((xs ++ p :: ys).length - 1) (without (fun i => (xs ++ p :: ys)[i]) i) next =
      groupOf width (xs ++ ys) next := by
  refine group_eq_groupOf (by simp) fun j lt => ?_
  unfold without skip
  by_cases before : j < xs.length
  · simp [place, before]
  · have after : ¬ j + 1 < xs.length := by omega
    have shift : j + 1 - xs.length = j - xs.length + 1 := by omega
    simp [place, before, List.getElem_append, after, shift]

/-- A path leads to each task that has a place: it moves, or hands in its result. -/
theorem move_groupOf {p : Program Op β} (front : xs.length < max width 1) (path : List Nat)
    (s : σ) :
    (groupOf width (xs ++ p :: ys) next).move answer (xs.length :: path) s =
      match p.result? with
      | some b => (groupOf width (xs ++ ys) fun bs => next (b :: bs), s)
      | none =>
        (groupOf width (xs ++ (p.move answer path s).1 :: ys) next,
          (p.move answer path s).2) := by
  have lt : xs.length < (xs ++ p :: ys).length := by simp
  have pos : 0 < (xs ++ p :: ys).length := Nat.lt_of_le_of_lt (Nat.zero_le _) lt
  have place : xs.length % min (xs ++ p :: ys).length (max width 1) = xs.length :=
    Nat.mod_eq_of_lt (Nat.lt_min.2 ⟨lt, front⟩)
  have own : (xs ++ p :: ys)[xs.length] = p := by simp
  rw [groupOf, move, dif_pos pos]
  simp only [List.headD_cons, List.tail_cons, place, Fin.getElem_fin, own]
  cases p.result? with
  | some b => exact congrArg (·, s) (without_append rfl)
  | none => exact congrArg (·, (p.move answer path s).2) (replace_append rfl)

/-- What a task reaches by itself, it reaches in its place. -/
theorem Reaches.member {p q : Program Op β} {s t : σ} (front : xs.length < max width 1)
    (h : Reaches answer p s q t) :
    Reaches answer (groupOf width (xs ++ p :: ys) next) s
      (groupOf width (xs ++ q :: ys) next) t := by
  induction h with
  | refl => exact .refl _ _
  | more path unfinished _ ih =>
    refine .more (xs.length :: path) rfl ?_
    rw [move_groupOf front, unfinished]
    exact ih

/-- A task that comes to its end hands in its result. -/
theorem Reaches.handIn {p : Program Op β} {b : β} {s t : σ} (front : xs.length < max width 1)
    (h : Reaches answer p s (.pure b) t) :
    Reaches answer (groupOf width (xs ++ p :: ys) next) s
      (groupOf width (xs ++ ys) fun bs => next (b :: bs)) t := by
  refine (h.member front).trans (.step [xs.length] rfl ?_)
  exact move_groupOf front [] t

theorem reaches_next (s : σ) : Reaches answer (groupOf width [] next) s (next []) s :=
  .step [] rfl rfl

theorem reaches_settleAll {size : Nat} {task : Fin size → Program Op β}
    {run : Fin size → σ → β × σ}
    (reaches : ∀ i s, Reaches answer (task i) s (.pure (run i s).1) (run i s).2)
    (is : List (Fin size)) (next : List β → Program Op α) (s : σ) :
    Reaches answer (groupOf width (is.map task) next) s (next (settleAll run is s).1)
      (settleAll run is s).2 := by
  induction is generalizing next s with
  | nil => exact reaches_next s
  | cons i is ih =>
    -- the first task that is left has a place, however narrow the group is
    have first : ([] : List (Program Op β)).length < max width 1 := Nat.le_max_right width 1
    exact ((reaches i s).handIn first).trans (ih _ _)

end Groups

/-! ## Joins -/

section Joins

variable {first size : Nat} {task : Fin size → Program Op β} {stops : β → Bool}
  {next : List β → Program Op α}

theorem replace_same (i : Fin size) {p : Program Op β} (same : task i = p) :
    replace task i p = task := by
  funext j
  unfold replace
  split
  · next eq => rw [eq, same]
  · rfl

theorem replace_replace (i : Fin size) (p q : Program Op β) :
    replace (replace task i p) i q = replace task i q := by
  funext j
  unfold replace
  split <;> rfl

/-- A path leads to each task of a join. -/
theorem move_side (i : Fin size) (path : List Nat) (s : σ) :
    (join first size task stops next).move answer (i.val :: path) s =
      match (task i).result?, results? task with
      | some b, some bs => (if stops b then next [b] else next bs, s)
      | some b, none => (if stops b then next [b] else join first size task stops next, s)
      | none, _ =>
        (join first size (replace task i ((task i).move answer path s).1) stops next,
          ((task i).move answer path s).2) := by
  have pos : 0 < size := Nat.lt_of_le_of_lt (Nat.zero_le _) i.isLt
  have place : (⟨i.val % size, Nat.mod_lt _ pos⟩ : Fin size) = i :=
    Fin.ext (Nat.mod_eq_of_lt i.isLt)
  refine (dif_pos pos).trans ?_
  dsimp only [List.headD_cons, List.tail_cons]
  generalize (⟨i.val % size, Nat.mod_lt _ pos⟩ : Fin size) = j at place ⊢
  subst place
  rfl

/-- What a task reaches by itself, it reaches in a join. -/
theorem Reaches.side {i : Fin size} {q : Program Op β} {s t : σ}
    (h : Reaches answer (task i) s q t) :
    Reaches answer (join first size task stops next) s
      (join first size (replace task i q) stops next) t := by
  generalize start : task i = p at h
  induction h generalizing task with
  | refl p s =>
    rw [replace_same i start]
    exact .refl _ _
  | @more p q s t path unfinished _ ih =>
    have unfinished : (task i).result? = none := start ▸ unfinished
    have rest := ih (replace_self task i (p.move answer path s).1)
    rw [replace_replace] at rest
    refine .more (i.val :: path) rfl ?_
    rw [move_side, unfinished, start]
    exact rest

/-- A result that stops the others ends a join. -/
theorem reaches_stop {i : Fin size} {b : β} (ended : task i = .pure b) (stop : stops b = true)
    (s : σ) : Reaches answer (join first size task stops next) s (next [b]) s := by
  refine .step [i.val] rfl ?_
  rw [move_side, ended]
  cases results? task <;> simp only [result?, stop, if_true]

/-- Where all tasks have ended and none stops the others, the join goes on. -/
theorem reaches_joined {bs : List β} (ended : (List.finRange size).map task = bs.map .pure)
    (running : ∀ b ∈ bs, stops b = false) (s : σ) :
    Reaches answer (join first size task stops next) s (next bs) s := by
  have results : results? task = some bs := by
    have results : ((List.finRange size).map task).mapM result? = (bs.map .pure).mapM result? :=
      congrArg (List.mapM result?) ended
    rw [List.mapM_map, List.mapM_map] at results
    exact results.trans ((List.mapM_pure (f := id) ..).trans (congrArg some (List.map_id bs)))
  cases size with
  | zero =>
    cases results
    exact .step [] rfl rfl
  | succ size =>
    -- one more move finds all of them ended; that of the first will do
    have member : task 0 ∈ bs.map .pure := ended ▸ List.mem_map_of_mem (List.mem_finRange 0)
    obtain ⟨b, given, last⟩ := List.mem_map.1 member
    refine .step [0] rfl ((move_side 0 [] s).trans ?_)
    simp only [← last, result?, results, running b given, Bool.false_eq_true, if_false]

variable (first stops next) in
/-- The tasks of a join run one after another, up to a result that stops the others. -/
theorem reaches_settleJoin {run : Fin size → σ → β × σ} {is : List (Fin size)} (distinct : is.Nodup)
    (reaches : ∀ i ∈ is, ∀ s, Reaches answer (task i) s (.pure (run i s).1) (run i s).2) (s : σ) :
    match settleJoin run stops is s with
    | (.error b, t) => Reaches answer (join first size task stops next) s (next [b]) t
    | (.ok bs, t) => ∃ task' : Fin size → Program Op β,
        Reaches answer (join first size task stops next) s (join first size task' stops next) t ∧
        (∀ i ∉ is, task' i = task i) ∧ is.map task' = bs.map .pure ∧ ∀ b ∈ bs, stops b = false := by
  -- over the tasks that are still to run, with those that have run in place as their results
  induction is generalizing task s with
  | nil => exact ⟨task, .refl _ _, fun _ _ => rfl, rfl, nofun⟩
  | cons i is ih =>
    obtain ⟨absent, distinct⟩ := List.nodup_cons.1 distinct
    have moved : Reaches answer (join first size task stops next) s
        (join first size (replace task i (.pure (run i s).1)) stops next) (run i s).2 :=
      (reaches i List.mem_cons_self s).side
    unfold settleJoin
    generalize run i s = result at moved ⊢
    obtain ⟨b, t⟩ := result
    dsimp only at moved ⊢
    cases stop : stops b with
    | true => exact moved.trans (reaches_stop (replace_self task i _) stop t)
    | false =>
      have others : ∀ j ∈ is, ∀ s,
          Reaches answer (replace task i (.pure b) j) s (.pure (run j s).1) (run j s).2 := by
        intro j member s
        have ne : j ≠ i := fun eq => absent (eq ▸ member)
        rw [replace_of_ne task ne]
        exact reaches j (List.mem_cons_of_mem i member) s
      have rest := ih distinct others t
      generalize settleJoin run stops is t = result at rest ⊢
      obtain ⟨b' | bs, u⟩ := result
      · exact moved.trans rest
      · obtain ⟨task', reached, kept, ended, running⟩ := rest
        refine ⟨task', moved.trans reached, ?_, ?_, ?_⟩
        · intro j other
          rw [List.mem_cons, not_or] at other
          rw [kept j other.2, replace_of_ne task other.1]
        · rw [List.map_cons, List.map_cons, kept i absent, replace_self, ended]
        · rintro b' (_ | ⟨_, member⟩)
          · exact stop
          · exact running b' member

end Joins

/-! ## Watches -/

/-- What a task reaches by itself, it reaches when it is watched. -/
theorem Reaches.watched {isOver : Program Op Bool} {next : Option β → Program Op α}
    {p q : Program Op β} {s t : σ} (h : Reaches answer p s q t) :
    Reaches answer (watch isOver p next) s (watch isOver q next) t := by
  induction h with
  | refl => exact .refl _ _
  | @more p q s t path unfinished _ ih =>
    refine .more (0 :: path) rfl ?_
    have moved : (watch isOver p next).move answer (0 :: path) s =
        (watch isOver (p.move answer path s).1 next, (p.move answer path s).2) := by
      rw [Program.move, unfinished]
      rfl
    rw [moved]
    exact ih

/-! ## Runs in sequence -/

/-- Moves bring a program to the end that a run in sequence has. -/
theorem reaches_settle (p : Program Op α) (s : σ) :
    Reaches answer p s (.pure (p.settle answer s).1) (p.settle answer s).2 := by
  induction p generalizing s with
  | pure a => exact .refl _ _
  | request op next ih => exact .more [] rfl (ih _ _)
  | pause next ih => exact .more [] rfl (ih _)
  | group width size task next ih_task ih_next =>
    have tasks : Reaches answer (group width size task next) s _ _ :=
      group_eq_map task ▸ reaches_settleAll ih_task (List.finRange size) next s
    exact tasks.trans (ih_next _ _)
  | join first size task stops next ih_task ih_next =>
    have tasks := reaches_settleJoin first stops next (List.nodup_finRange size)
      (fun i _ => ih_task i) s
    unfold settle
    generalize settleJoin (fun i => (task i).settle answer) stops (List.finRange size) s = result
      at tasks ⊢
    obtain ⟨b | bs, t⟩ := result
    · exact tasks.trans (ih_next _ _)
    · obtain ⟨task', reached, -, ended, running⟩ := tasks
      refine reached.trans ((reaches_joined ended running t).trans (ih_next _ _))
  | watch isOver task next ih_isOver ih_task ih_next =>
    exact ((ih_task s).watched.trans (.step [] rfl rfl)).trans (ih_next _ _)

end Metering.Program

import Metering.Proofs.Program.Completion

/-!
# What a run consists of

A run that has come to its end is a list of moves of the whole program. Where the program is a
sequence the moves of its first part come before those of the rest, however the tasks of either part
take turns, so the run is a run of the first part and then one of the rest.

Results: `Reaches.of_bind`, `Reaches.of_request`, `Reaches.of_abandonIf`.
-/

namespace Metering.Program

variable {Op : Type → Type 1} {α β : Type} {σ : Type} {answer : {β : Type} → Op β → σ → β × σ}
  {s t : σ}

/-- As long as the first part of a sequence has not ended, it makes the moves. -/
theorem move_bind {p : Program Op α} (unfinished : p.result? = none) (f : α → Program Op β)
    (path : List Nat) (s : σ) :
    (p.bind f).move answer path s =
      ((p.move answer path s).1.bind f, (p.move answer path s).2) := by
  cases p with
  | pure a => cases unfinished
  | request op next => rfl
  | pause next => rfl
  | group width size task next =>
    simp only [bind, move]
    split
    · split <;> rfl
    · rfl
  | join first size task stops next =>
    simp only [bind, move]
    split
    · split
      · split <;> rfl
      · split <;> rfl
      · rfl
    · rfl
  | watch isOver task next =>
    simp only [bind, move]
    split
    · rfl
    · split
      · rfl
      · dsimp only
        split <;> rfl

namespace Reaches

theorem of_pure {a b : α} (reached : Reaches answer (Pure.pure a : Program Op α) s (.pure b) t) :
    b = a ∧ t = s := by
  cases reached with
  | refl => exact ⟨rfl, rfl⟩
  | more _ unfinished _ => cases unfinished

/-- A run of a sequence is a run of its first part, and then one of the rest. -/
theorem of_bind {p : Program Op α} {f : α → Program Op β} {b : β}
    (reached : Reaches answer (p >>= f) s (.pure b) t) :
    ∃ a u, Reaches answer p s (.pure a) u ∧ Reaches answer (f a) u (.pure b) t := by
  change Reaches answer (p.bind f) s _ t at reached
  generalize start : p.bind f = whole, final : (Program.pure b : Program Op β) = last at reached
  induction reached generalizing p with
  | refl whole s =>
    cases p with
    | pure a =>
      subst start
      exact ⟨a, s, .refl _ _, .refl _ _⟩
    | _ =>
      subst start
      cases final
  | @more whole _ s _ path unfinished rest ih =>
    cases ended : p.result? with
    | some a =>
      obtain rfl := eq_pure_of_result? ended
      subst start final
      exact ⟨a, s, .refl _ _, .more path unfinished rest⟩
    | none =>
      subst start
      rw [move_bind ended] at ih
      obtain ⟨a, u, first, others⟩ := ih rfl final
      exact ⟨a, u, .more path ended first, others⟩

theorem of_ask {op : Op α} {a : α} (reached : Reaches answer (ask op) s (.pure a) t) :
    (a, t) = answer op s := by
  cases reached with
  | more path _ rest =>
    obtain ⟨rfl, rfl⟩ := of_pure rest
    rfl

/-- A run that begins with a request goes on with its answer. -/
theorem of_ask_bind {op : Op α} {f : α → Program Op β} {b : β}
    (reached : Reaches answer (ask op >>= f) s (.pure b) t) :
    Reaches answer (f (answer op s).1) (answer op s).2 (.pure b) t := by
  obtain ⟨a, u, asked, rest⟩ := reached.of_bind
  obtain ⟨rfl, rfl⟩ := Prod.mk.inj (of_ask asked)
  exact rest

/-- A request that may be given up is made or given up, once it was asked some times whether to do
so. -/
theorem of_abandonIf {isOver : Program Op Bool} {op : Op α} {P : σ → Prop}
    (polls : ∀ s, P s → P (isOver.settle answer s).2) (start : P s) {a? : Option α}
    (reached : Reaches answer (abandonIf isOver (ask op)) s (.pure a?) t) :
    (a? = none ∧ P t) ∨ ∃ u, P u ∧ a? = some (answer op u).1 ∧ t = (answer op u).2 := by
  generalize first : abandonIf isOver (ask op) = p, final : (Program.pure a? : Program Op _) = last
    at reached
  induction reached with
  | refl =>
    subst first
    cases final
  | @more p _ s _ path _ rest ih =>
    subst first final
    rcases move_watch isOver (ask op) .pure path s with
      ⟨b, made, -⟩ | ⟨-, eq⟩ | ⟨-, p, given, eq⟩
    · cases made
    · -- the request is made; what is left hands on its answer
      change move _ (abandonIf isOver (ask op)) path s = _ at eq
      rw [eq] at rest
      cases rest with
      | more path _ rest =>
        rcases move_watch isOver (.pure (answer op s).1) (.pure (α := Option α)) path
          (answer op s).2 with ⟨b, made, eq⟩ | ⟨unfinished, -⟩ | ⟨unfinished, -⟩
        · cases made
          have ended := of_pure (eq ▸ rest)
          exact .inr ⟨s, start, ended⟩
        · cases unfinished
        · cases unfinished
    · change move _ (abandonIf isOver (ask op)) path s = _ at eq
      rw [eq] at rest ih
      obtain ⟨-, rfl⟩ | rfl := given
      · obtain ⟨rfl, rfl⟩ := of_pure rest
        exact .inl ⟨rfl, polls s start⟩
      · exact ih (polls s start) rfl rfl

end Reaches

end Metering.Program

import Metering.Program

/-!
# A program among others

While a program runs others change the state too, between any two of its requests. What they may do
is a relation, `rely`. A program always ends in some way if it does so whatever they do; that is
told request by request, as the rest of the program is met with any state that they may leave.

Results: `Always.bind`, `Always.mono`, and `Always.task_bind` for tasks, which go on only where they
have not failed.
-/

namespace Metering.Program

variable {Op : Type → Type 1} {σ : Type} (answer : {β : Type} → Op β → σ → β × σ)
  (rely : σ → σ → Prop) {α β : Type}

/-- Whatever others do between its requests, the program ends as `Q` says. A program whose tasks run
side by side is not spoken for. -/
def Always : {α : Type} → Program Op α → σ → (α → σ → Prop) → Prop
  | _, .pure a, s, Q => Q a s
  | _, .request op next, s, Q =>
    ∀ t, rely s t → Always (next (answer op t).1) (answer op t).2 Q
  | _, .pause next, s, Q => Always next s Q
  | _, .group .., _, _ | _, .join .., _, _ | _, .watch .., _, _ => False

variable {answer rely}

namespace Always

variable {p : Program Op α} {s : σ} {Q R : α → σ → Prop}

theorem mono (h : Always answer rely p s Q) (le : ∀ a t, Q a t → R a t) :
    Always answer rely p s R := by
  induction p generalizing s with
  | pure a => exact le a s h
  | request op next ih => exact fun t others => ih _ (h t others) le
  | pause next ih => exact ih h le
  | group | join | watch => exact h

theorem bind {f : α → Program Op β} {R : β → σ → Prop}
    (h : Always answer rely p s fun a t => Always answer rely (f a) t R) :
    Always answer rely (p >>= f) s R := by
  change Always answer rely (p.bind f) s R
  induction p generalizing s with
  | pure a => exact h
  | request op next ih => exact fun t others => ih _ (h t others)
  | pause next ih => exact ih h
  | group | join | watch => exact h

theorem pure {a : α} (h : Q a s) : Always answer rely (Pure.pure a : Program Op α) s Q := h

theorem ask {op : Op α} (h : ∀ t, rely s t → Q (answer op t).1 (answer op t).2) :
    Always answer rely (Program.ask op) s Q :=
  h

/-- Where the others may do nothing, the program ends so on its own. -/
theorem settle (still : ∀ s, rely s s) (h : Always answer rely p s Q) :
    Q (p.settle answer s).1 (p.settle answer s).2 := by
  induction p generalizing s with
  | pure a => exact h
  | request op next ih => exact ih _ (h s (still s))
  | pause next ih => exact ih h
  | group | join | watch => exact h.elim

/-- A task goes on where it has not failed. -/
theorem task_bind {ε : Type} {x : ExceptT ε (Program Op) α} {f : α → ExceptT ε (Program Op) β}
    {R : Except ε β → σ → Prop}
    (h : Always answer rely x.run s fun result t => match result with
      | .ok a => Always answer rely (f a).run t R
      | .error e => R (.error e) t) :
    Always answer rely (x >>= f).run s R := by
  refine bind (h.mono fun result t post => ?_)
  cases result with
  | ok a => exact post
  | error e => exact post

/-- What a list of steps adds up to, where each step adds its part. -/
theorem forM {γ : Type} (step : γ → β → γ) (inv : γ → σ → Prop) {f : β → Program Op PUnit}
    {bs : List β} (each : ∀ g, ∀ b ∈ bs, ∀ t, inv g t →
      Always answer rely (f b) t fun _ t => inv (step g b) t)
    {g : γ} (start : inv g s) :
    Always answer rely (bs.forM f) s fun _ t => inv (bs.foldl step g) t := by
  induction bs generalizing g s with
  | nil => exact start
  | cons b bs ih =>
    refine bind ((each g b List.mem_cons_self s start).mono fun _ t held => ?_)
    exact ih (fun g b' member => each g b' (List.mem_cons_of_mem _ member)) held

/-- The same for tasks, none of which fails. -/
theorem task_forM {ε γ : Type} (step : γ → β → γ) (inv : γ → σ → Prop)
    {f : β → ExceptT ε (Program Op) PUnit} {bs : List β} (each : ∀ g, ∀ b ∈ bs, ∀ t, inv g t →
      Always answer rely (f b).run t fun result t => result = .ok ⟨⟩ ∧ inv (step g b) t)
    {g : γ} (start : inv g s) :
    Always answer rely (bs.forM f).run s fun result t =>
      result = .ok ⟨⟩ ∧ inv (bs.foldl step g) t := by
  induction bs generalizing g s with
  | nil => exact ⟨rfl, start⟩
  | cons b bs ih =>
    refine task_bind ((each g b List.mem_cons_self s start).mono ?_)
    rintro _ t ⟨rfl, held⟩
    exact ih (fun g b' member => each g b' (List.mem_cons_of_mem _ member)) held

/-- The same for tasks that hand on a value, none of which fails. -/
theorem task_foldlM {ε γ : Type} (step : γ → β → γ) (inv : γ → α → σ → Prop)
    {f : α → β → ExceptT ε (Program Op) α} {bs : List β}
    (each : ∀ g a, ∀ b ∈ bs, ∀ t, inv g a t →
      Always answer rely (f a b).run t fun result t => ∃ a', result = .ok a' ∧ inv (step g b) a' t)
    {g : γ} {a : α} (start : inv g a s) :
    Always answer rely (bs.foldlM f a).run s fun result t =>
      ∃ a', result = .ok a' ∧ inv (bs.foldl step g) a' t := by
  induction bs generalizing g a s with
  | nil => exact ⟨a, rfl, start⟩
  | cons b bs ih =>
    rw [List.foldlM_cons]
    refine task_bind ((each g a b List.mem_cons_self s start).mono ?_)
    rintro _ t ⟨a', rfl, held⟩
    exact ih (fun g a b' member => each g a b' (List.mem_cons_of_mem _ member)) held

end Always

end Metering.Program

import Metering.Proofs.Program.Completion

/-!
# Programs under a monitor

A monitor watches the requests of a program and their answers. It has a state, allows some requests
in it, and moves on with each answer. A program obeys a monitor if it makes only requests that are
allowed, whatever the answers are and however its tasks take turns.

Tasks that run side by side are told apart by ownership: at most one task of a group may make
requests that concern the monitor, and the others are silent. This is what makes the rule for
groups local: the order in which the tasks move does not matter.

Results:
1. `Obeys.bind`, `Obeys.mono`, `Obeys.silent` and `Ensures.all_one`: rules by which programs are
   shown to obey; `Obeys.widen`, for a monitor that allows more.
2. `Obeys.move`: an invariant that each allowed request keeps is kept by each move of a program
   that obeys, and the rest of the program obeys too.
3. `reaches_of_silent`: what neutral requests keep is kept by a run of a silent program.
-/

namespace Metering

/-- What a program may ask for, and how its answers are followed. -/
structure Monitor (Op : Type → Type 1) (μ : Type) where
  /-- The request may be made in a state. -/
  allows : {β : Type} → Op β → μ → Prop
  /-- The answer is one that can come. -/
  sound : {β : Type} → Op β → β → Prop
  /-- The state after an answer. -/
  after : {β : Type} → Op β → β → μ → μ

namespace Monitor

open Program

variable {Op : Type → Type 1} {μ : Type} (m : Monitor Op μ) {α β : Type}

/-- The request is always allowed and changes nothing. -/
def Neutral (op : Op β) : Prop := ∀ φ, m.allows op φ ∧ ∀ b, m.after op b φ = φ

/-- The program makes neutral requests only. -/
def Silent : {α : Type} → Program Op α → Prop
  | _, .pure _ => True
  | _, .request op next => m.Neutral op ∧ ∀ b, Silent (next b)
  | _, .pause next => Silent next
  | _, .group _ _ task next => (∀ i, Silent (task i)) ∧ ∀ bs, Silent (next bs)
  | _, .join _ _ task _ next => (∀ i, Silent (task i)) ∧ ∀ bs, Silent (next bs)
  | _, .watch isOver task next => Silent isOver ∧ Silent task ∧ ∀ b?, Silent (next b?)

/-- Whatever its requests are answered, the program has a result as `P` says. -/
def Yields : {α : Type} → (α → Prop) → Program Op α → Prop
  | _, P, .pure a => P a
  | _, P, .request op next => ∀ b, m.sound op b → Yields P (next b)
  | _, P, .pause next => Yields P next
  | _, P, .group _ _ _ next => ∀ bs, Yields P (next bs)
  | _, P, .join _ _ _ _ next => ∀ bs, Yields P (next bs)
  | _, P, .watch _ _ next => ∀ b?, Yields P (next b?)

/-- The program makes allowed requests only and ends as `Q` says. Where it has not ended `Q none`
holds, so that it can be given up. -/
def Obeys : {α : Type} → Program Op α → μ → (Option α → μ → Prop) → Prop
  | _, .pure a, φ, Q => Q (some a) φ
  | _, .request op next, φ, Q =>
    Q none φ ∧ m.allows op φ ∧ ∀ b, m.sound op b → Obeys (next b) (m.after op b φ) Q
  | _, .pause next, φ, Q => Q none φ ∧ Obeys next φ Q
  | _, .group _ _ task next, φ, Q =>
    Q none φ ∧ (((∀ i, m.Silent (task i)) ∧ ∀ bs, Obeys (next bs) φ Q) ∨
      ∃ owner, (∀ i, i ≠ owner → m.Silent (task i)) ∧
        -- the others may still be running when the owner ends, so what follows takes any results
        Obeys (task owner) φ fun b? φ =>
          Q none φ ∧ (b?.isSome = true → ∀ bs, Obeys (next bs) φ Q))
  | _, .join _ _ task _ next, φ, Q =>
    Q none φ ∧ (∀ i, m.Silent (task i)) ∧ ∀ bs, Obeys (next bs) φ Q
  | _, .watch isOver task next, φ, Q =>
    Q none φ ∧ m.Silent isOver ∧ Obeys task φ fun b? φ =>
      Q none φ ∧ ((b? = none ∧ m.Yields (· = false) isOver) ∨ Obeys (next b?) φ Q)

variable {m}

/-! ## Rules -/

theorem Obeys.none {p : Program Op α} {φ : μ} {Q : Option α → μ → Prop} (h : m.Obeys p φ Q)
    (unfinished : p.result? = .none) : Q .none φ := by
  cases p with
  | pure a => cases unfinished
  | _ => exact h.1

/-- What holds at the end and wherever a program can be given up holds now. -/
theorem Obeys.given {p : Program Op α} {φ : μ} {G : μ → Prop} {R : Option α → μ → Prop}
    (h : m.Obeys p φ fun a? φ => G φ ∧ R a? φ) : G φ := by
  cases ended : p.result? with
  | none => exact (h.none ended).1
  | some a =>
    rw [eq_pure_of_result? ended] at h
    exact h.1

theorem Obeys.mono {p : Program Op α} {φ : μ} {Q R : Option α → μ → Prop} (h : m.Obeys p φ Q)
    (le : ∀ a? φ, Q a? φ → R a? φ) : m.Obeys p φ R := by
  induction p generalizing φ with
  | pure a => exact le _ _ h
  | request op next ih =>
    obtain ⟨none, allowed, h⟩ := h
    exact ⟨le _ _ none, allowed, fun b sound => ih b (h b sound) le⟩
  | pause next ih => exact ⟨le _ _ h.1, ih h.2 le⟩
  | group width size task next ih_task ih_next =>
    obtain ⟨none, ⟨silent, h⟩ | ⟨owner, silent, h⟩⟩ := h
    · exact ⟨le _ _ none, .inl ⟨silent, fun bs => ih_next bs (h bs) le⟩⟩
    · refine ⟨le _ _ none, .inr ⟨owner, silent, ih_task owner h ?_⟩⟩
      exact fun b? φ post => ⟨le _ _ post.1, fun ended bs => ih_next bs (post.2 ended bs) le⟩
  | join first size task stops next ih_task ih_next =>
    obtain ⟨none, silent, h⟩ := h
    exact ⟨le _ _ none, silent, fun bs => ih_next bs (h bs) le⟩
  | watch isOver task next ih_isOver ih_task ih_next =>
    obtain ⟨none, silent, h⟩ := h
    refine ⟨le _ _ none, silent, ih_task h ?_⟩
    exact fun b? φ post => ⟨le _ _ post.1, post.2.imp_right fun h => ih_next b? h le⟩

theorem Obeys.bind {p : Program Op α} {f : α → Program Op β} {φ : μ} {Q : Option β → μ → Prop}
    (h : m.Obeys p φ fun a? φ => Q .none φ ∧ ∀ a, a? = some a → m.Obeys (f a) φ Q) :
    m.Obeys (p.bind f) φ Q := by
  induction p generalizing φ with
  | pure a => exact h.2 a rfl
  | request op next ih =>
    obtain ⟨⟨none, -⟩, allowed, h⟩ := h
    exact ⟨none, allowed, fun b sound => ih b (h b sound)⟩
  | pause next ih => exact ⟨h.1.1, ih h.2⟩
  | group width size task next ih_task ih_next =>
    obtain ⟨⟨none, -⟩, ⟨silent, h⟩ | ⟨owner, silent, h⟩⟩ := h
    · exact ⟨none, .inl ⟨silent, fun bs => ih_next bs (h bs)⟩⟩
    · refine ⟨none, .inr ⟨owner, silent, h.mono ?_⟩⟩
      exact fun b? φ post => ⟨post.1.1, fun ended bs => ih_next bs (post.2 ended bs)⟩
  | join first size task stops next ih_task ih_next =>
    obtain ⟨⟨none, -⟩, silent, h⟩ := h
    exact ⟨none, silent, fun bs => ih_next bs (h bs)⟩
  | watch isOver task next ih_isOver ih_task ih_next =>
    obtain ⟨⟨none, -⟩, silent, h⟩ := h
    refine ⟨none, silent, h.mono ?_⟩
    exact fun b? φ post => ⟨post.1.1, post.2.imp_right (ih_next b?)⟩

/-- A silent program leaves the state of the monitor alone. -/
theorem Obeys.silent {p : Program Op α} (silent : m.Silent p) {φ : μ} {Q : Option α → μ → Prop}
    (post : ∀ a?, Q a? φ) : m.Obeys p φ Q := by
  induction p generalizing φ with
  | pure a => exact post _
  | request op next ih =>
    obtain ⟨neutral, silent⟩ := silent
    obtain ⟨allowed, same⟩ := neutral φ
    exact ⟨post _, allowed, fun b _ => by rw [same b]; exact ih b (silent b) post⟩
  | pause next ih => exact ⟨post _, ih silent post⟩
  | group width size task next ih_task ih_next =>
    exact ⟨post _, .inl ⟨silent.1, fun bs => ih_next bs (silent.2 bs) post⟩⟩
  | join first size task stops next ih_task ih_next =>
    exact ⟨post _, silent.1, fun bs => ih_next bs (silent.2 bs) post⟩
  | watch isOver task next ih_isOver ih_task ih_next =>
    obtain ⟨asks, silent, rest⟩ := silent
    exact ⟨post _, asks, ih_task silent fun b? => ⟨post _, .inr (ih_next b? (rest b?) post)⟩⟩

theorem Silent.bind {p : Program Op α} {f : α → Program Op β} (h : m.Silent p)
    (rest : ∀ a, m.Silent (f a)) : m.Silent (p >>= f) := by
  change m.Silent (p.bind f)
  induction p with
  | pure a => exact rest a
  | request op next ih => exact ⟨h.1, fun b => ih b (h.2 b) rest⟩
  | pause next ih => exact ih h rest
  | group width size task next _ ih => exact ⟨h.1, fun bs => ih bs (h.2 bs) rest⟩
  | join first size task stops next _ ih => exact ⟨h.1, fun bs => ih bs (h.2 bs) rest⟩
  | watch isOver task next _ _ ih => exact ⟨h.1, h.2.1, fun b? => ih b? (h.2.2 b?) rest⟩

theorem Silent.forM {f : β → Program Op PUnit} (h : ∀ b, m.Silent (f b)) (bs : List β) :
    m.Silent (bs.forM f) := by
  induction bs with
  | nil => trivial
  | cons b bs ih => exact Silent.bind (h b) fun _ => ih

theorem Silent.ask {op : Op α} (neutral : m.Neutral op) : m.Silent (ask op) :=
  ⟨neutral, fun _ => trivial⟩

/-- From `φ` the program makes allowed requests only, and its result and the state at its end are as
`P` says. -/
def Ensures (m : Monitor Op μ) (φ : μ) (p : Program Op α) (P : α → μ → Prop) : Prop :=
  m.Obeys p φ fun a? φ => ∀ a, a? = some a → P a φ

namespace Ensures

variable {φ : μ} {P : α → μ → Prop} {R : β → μ → Prop}

theorem pure {a : α} (h : P a φ) : m.Ensures φ (Pure.pure a) P := by
  rintro _ ⟨⟩
  exact h

theorem bind {p : Program Op α} {f : α → Program Op β} (h : m.Ensures φ p P)
    (rest : ∀ a φ, P a φ → m.Ensures φ (f a) R) : m.Ensures φ (p >>= f) R :=
  Obeys.bind (h.mono fun _ _ post => ⟨nofun, fun a ended => rest a _ (post a ended)⟩)

theorem mono {p : Program Op α} {P' : α → μ → Prop} (h : m.Ensures φ p P)
    (le : ∀ a φ, P a φ → P' a φ) : m.Ensures φ p P' :=
  Obeys.mono h fun _ _ post a ended => le a _ (post a ended)

theorem silent {p : Program Op α} (h : m.Silent p) (post : ∀ a, P a φ) : m.Ensures φ p P :=
  Obeys.silent h fun _ a _ => post a

theorem ask {op : Op α} (allowed : m.allows op φ)
    (post : ∀ a, m.sound op a → P a (m.after op a φ)) : m.Ensures φ (ask op) P := by
  refine ⟨nofun, allowed, fun a sound => ?_⟩
  rintro _ ⟨⟩
  exact post a sound

/-- A single request that may be given up while it is waited for. -/
theorem abandonIf {isOver : Program Op Bool} (asks : m.Silent isOver) {op : Op α}
    {P : Option α → μ → Prop} (allowed : m.allows op φ)
    (abandoned : m.Yields (· = false) isOver ∨ P none φ)
    (post : ∀ a, m.sound op a → P (some a) (m.after op a φ)) :
    m.Ensures φ (abandonIf isOver (Program.ask op)) P := by
  refine ⟨nofun, asks, ⟨nofun, ?_⟩, allowed, fun a sound => ⟨nofun, .inr ?_⟩⟩
  · refine abandoned.imp (fun never => ⟨rfl, never⟩) fun h => ?_
    rintro _ ⟨⟩
    exact h
  · rintro _ ⟨⟩
    exact post a sound

theorem all_silent {width : Nat} {tasks : List (Program Op α)} {P : List α → μ → Prop}
    (h : ∀ p ∈ tasks, m.Silent p) (post : ∀ bs, P bs φ) : m.Ensures φ (all width tasks) P :=
  silent ⟨fun _ => h _ (List.getElem_mem _), fun _ => trivial⟩ post

/-- Of the tasks of a group one may make requests that concern the monitor. -/
theorem all_one {width : Nat} {tasks : List (Program Op α)} {P : List α → μ → Prop} (owner : Nat)
    (lt : owner < tasks.length) (h : ∀ i (hi : i < tasks.length), i ≠ owner → m.Silent tasks[i])
    (own : m.Ensures φ tasks[owner] fun _ φ => ∀ bs, P bs φ) :
    m.Ensures φ (all width tasks) P := by
  refine ⟨nofun, .inr ⟨⟨owner, lt⟩, fun i ne => ?_, Obeys.mono own fun b? φ post => ⟨nofun, ?_⟩⟩⟩
  · exact h i.val i.isLt fun eq => ne (Fin.ext eq)
  · rintro ended bs _ ⟨⟩
    obtain ⟨b, rfl⟩ := Option.isSome_iff_exists.1 ended
    exact post b rfl bs

end Ensures

/-! ## Wider monitors -/

/-- What one monitor allows the other allows too and follows in the same way, and it expects no
more of the answers. -/
structure Widens (m m' : Monitor Op μ) : Prop where
  allows : ∀ {β : Type} (op : Op β) (φ : μ), m.allows op φ →
    m'.allows op φ ∧ ∀ b, m'.after op b φ = m.after op b φ
  sound : ∀ {β : Type} (op : Op β) (b : β), m'.sound op b → m.sound op b

section Wider

variable {m' : Monitor Op μ}

theorem Silent.widen (wider : m.Widens m') {p : Program Op α} (h : m.Silent p) : m'.Silent p := by
  induction p with
  | pure a => trivial
  | request op next ih =>
    refine ⟨fun φ => ?_, fun b => ih b (h.2 b)⟩
    obtain ⟨allowed, same⟩ := h.1 φ
    obtain ⟨allowed', same'⟩ := wider.allows op φ allowed
    exact ⟨allowed', fun b => (same' b).trans (same b)⟩
  | pause next ih => exact ih h
  | group width size task next ih_task ih_next =>
    exact ⟨fun i => ih_task i (h.1 i), fun bs => ih_next bs (h.2 bs)⟩
  | join first size task stops next ih_task ih_next =>
    exact ⟨fun i => ih_task i (h.1 i), fun bs => ih_next bs (h.2 bs)⟩
  | watch isOver task next ih_isOver ih_task ih_next =>
    exact ⟨ih_isOver h.1, ih_task h.2.1, fun b? => ih_next b? (h.2.2 b?)⟩

theorem Yields.widen (wider : m.Widens m') {p : Program Op α} {P : α → Prop}
    (h : m.Yields P p) : m'.Yields P p := by
  induction p with
  | pure a => exact h
  | request op next ih => exact fun b sound => ih b (h b (wider.sound op b sound))
  | pause next ih => exact ih h
  | group width size task next _ ih => exact fun bs => ih bs (h bs)
  | join first size task stops next _ ih => exact fun bs => ih bs (h bs)
  | watch isOver task next _ _ ih => exact fun b? => ih b? (h b?)

/-- A program that obeys a monitor obeys a wider one. -/
theorem Obeys.widen (wider : m.Widens m') {p : Program Op α} {φ : μ} {Q : Option α → μ → Prop}
    (h : m.Obeys p φ Q) : m'.Obeys p φ Q := by
  induction p generalizing φ with
  | pure a => exact h
  | request op next ih =>
    obtain ⟨none, allowed, h⟩ := h
    obtain ⟨allowed', same⟩ := wider.allows op φ allowed
    refine ⟨none, allowed', fun b sound => ?_⟩
    rw [same b]
    exact ih b (h b (wider.sound op b sound))
  | pause next ih => exact ⟨h.1, ih h.2⟩
  | group width size task next ih_task ih_next =>
    obtain ⟨none, ⟨silent, h⟩ | ⟨owner, silent, h⟩⟩ := h
    · exact ⟨none, .inl ⟨fun i => (silent i).widen wider, fun bs => ih_next bs (h bs)⟩⟩
    · refine ⟨none, .inr ⟨owner, fun i ne => (silent i ne).widen wider, ?_⟩⟩
      exact (ih_task owner h).mono fun b? φ post =>
        ⟨post.1, fun ended bs => ih_next bs (post.2 ended bs)⟩
  | join first size task stops next _ ih =>
    obtain ⟨none, silent, h⟩ := h
    exact ⟨none, fun i => (silent i).widen wider, fun bs => ih bs (h bs)⟩
  | watch isOver task next _ ih_task ih_next =>
    obtain ⟨none, silent, h⟩ := h
    refine ⟨none, silent.widen wider, (ih_task h).mono fun b? φ post => ⟨post.1, ?_⟩⟩
    exact post.2.imp (fun never => ⟨never.1, never.2.widen wider⟩) (ih_next b?)

theorem Ensures.widen (wider : m.Widens m') {p : Program Op α} {φ : μ} {P : α → μ → Prop}
    (h : m.Ensures φ p P) : m'.Ensures φ p P :=
  Obeys.widen wider h

end Wider

/-! ## Invariants -/

/-- `view` tells the state of the monitor from that of the world. Requests that are allowed keep
`inv` as long as the world stays `good`, and neutral requests leave it `good`. -/
structure Follows {σ : Type} (m : Monitor Op μ) (answer : {β : Type} → Op β → σ → β × σ)
    (view : σ → μ) (inv good : σ → Prop) : Prop where
  tracks : ∀ {β : Type} (op : Op β) (s : σ),
    view (answer op s).2 = m.after op (answer op s).1 (view s)
  neutral : ∀ {β : Type} (op : Op β) (s : σ), m.Neutral op → good s → good (answer op s).2
  allowed : ∀ {β : Type} (op : Op β) (s : σ), m.allows op (view s) → inv s → good s →
    good (answer op s).2 → inv (answer op s).2 ∧ m.sound op (answer op s).1

section Invariants

variable {σ : Type} {answer : {β : Type} → Op β → σ → β × σ} {view : σ → μ} {inv good : σ → Prop}

theorem Follows.of_neutral (follows : m.Follows answer view inv good) {op : Op β}
    (neutral : m.Neutral op) {s : σ} (h : inv s) (fine : good s) :
    inv (answer op s).2 ∧ good (answer op s).2 ∧ m.sound op (answer op s).1 := by
  have fine' := follows.neutral op s neutral fine
  obtain ⟨h, sound⟩ := follows.allowed op s (neutral (view s)).1 h fine fine'
  exact ⟨h, fine', sound⟩

theorem Follows.view_eq (follows : m.Follows answer view inv good) {op : Op β}
    (neutral : m.Neutral op) (s : σ) : view (answer op s).2 = view s :=
  (follows.tracks op s).trans ((neutral (view s)).2 _)

theorem settle_of_silent (follows : m.Follows answer view inv good) {p : Program Op α}
    (silent : m.Silent p) {s : σ} (h : inv s) (fine : good s) :
    (inv (p.settle answer s).2 ∧ good (p.settle answer s).2 ∧
      view (p.settle answer s).2 = view s) ∧
    ∀ P, m.Yields P p → P (p.settle answer s).1 := by
  induction p generalizing s with
  | pure a => exact ⟨⟨h, fine, rfl⟩, fun _ holds => holds⟩
  | request op next ih =>
    obtain ⟨h, fine, sound⟩ := follows.of_neutral silent.1 h fine
    obtain ⟨⟨h, fine, same⟩, holds⟩ := ih _ (silent.2 _) h fine
    exact ⟨⟨h, fine, same.trans (follows.view_eq silent.1 s)⟩,
      fun P yields => holds P (yields _ sound)⟩
  | pause next ih => exact ih silent h fine
  | group width size task next ih_task ih_next =>
    have all : ∀ (is : List (Fin size)) (s : σ), inv s → good s →
        inv (settleAll (fun i => (task i).settle answer) is s).2 ∧
        good (settleAll (fun i => (task i).settle answer) is s).2 ∧
          view (settleAll (fun i => (task i).settle answer) is s).2 = view s := by
      intro is
      induction is with
      | nil => exact fun s h fine => ⟨h, fine, rfl⟩
      | cons i is ih =>
        intro s h fine
        obtain ⟨⟨h, fine, same⟩, -⟩ := ih_task i (silent.1 i) h fine
        obtain ⟨h, fine, same'⟩ := ih _ h fine
        exact ⟨h, fine, same'.trans same⟩
    obtain ⟨h, fine, same⟩ := all (List.finRange size) s h fine
    obtain ⟨⟨h, fine, same'⟩, holds⟩ := ih_next _ (silent.2 _) h fine
    exact ⟨⟨h, fine, same'.trans same⟩, fun P yields => holds P (yields _)⟩
  | join first size task stops next ih_task ih_next =>
    have all : ∀ (is : List (Fin size)) (s : σ), inv s → good s →
        inv (settleJoin (fun i => (task i).settle answer) stops is s).2 ∧
        good (settleJoin (fun i => (task i).settle answer) stops is s).2 ∧
          view (settleJoin (fun i => (task i).settle answer) stops is s).2 = view s := by
      intro is
      induction is with
      | nil => exact fun s h fine => ⟨h, fine, rfl⟩
      | cons i is ih =>
        intro s h fine
        obtain ⟨⟨h, fine, same⟩, -⟩ := ih_task i (silent.1 i) h fine
        unfold settleJoin
        dsimp only
        split
        · exact ⟨h, fine, same⟩
        · obtain ⟨h, fine, same'⟩ := ih _ h fine
          exact ⟨h, fine, same'.trans same⟩
    obtain ⟨h, fine, same⟩ := all (List.finRange size) s h fine
    obtain ⟨⟨h, fine, same'⟩, holds⟩ := ih_next _ (silent.2 _) h fine
    exact ⟨⟨h, fine, same'.trans same⟩, fun P yields => holds P (yields _)⟩
  | watch isOver task next _ ih_task ih_next =>
    obtain ⟨⟨h, fine, same⟩, -⟩ := ih_task silent.2.1 h fine
    obtain ⟨⟨h, fine, same'⟩, holds⟩ := ih_next _ (silent.2.2 _) h fine
    exact ⟨⟨h, fine, same'.trans same⟩, fun P yields => holds P (yields _)⟩

/-- A silent program runs alike from states that are alike, where neutral requests are answered alike
and leave such states. -/
theorem settle_alike (alike : σ → σ → Prop) (kept : ∀ {β : Type} (op : Op β), m.Neutral op →
      ∀ s t, alike s t → (answer op t).1 = (answer op s).1 ∧ alike (answer op s).2 (answer op t).2)
    {p : Program Op α} (silent : m.Silent p) {s t : σ} (h : alike s t) :
    (p.settle answer t).1 = (p.settle answer s).1 ∧
      alike (p.settle answer s).2 (p.settle answer t).2 := by
  induction p generalizing s t with
  | pure a => exact ⟨rfl, h⟩
  | request op next ih =>
    obtain ⟨same, h⟩ := kept op silent.1 s t h
    simp only [settle, same]
    exact ih _ (silent.2 _) h
  | pause next ih => exact ih silent h
  | group width size task next ih_task ih_next =>
    have all (is : List (Fin size)) {s t : σ} (h : alike s t) :
        (settleAll (fun i => (task i).settle answer) is t).1 =
            (settleAll (fun i => (task i).settle answer) is s).1 ∧
          alike (settleAll (fun i => (task i).settle answer) is s).2
            (settleAll (fun i => (task i).settle answer) is t).2 := by
      induction is generalizing s t with
      | nil => exact ⟨rfl, h⟩
      | cons i is ih =>
        obtain ⟨same, h⟩ := ih_task i (silent.1 i) h
        obtain ⟨rest, h⟩ := ih h
        exact ⟨congrArg₂ List.cons same rest, h⟩
    obtain ⟨same, h⟩ := all (List.finRange size) h
    simp only [settle, same]
    exact ih_next _ (silent.2 _) h
  | join first size task stops next ih_task ih_next =>
    have all (is : List (Fin size)) {s t : σ} (h : alike s t) :
        (settleJoin (fun i => (task i).settle answer) stops is t).1 =
            (settleJoin (fun i => (task i).settle answer) stops is s).1 ∧
          alike (settleJoin (fun i => (task i).settle answer) stops is s).2
            (settleJoin (fun i => (task i).settle answer) stops is t).2 := by
      induction is generalizing s t with
      | nil => exact ⟨rfl, h⟩
      | cons i is ih =>
        obtain ⟨same, h⟩ := ih_task i (silent.1 i) h
        simp only [settleJoin, same]
        split
        · exact ⟨rfl, h⟩
        · obtain ⟨rest, h⟩ := ih h
          exact ⟨by rw [rest], h⟩
    obtain ⟨same, h⟩ := all (List.finRange size) h
    simp only [settle, same]
    exact ih_next _ (silent.2 _) h
  | watch isOver task next _ ih_task ih_next =>
    obtain ⟨same, h⟩ := ih_task silent.2.1 h
    simp only [settle, same]
    exact ih_next _ (silent.2.2 _) h

theorem silent_replace {size : Nat} {task : Fin size → Program Op α} {i : Fin size}
    {p : Program Op α} (silent : ∀ j, j ≠ i → m.Silent (task j)) (h : m.Silent p) (j : Fin size) :
    m.Silent (replace task i p j) := by
  unfold replace
  split
  · exact h
  · next ne => exact silent j ne

theorem move_of_silent (follows : m.Follows answer view inv good) {p : Program Op α}
    (silent : m.Silent p) {s : σ} (h : inv s) (fine : good s) (path : List Nat) :
    (inv (p.move answer path s).2 ∧ good (p.move answer path s).2 ∧
      view (p.move answer path s).2 = view s) ∧ m.Silent (p.move answer path s).1 := by
  induction p generalizing s path with
  | pure a => exact ⟨⟨h, fine, rfl⟩, trivial⟩
  | request op next ih =>
    obtain ⟨h, fine, -⟩ := follows.of_neutral silent.1 h fine
    exact ⟨⟨h, fine, follows.view_eq silent.1 s⟩, silent.2 _⟩
  | pause next ih => exact ⟨⟨h, fine, rfl⟩, silent⟩
  | group width size task next ih_task ih_next =>
    obtain ⟨silent, rest⟩ := silent
    rcases move_group width size task next path s with ⟨-, eq⟩ | ⟨i, b, -, eq⟩ | ⟨i, -, eq⟩
    · exact eq ▸ ⟨⟨h, fine, rfl⟩, rest []⟩
    · exact eq ▸ ⟨⟨h, fine, rfl⟩, fun j => silent _, fun bs => rest (b :: bs)⟩
    · obtain ⟨kept, moved⟩ := ih_task i (silent i) h fine path.tail
      exact eq ▸ ⟨kept, silent_replace (fun j _ => silent j) moved, rest⟩
  | join first size task stops next ih_task ih_next =>
    obtain ⟨silent, rest⟩ := silent
    rcases move_join first size task stops next path s with ⟨bs, -, eq⟩ | eq | ⟨i, -, eq⟩
    · exact eq ▸ ⟨⟨h, fine, rfl⟩, rest bs⟩
    · exact eq ▸ ⟨⟨h, fine, rfl⟩, silent, rest⟩
    · obtain ⟨kept, moved⟩ := ih_task i (silent i) h fine path.tail
      exact eq ▸ ⟨kept, silent_replace (fun j _ => silent j) moved, rest⟩
  | watch isOver task next _ ih_task ih_next =>
    obtain ⟨asks, silent, rest⟩ := silent
    rcases move_watch isOver task next path s with ⟨b, -, eq⟩ | ⟨-, eq⟩ | ⟨-, p, hp, eq⟩
    · exact eq ▸ ⟨⟨h, fine, rfl⟩, rest (some b)⟩
    · obtain ⟨kept, moved⟩ := ih_task silent h fine path.tail
      exact eq ▸ ⟨kept, asks, moved, rest⟩
    · obtain ⟨kept, -⟩ := settle_of_silent follows asks h fine
      refine eq ▸ ⟨kept, ?_⟩
      rcases hp with ⟨-, rfl⟩ | rfl
      · exact rest none
      · exact ⟨asks, silent, rest⟩

theorem reaches_of_silent (follows : m.Follows answer view inv good) {p q : Program Op α}
    (silent : m.Silent p) {s t : σ} (h : inv s) (fine : good s) (reached : Reaches answer p s q t) :
    inv t ∧ good t := by
  induction reached with
  | refl => exact ⟨h, fine⟩
  | more path _ _ ih =>
    obtain ⟨⟨h, fine, -⟩, silent⟩ := move_of_silent follows silent h fine path
    exact ih silent h fine

/-- A request that is allowed keeps an invariant, so a move of a program that obeys does, and what
is left of the program obeys. -/
theorem Obeys.move (follows : m.Follows answer view inv good) {p : Program Op α} {s : σ}
    {Q : Option α → μ → Prop} (obeys : m.Obeys p (view s) Q) (h : inv s) (fine : good s)
    {path : List Nat} (fine' : good (p.move answer path s).2) :
    inv (p.move answer path s).2 ∧
      m.Obeys (p.move answer path s).1 (view (p.move answer path s).2) Q := by
  induction p generalizing s path with
  | pure a => exact ⟨h, obeys⟩
  | request op next ih =>
    obtain ⟨-, allowed, rest⟩ := obeys
    obtain ⟨h, sound⟩ := follows.allowed op s allowed h fine fine'
    refine ⟨h, ?_⟩
    change m.Obeys (next _) (view (answer op s).2) Q
    exact follows.tracks op s ▸ rest _ sound
  | pause next ih => exact ⟨h, obeys.2⟩
  | group width size task next ih_task ih_next =>
    obtain ⟨given, ⟨silent, rest⟩ | ⟨owner, silent, own⟩⟩ := obeys
    · rcases move_group width size task next path s with ⟨-, eq⟩ | ⟨i, b, -, eq⟩ | ⟨i, -, eq⟩
      · exact eq ▸ ⟨h, rest []⟩
      · exact eq ▸ ⟨h, given, .inl ⟨fun j => silent _, fun bs => rest (b :: bs)⟩⟩
      · obtain ⟨⟨h, -, same⟩, moved⟩ := move_of_silent follows (silent i) h fine path.tail
        refine eq ▸ ⟨h, ?_⟩
        dsimp only
        rw [same]
        exact ⟨given, .inl ⟨silent_replace (fun j _ => silent j) moved, rest⟩⟩
    · rcases move_group width size task next path s with ⟨rfl, -⟩ | ⟨i, b, ended, eq⟩ | ⟨i, -, eq⟩
      · exact owner.elim0
      · -- a task hands in its result: from the owner on all are silent
        refine eq ▸ ⟨h, given, ?_⟩
        by_cases mine : owner = i
        · subst mine
          rw [ended] at own
          exact .inl ⟨fun j => silent _ (skip_ne owner j), fun bs => own.2 rfl (b :: bs)⟩
        · obtain ⟨owner, rfl⟩ := exists_skip mine
          refine .inr ⟨owner, fun j ne => silent _ (fun eq => ne (skip_injective eq)), own.mono ?_⟩
          exact fun b? φ post => ⟨post.1, fun ended bs => post.2 ended (b :: bs)⟩
      · rw [eq] at fine' ⊢
        by_cases mine : owner = i
        · subst mine
          obtain ⟨h, moved⟩ := ih_task owner own h fine fine'
          refine ⟨h, moved.given, .inr ⟨owner, fun j ne => ?_, ?_⟩⟩
          · rw [replace_of_ne task ne]
            exact silent j ne
          · rw [replace_self]
            exact moved
        · -- the monitor does not notice the others, so the owner stands where it stood
          obtain ⟨⟨h, -, same⟩, moved⟩ :=
            move_of_silent follows (silent i (Ne.symm mine)) h fine path.tail
          refine ⟨h, ?_⟩
          dsimp only
          rw [same]
          refine ⟨given, .inr ⟨owner, fun j ne => ?_, ?_⟩⟩
          · by_cases other : j = i
            · rw [other, replace_self]
              exact moved
            · rw [replace_of_ne task other]
              exact silent j ne
          · rw [replace_of_ne task mine]
            exact own
  | join first size task stops next ih_task ih_next =>
    obtain ⟨given, silent, rest⟩ := obeys
    rcases move_join first size task stops next path s with ⟨bs, -, eq⟩ | eq | ⟨i, -, eq⟩
    · exact eq ▸ ⟨h, rest bs⟩
    · exact eq ▸ ⟨h, given, silent, rest⟩
    · obtain ⟨⟨h, -, same⟩, moved⟩ := move_of_silent follows (silent i) h fine path.tail
      refine eq ▸ ⟨h, ?_⟩
      dsimp only
      rw [same]
      exact ⟨given, silent_replace (fun j _ => silent j) moved, rest⟩
  | watch isOver task next _ ih_task ih_next =>
    obtain ⟨given, asks, own⟩ := obeys
    rcases move_watch isOver task next path s with ⟨b, rfl, eq⟩ | ⟨-, eq⟩ | ⟨unfinished, p, hp, eq⟩
    · exact eq ▸ ⟨h, own.2.resolve_left nofun⟩
    · rw [eq] at fine' ⊢
      obtain ⟨h, moved⟩ := ih_task own h fine fine'
      exact ⟨h, moved.given, asks, moved⟩
    · obtain ⟨⟨h, -, same⟩, holds⟩ := settle_of_silent follows asks h fine
      refine eq ▸ ⟨h, ?_⟩
      dsimp only
      rw [same]
      rcases hp with ⟨isOver, rfl⟩ | rfl
      · -- the watch is over, which cannot be where it always answers that it is not
        refine (own.none unfinished).2.resolve_left ?_
        rintro ⟨-, never⟩
        exact Bool.false_ne_true ((holds _ never).symm.trans isOver)
      · exact ⟨given, asks, own⟩

end Invariants

end Monitor

end Metering

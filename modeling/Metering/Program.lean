/-!
# Programs over requests

A program asks for one thing at a time and goes on with the answer. `Op β` is the type of requests
that are answered by a `β`; what a request does is not part of the program, so one program runs
against stores in memory, against scripted answers, and under any interruption between two requests.

* `request` asks and goes on with the answer.
* `pause` lets the other tasks of a group go first.
* `group` runs tasks of which at most `width` are under way at a time, and goes on with their results
  in the order in which they come in.
* `join` runs tasks side by side and goes on with their results in the order of the tasks. A result
  that `stops` the others ends the join, and is then its only result. The task that goes first, number
  `first`, moves on by one with every turn.
* `watch` runs a task and goes on with its result. Whenever the task waits, it is given up if `isOver`
  says so; then there is no result.

Results: `Program` is a lawful monad; `settle_bind`, running in sequence is running the first part
and then the rest.
-/

namespace Metering

/-- A computation that makes requests `Op`. -/
inductive Program (Op : Type → Type 1) : Type → Type 1
  | pure {α : Type} (a : α) : Program Op α
  | request {α β : Type} (op : Op β) (next : β → Program Op α) : Program Op α
  | pause {α : Type} (next : Program Op α) : Program Op α
  | group {α β : Type} (width : Nat) (size : Nat) (task : Fin size → Program Op β)
      (next : List β → Program Op α) : Program Op α
  | join {α β : Type} (first : Nat) (size : Nat) (task : Fin size → Program Op β) (stops : β → Bool)
      (next : List β → Program Op α) : Program Op α
  | watch {α β : Type} (isOver : Program Op Bool) (task : Program Op β)
      (next : Option β → Program Op α) : Program Op α

namespace Program

variable {Op : Type → Type 1} {α β γ : Type}

/-- Goes on with `f` where `p` ends. -/
def bind (p : Program Op α) (f : α → Program Op β) : Program Op β :=
  match p with
  | .pure a => f a
  | .request op next => .request op fun b => (next b).bind f
  | .pause next => .pause (next.bind f)
  | .group width size task next => .group width size task fun bs => (next bs).bind f
  | .join first size task stops next => .join first size task stops fun bs => (next bs).bind f
  | .watch isOver task next => .watch isOver task fun b? => (next b?).bind f

instance : Monad (Program Op) where
  pure := .pure
  bind := .bind

theorem bind_pure (p : Program Op α) : p.bind .pure = p := by
  induction p with
  | pure a => rfl
  | request op next ih => simp only [bind, ih]
  | pause next ih => simp only [bind, ih]
  | group width size task next _ ih => simp only [bind, ih]
  | join first size task stops next _ ih => simp only [bind, ih]
  | watch isOver task next _ _ ih => simp only [bind, ih]

theorem bind_assoc (p : Program Op α) (f : α → Program Op β) (g : β → Program Op γ) :
    (p.bind f).bind g = p.bind fun a => (f a).bind g := by
  induction p with
  | pure a => rfl
  | request op next ih => simp only [bind, ih]
  | pause next ih => simp only [bind, ih]
  | group width size task next _ ih => simp only [bind, ih]
  | join first size task stops next _ ih => simp only [bind, ih]
  | watch isOver task next _ _ ih => simp only [bind, ih]

instance : LawfulMonad (Program Op) :=
  .mk' _ bind_pure (fun _ _ => rfl) bind_assoc

/-- Asks for one thing. -/
def ask (op : Op α) : Program Op α := .request op .pure

/-- Runs a list of tasks, at most `width` of them at a time. -/
def all (width : Nat) (tasks : List (Program Op α)) : Program Op (List α) :=
  let tasks := tasks.toArray
  .group width tasks.size (fun i => tasks[i]) .pure

/-- Runs a list of tasks side by side. -/
def together (tasks : List (Program Op α)) : Program Op (List α) :=
  let tasks := tasks.toArray
  .join 0 tasks.size (fun i => tasks[i]) (fun _ => false) .pure

/-- Runs a list of tasks side by side, up to the first failure. -/
def untilFailure {ε : Type} (tasks : List (Program Op (Except ε α))) :
    Program Op (Except ε (List α)) :=
  let tasks := tasks.toArray
  .join 0 tasks.size (fun i => tasks[i]) (fun result => result matches .error _) fun results =>
    .pure (results.mapM fun result => result)

/-- Runs a task, and gives it up when it waits although `isOver`. -/
def abandonIf (isOver : Program Op Bool) (task : Program Op α) : Program Op (Option α) :=
  .watch isOver task .pure

/-! ## Expansion -/

/-- Replaces each request by a program that finds its answer. -/
def expand {Op' : Type → Type 1} (f : {β : Type} → Op β → Program Op' β) :
    {α : Type} → Program Op α → Program Op' α
  | _, .pure a => .pure a
  | _, .request op next => (f op).bind fun b => (next b).expand f
  | _, .pause next => .pause (next.expand f)
  | _, .group width size task next =>
    .group width size (fun i => (task i).expand f) fun bs => (next bs).expand f
  | _, .join first size task stops next =>
    .join first size (fun i => (task i).expand f) stops fun bs => (next bs).expand f
  | _, .watch isOver task next =>
    .watch (isOver.expand f) (task.expand f) fun b? => (next b?).expand f

/-! ## Running in sequence -/

section Settle

variable {σ : Type} (answer : {β : Type} → Op β → σ → β × σ)

/-- Runs the tasks of a group one after another. -/
def settleAll {size : Nat} (run : Fin size → σ → β × σ) : List (Fin size) → σ → List β × σ
  | [], s => ([], s)
  | i :: rest, s =>
    let (b, s) := run i s
    let (bs, s) := settleAll run rest s
    (b :: bs, s)

/-- Runs the tasks of a join one after another, up to a result that stops them. -/
def settleJoin {size : Nat} (run : Fin size → σ → β × σ) (stops : β → Bool) :
    List (Fin size) → σ → Except β (List β) × σ
  | [], s => (.ok [], s)
  | i :: rest, s =>
    let (b, s) := run i s
    if stops b then (.error b, s)
    else
      let (result, s) := settleJoin run stops rest s
      (result.map (b :: ·), s)

/-- The results that a join goes on with. -/
def joined (result : Except β (List β)) : List β :=
  match result with
  | .ok bs => bs
  | .error b => [b]

/-- Runs a program to its end, as if nothing ever paused. -/
def settle : {α : Type} → Program Op α → σ → α × σ
  | _, .pure a, s => (a, s)
  | _, .request op next, s =>
    let (b, s) := answer op s
    (next b).settle s
  | _, .pause next, s => next.settle s
  | _, .group _ size task next, s =>
    let (bs, s) := settleAll (fun i => (task i).settle) (List.finRange size) s
    (next bs).settle s
  | _, .join _ size task stops next, s =>
    let (result, s) := settleJoin (fun i => (task i).settle) stops (List.finRange size) s
    (next (joined result)).settle s
  | _, .watch _ task next, s =>
    let (b, s) := task.settle s
    (next (some b)).settle s

theorem settle_bind (p : Program Op α) (f : α → Program Op β) (s : σ) :
    (p.bind f).settle answer s = (f (p.settle answer s).1).settle answer (p.settle answer s).2 := by
  induction p generalizing s with
  | pure a => rfl
  | request op next ih => simp only [bind, settle, ih]
  | pause next ih => simp only [bind, settle, ih]
  | group width size task next _ ih => simp only [bind, settle, ih]
  | join first size task stops next _ ih => simp only [bind, settle, ih]
  | watch isOver task next _ _ ih => simp only [bind, settle, ih]

end Settle

/-! ## Taking turns -/

/-- How far a program got in one turn. -/
inductive Turn (Op : Type → Type 1) (α : Type) : Type 1
  | finished (a : α)
  | waiting (rest : Program Op α)

/-- The program that is left after a turn. -/
def Turn.rest : Turn Op α → Program Op α
  | .finished a => .pure a
  | .waiting rest => rest

/-- The result, if the program has come to its end. -/
def Turn.result? : Turn Op α → Option α
  | .finished a => some a
  | .waiting _ => none

section Turns

variable {σ : Type} (answer : {β : Type} → Op β → σ → β × σ)

/-- Gives one turn to tasks in their order while at most `free` of them wait; tells the results and
the tasks that are left. -/
def turnAll {size : Nat} (turn : Fin size → σ → Turn Op β × σ) (task : Fin size → Program Op β) :
    Nat → List (Fin size) → σ → (List β × List (Program Op β)) × σ
  | _, [], s => (([], []), s)
  | 0, rest, s => (([], rest.map task), s)
  | free + 1, i :: rest, s =>
    match turn i s with
    | (.finished b, s) =>
      let ((bs, ps), s) := turnAll turn task (free + 1) rest s
      ((b :: bs, ps), s)
    | (.waiting p, s) =>
      let ((bs, ps), s) := turnAll turn task free rest s
      ((bs, p :: ps), s)

/-- Gives one turn to each task of a join, up to a result that stops them. -/
def turnJoin {size : Nat} (turn : Fin size → σ → Turn Op β × σ) (stops : β → Bool) :
    List (Fin size) → σ → Except β (List (Turn Op β)) × σ
  | [], s => (.ok [], s)
  | i :: rest, s =>
    let (t, s) := turn i s
    match t.result?.filter stops with
    | some b => (.error b, s)
    | none =>
      let (result, s) := turnJoin turn stops rest s
      (result.map (t :: ·), s)

/-- Runs a program up to its next pause. -/
def turn : {α : Type} → Program Op α → σ → Turn Op α × σ
  | _, .pure a, s => (.finished a, s)
  | _, .request op next, s =>
    let (b, s) := answer op s
    (next b).turn s
  | _, .pause next, s => (.waiting next, s)
  | _, .group width size task next, s =>
    match turnAll (fun i => (task i).turn) task (max width 1) (List.finRange size) s with
    | ((bs, []), s) => (next bs).turn s
    | ((bs, rest@(_ :: _)), s) =>
      let rest := rest.toArray
      (.waiting (.group width rest.size (fun i => rest[i]) fun more => next (bs ++ more)), s)
  | _, .join first size task stops next, s =>
    let order := (List.finRange size).rotateLeft first
    match turnJoin (fun i => (task i).turn) stops order s with
    | (.error b, s) => (next [b]).turn s
    | (.ok turns, s) =>
      let turns := turns.rotateRight first
      match turns.mapM Turn.result? with
      | some bs => (next bs).turn s
      | none =>
        let rest := (turns.map Turn.rest).toArray
        (.waiting (.join ((first + 1) % size) rest.size (fun i => rest[i]) stops next), s)
  | _, .watch isOver task next, s =>
    match task.turn s with
    | (.finished b, s) => (next (some b)).turn s
    | (.waiting rest, s) =>
      match isOver.settle answer s with
      | (true, s) => (next none).turn s
      | (false, s) => (.waiting (.watch isOver rest next), s)

/-- Runs a program for a number of turns, and then in sequence. -/
def run : Nat → Program Op α → σ → α × σ
  | 0, p, s => p.settle answer s
  | turns + 1, p, s =>
    match p.turn answer s with
    | (.finished a, s) => (a, s)
    | (.waiting rest, s) => run turns rest s

end Turns

end Program

end Metering

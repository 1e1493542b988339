import Metering.Proofs.Program.Moves
import Metering.Proofs.Side.Record

/-!
# Evaluators that race

An evaluation reads the level of the last alert and swaps it for a higher one, in two requests. A
race is a world with any number of evaluations under way. What happens next is that one more begins,
that one of them makes its next request, that the level of a subscription is forgotten, or that
others do something; nothing else decides the order.

Results: `move_evaluate`, `move_swapping`: the two moves of an evaluation.
-/

namespace Metering.Alert

/-- An evaluation that is under way, with what is left of it. -/
structure Caller where
  subscription : Id
  status : Quota.Status
  rest : Procedure (Except Error (Option Notice))

/-- Something to be remembered of a race. -/
inductive Event
  | returned (subscription : Id) (status : Quota.Status) (result : Except Error (Option Notice))
  | reset (subscription : Id)

/-- Evaluations that are under way in a world, and what has happened, oldest first. -/
structure Race where
  world : World
  callers : List Caller := []
  log : List Event := []

/-- What happens next in a race. -/
inductive Choice
  | evaluate (subscription : Id) (status : Quota.Status)
  /-- The evaluation with this number makes its next request. -/
  | move (number : Nat)
  | reset (subscription : Id)
  /-- Others do something, and time passes. -/
  | others (world : World)

namespace Race

variable (c : Settings)

/-- The race after a request of an evaluation; one that has ended returns. -/
def after (r : Race) (number : Nat) (caller : Caller) (world : World) : Race :=
  match caller.rest.result? with
  | some result =>
    ⟨world, r.callers.eraseIdx number,
      r.log ++ [.returned caller.subscription caller.status result]⟩
  | none => ⟨world, r.callers.set number caller, r.log⟩

/-- The race after an evaluation has made its next request. -/
def move (r : Race) (number : Nat) : Race :=
  match r.callers[number]? with
  | none => r
  | some caller =>
    let (rest, world) := caller.rest.move World.answer [] r.world
    r.after number { caller with rest } world

theorem move_eq {r : Race} {number : Nat} {caller : Caller}
    (found : r.callers[number]? = some caller)
    {rest : Procedure (Except Error (Option Notice))} {world : World}
    (moved : caller.rest.move World.answer [] r.world = (rest, world)) :
    r.move number = r.after number { caller with rest } world := by
  unfold move
  rw [found]
  dsimp only
  rw [moved]

/-- The race after a choice. -/
def step (r : Race) : Choice → Race
  | .evaluate subscription status =>
    { r with callers := r.callers ++
      [⟨subscription, status, (evaluate c subscription status).run⟩] }
  | .move number => r.move number
  | .reset subscription =>
    { r with
      world := ((reset c subscription).run.settle World.answer r.world).2
      log := r.log ++ [.reset subscription] }
  | .others world => { r with world }

/-- The race after a schedule. -/
def play (r : Race) (schedule : List Choice) : Race := schedule.foldl (step c) r

/-- The choice leaves the record of a key to the evaluations, and the record has not expired. -/
def Fits (key : String) (r : Race) : Choice → Prop
  | .others world => r.world.Spares key world
  | _ => r.world.Spares key r.world

/-- Every choice of a schedule fits. -/
def FitsAll (key : String) (r : Race) : List Choice → Prop
  | [] => True
  | choice :: schedule => r.Fits key choice ∧ FitsAll key (r.step c choice) schedule

end Race

/-! ## Parts of an evaluation -/

section Parts

variable (c : Settings) (s : Id) (status : Quota.Status)

/-- The level that a record holds. -/
def storedLevel (fields : Side.Fields) : Except Error (Option Level) :=
  match fields[levelField]? with
  | none => .ok none
  | some text => (parseLevel text).map some

/-- The last request of an evaluation, and what it returns. -/
def swapping (limit : Count) (level : Level) (previous : Option Level) :
    Procedure (Except Error (Option Notice)) :=
  ((do
    let swapped ← Task.side (.swap (c.key s) levelField (previous.map fieldText)
      (fieldText level) c.lifespan)
    return if swapped then some ⟨s, level, previous, status.used, limit⟩ else none) :
    Task (Option Notice)).run

/-- An evaluation is called for: there is an allowance, and usage has reached a threshold. -/
structure Due (limit : Count) (level : Level) : Prop where
  limit : status.limit = some limit
  level : ∃ percent, status.percent = some percent ∧ c.levelFor percent = some level

/-- What can be left of an evaluation that has not ended. -/
inductive Stands (rest : Procedure (Except Error (Option Notice))) : Prop
  | begins (all : rest = (evaluate c s status).run)
  | swaps {limit : Count} {level : Level} {previous : Option Level} (due : Due c status limit level)
      (above : previous.any (level ≤ ·) = false)
      (last : rest = swapping c s status limit level previous)

variable {c s status}

theorem Due.mem_thresholds {limit : Count} {level : Level} (due : Due c status limit level) :
    level ∈ c.thresholds ∧ ∃ percent, status.percent = some percent ∧ level.toNat ≤ percent := by
  obtain ⟨percent, used, found⟩ := due.level
  unfold Settings.levelFor at found
  have fits : decide (level.toNat ≤ percent) = true :=
    List.find?_some (p := fun level : Level => decide (level.toNat ≤ percent)) found
  exact ⟨List.mem_reverse.1 (List.mem_of_find?_eq_some found), percent, used,
    of_decide_eq_true fits⟩

/-- A task moves by its next request to the side store, and fails if that does. -/
theorem move_side {α β : Type} (request : Side.Request α) (f : α → Task β) (w : World) :
    (Task.side request >>= f).run.move World.answer [] w =
      (match (Side.Store.answer w.side w.now request).1 with
        | .ok a => (f a).run
        | .error e => .pure (.error e),
        { w with side := (Side.Store.answer w.side w.now request).2 }) := by
  refine Prod.ext ?_ rfl
  change ExceptT.bindCont f (Side.Store.answer w.side w.now request).1 = _
  cases (Side.Store.answer w.side w.now request).1 <;> rfl

variable (c s status) in
/-- An evaluation ends without a request where it is not called for, and reads the level
otherwise. -/
theorem move_evaluate (w : World) :
    (evaluate c s status).run.move World.answer [] w = (.pure (.ok none), w) ∨
    ∃ limit level, Due c status limit level ∧
      (evaluate c s status).run.move World.answer [] w =
        (match storedLevel (w.side.fields w.now (c.key s)) with
          | .ok previous =>
            if previous.any (level ≤ ·) then .pure (.ok none)
            else swapping c s status limit level previous
          | .error e => .pure (.error e), w) := by
  unfold evaluate
  cases allowance : status.limit with
  | none => exact .inl rfl
  | some limit =>
    cases used : status.percent with
    | none => exact .inl rfl
    | some percent =>
      cases reached : c.levelFor percent with
      | none =>
        simp only [reached]
        exact .inl rfl
      | some level =>
        refine .inr ⟨limit, level, ⟨allowance, percent, used, reached⟩, ?_⟩
        simp only [reached, current, bind_assoc]
        rw [move_side]
        refine Prod.ext ?_ rfl
        unfold storedLevel
        dsimp only [Side.Store.answer]
        cases (w.side.fields w.now (c.key s))[levelField]? with
        | none => rfl
        | some text =>
          dsimp only
          cases parseLevel text with
          | error e => rfl
          | ok stored =>
            change ExceptT.run (if Option.any (level ≤ ·) (some stored) then _ else _) =
              if _ then _ else _
            split <;> rfl

/-- A swap wins where the record still holds what was read. -/
theorem move_swapping (limit : Count) (level : Level) (previous : Option Level) (w : World) :
    (swapping c s status limit level previous).move World.answer [] w =
      (.pure (.ok (if (w.side.fields w.now (c.key s))[levelField]? = previous.map fieldText then
          some ⟨s, level, previous, status.used, limit⟩ else none)),
        (World.answer (.side (.swap (c.key s) levelField (previous.map fieldText) (fieldText level)
          c.lifespan)) w).2) := by
  unfold swapping
  rw [move_side]
  refine Prod.ext ?_ rfl
  unfold Side.Store.answer Side.Store.swap
  dsimp only
  split
  · rfl
  · rfl

end Parts

end Metering.Alert

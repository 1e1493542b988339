import Mathlib.Logic.Function.Basic
import Metering.Proofs.Program.Always
import Metering.Proofs.Side.Texts
import Metering.Request

/-!
# One record of the side store

A program that works on one record shares the side store with others. As long as they spare the
record and it does not expire, the program finds what it left, whatever the others do to the rest of
the world. A record of numbers holds the decimal text of a number in each of its fields; the calls
of a quota keep it one.

Results: `always_increment`, `always_setIfAbsent`, `always_fields`, `always_delete`: what a call
makes of the record; `always_elsewhere`: calls that are about something else leave it alone.
-/

namespace Metering

namespace World

/-- The fields of a record, were it not to expire. -/
def recorded (w : World) (key : String) : Side.Fields :=
  (w.side[key]?.map Side.Entry.fields).getD ∅

/-- The record of a key is spared: it is what it was, and has not expired. -/
structure Spares (key : String) (w w' : World) : Prop where
  same : w'.side[key]? = w.side[key]?
  alive : ∀ entry ∈ w.side[key]?, w'.now < entry.expiry

theorem Spares.recorded {key : String} {w w' : World} (h : w.Spares key w') :
    w'.recorded key = w.recorded key := by
  rw [World.recorded, h.same, World.recorded]

/-- What a call reads is what the record holds. -/
theorem Spares.fields {key : String} {w w' : World} (h : w.Spares key w') :
    Side.Store.fields w'.side w'.now key = w.recorded key := by
  have alive := h.alive
  unfold Side.Store.fields Side.Store.live? World.recorded
  rw [h.same]
  cases found : w.side[key]? with
  | none => rfl
  | some entry =>
    simp [Option.filter_some, alive entry found]

theorem recorded_write (w : World) (key : String) (lifespan : Int) (fields : Side.Fields) :
    ({ w with side := w.side.write w.now key lifespan fields } : World).recorded key = fields := by
  unfold recorded Side.Store.write
  simp

end World

namespace Side

/-- The key that a request is about. -/
def Request.key {α : Type} : Request α → String
  | increment key _ _ _ | setIfAbsent key _ _ _ | swap key _ _ _ _ | fields key | delete key => key

/-- A request leaves the records of other keys alone. -/
theorem getElem?_answer {α : Type} {request : Request α} {key : String}
    (other : request.key ≠ key) (s : Store) (now : Instant) :
    (s.answer now request).2[key]? = s[key]? := by
  have write : ∀ (lifespan : Int) (fields : Fields),
      (s.write now request.key lifespan fields)[key]? = s[key]? := by
    intro lifespan fields
    unfold Store.write
    rw [Std.ExtTreeMap.getElem?_insert, if_neg (by simpa using other)]
  cases request with
  | increment key' field delta lifespan =>
    unfold Store.answer Store.increment
    dsimp only
    split <;> exact write _ _
  | setIfAbsent key' field value lifespan =>
    unfold Store.answer Store.setIfAbsent
    dsimp only
    split <;> exact write _ _
  | swap key' field expected value lifespan =>
    unfold Store.answer Store.swap
    dsimp only
    split <;> exact write _ _
  | fields key' => rfl
  | delete key' =>
    unfold Store.answer Store.delete
    dsimp only
    rw [Std.ExtTreeMap.getElem?_erase, if_neg (by simpa [Request.key] using other)]

/-- The numbers that the fields of a record hold, by name. -/
abbrev Numbers := String → Option Nat

namespace Numbers

/-- Changes one field. -/
def change (numbers : Numbers) (field : String) (f : Option Nat → Option Nat) : Numbers :=
  Function.update numbers field (f (numbers field))

variable (numbers : Numbers) (f : Option Nat → Option Nat)

theorem change_self (field : String) : numbers.change field f field = f (numbers field) :=
  Function.update_self ..

theorem change_of_ne {field name : String} (ne : name ≠ field) :
    numbers.change field f name = numbers name :=
  Function.update_of_ne ne ..

theorem change_eq_self {field : String} (same : f (numbers field) = numbers field) :
    numbers.change field f = numbers := by
  rw [change, same, Function.update_eq_self]

end Numbers

/-- A record holds some numbers in decimal, and nothing else. -/
structure Holds (fields : Fields) (numbers : Numbers) : Prop where
  text : ∀ name, fields[name]? = (numbers name).map Nat.repr
  fits : ∀ name, ∀ n ∈ numbers name, n ≤ Quota.maxField

namespace Holds

variable {fields : Fields} {numbers : Numbers}

theorem empty : Holds ∅ fun _ => none where
  text _ := by simp
  fits _ _ absurd := by cases absurd

theorem update (h : Holds fields numbers) (field : String) {n : Nat} (fits : n ≤ Quota.maxField) :
    Holds (fields.insert field (Nat.repr n)) (Function.update numbers field (some n)) where
  text name := by
    rw [Std.ExtTreeMap.getElem?_insert]
    by_cases same : field = name
    · subst same
      simp
    · rw [if_neg (by simpa using same), Function.update_of_ne (Ne.symm same), h.text]
  fits name m member := by
    by_cases same : name = field
    · subst same
      rw [Function.update_self] at member
      cases member
      exact fits
    · rw [Function.update_of_ne same] at member
      exact h.fits name m member

/-- A field is read as its number, a missing one as zero. -/
theorem int64? (h : Holds fields numbers) (field : String) :
    (fields[field]?).elim (some 0) Decimal.int64? = some ((numbers field).getD 0 : Int) := by
  rw [h.text]
  cases value : numbers field with
  | none => rfl
  | some n => exact Decimal.int64?_repr (h.fits field n value)

theorem readField (h : Holds fields numbers) (name : String) :
    Quota.readField fields name = .ok ((numbers name).map Count.ofNat) := by
  unfold Quota.readField
  rw [h.text]
  cases value : numbers name with
  | none => rfl
  | some n =>
    simp only [Option.map_some]
    rw [Decimal.int64?_repr (h.fits name n value)]
    rfl

theorem statusOf (h : Holds fields numbers) : Quota.statusOf fields =
    .ok ⟨(numbers Quota.limitField).map .ofNat,
      .ofNats ((numbers Quota.uploadField).getD 0) ((numbers Quota.downloadField).getD 0)⟩ := by
  have default (n? : Option Nat) : (n?.map Count.ofNat).getD 0 = Count.ofNat (n?.getD 0) := by
    cases n? <;> rfl
  unfold Quota.statusOf
  rw [h.readField, h.readField, h.readField]
  simp only [bind, Except.bind, Pure.pure, Except.pure, default, Traffic.ofNats]

end Holds

end Side

/-! ## Calls -/

/-- The request is about something else than a record. -/
def Request.IsElsewhere (key : String) {β : Type} : Request β → Prop
  | .side r => r.key ≠ key
  | _ => True

section Calls

variable {key : String} {w : World} {numbers : Side.Numbers}

theorem recorded_answer {β : Type} (request : Request β) (elsewhere : request.IsElsewhere key)
    (w : World) : (w.answer request).2.recorded key = w.recorded key := by
  cases request with
  | side r =>
    unfold World.recorded World.answer
    dsimp only
    rw [Side.getElem?_answer elsewhere]
  | _ => rfl

/-- A call about something else finds the record and leaves it as it was. -/
theorem always_elsewhere {β : Type} (request : Request β) (elsewhere : request.IsElsewhere key)
    {Q : β → World → Prop}
    (post : ∀ t t' : World, t'.recorded key = w.recorded key → Q (t.answer request).1 t') :
    Program.Always World.answer (World.Spares key) (.ask request) w Q :=
  Program.Always.ask fun t spared =>
    post t _ ((recorded_answer request elsewhere t).trans spared.recorded)

/-- A swap that finds what it expects writes the field; no other does. -/
theorem recorded_swap (spared : w.Spares key w) (field : String) (expected : Option String)
    (value : String) (lifespan : Int) :
    (World.answer (.side (.swap key field expected value lifespan)) w).2.recorded key =
      if (w.recorded key)[field]? = expected then (w.recorded key).insert field value
      else w.recorded key := by
  unfold World.answer Side.Store.answer Side.Store.swap
  simp only [spared.fields]
  split
  · exact World.recorded_write ..
  · exact World.recorded_write ..

theorem recorded_delete (w : World) :
    (World.answer (.side (.delete key)) w).2.recorded key = ∅ := by
  unfold World.recorded World.answer Side.Store.answer Side.Store.delete
  simp

/-- The hot tier answers without touching the record. -/
theorem always_hot {α : Type} (request : Hot.Request α) {Q : Except Error α → World → Prop}
    (post : ∀ a (t : World), t.recorded key = w.recorded key → Q (.ok a) t) :
    Program.Always World.answer (World.Spares key) (Procedure.hot request) w Q :=
  always_elsewhere (.hot request) trivial fun t t' same =>
    post (t.hot.answer t.now request).1 t' same

theorem always_increment (holds : Side.Holds (w.recorded key) numbers) (field : String) (n : Nat)
    (lifespan : Int) :
    Program.Always World.answer (World.Spares key)
      (Task.side (.increment key field n lifespan)).run w fun result t =>
        (∃ sum, result = .ok sum) ∧ Side.Holds (t.recorded key)
          (numbers.change field fun old => some (min Quota.maxField (old.getD 0 + n))) := by
  refine Program.Always.ask fun t spared => ?_
  have sum : max (-0x8000000000000000) (min 0x7fffffffffffffff
      (((numbers field).getD 0 : Int) + (n : Int))) =
      ((min Quota.maxField ((numbers field).getD 0 + n) : Nat) : Int) := by
    unfold Quota.maxField
    omega
  have answer : t.side.increment t.now key field n lifespan =
      (.ok ((min Quota.maxField ((numbers field).getD 0 + n) : Nat) : Int),
        t.side.write t.now key lifespan ((w.recorded key).insert field
          (Nat.repr (min Quota.maxField ((numbers field).getD 0 + n))))) := by
    unfold Side.Store.increment
    simp only [spared.fields, holds.int64?, sum]
    rfl
  unfold World.answer Side.Store.answer
  simp only [answer]
  refine ⟨⟨_, rfl⟩, ?_⟩
  rw [World.recorded_write]
  exact holds.update field (Nat.min_le_left _ _)

theorem always_setIfAbsent (holds : Side.Holds (w.recorded key) numbers) (field : String) {n : Nat}
    (fits : n ≤ Quota.maxField) (lifespan : Int) :
    Program.Always World.answer (World.Spares key)
      (Task.side (.setIfAbsent key field (Nat.repr n) lifespan)).run w fun result t =>
        result = .ok (numbers field).isNone ∧
          Side.Holds (t.recorded key) (numbers.change field fun old => some (old.getD n)) := by
  refine Program.Always.ask fun t spared => ?_
  unfold World.answer Side.Store.answer Side.Store.setIfAbsent
  simp only [spared.fields, holds.text, Option.isSome_map]
  cases present : numbers field with
  | none =>
    refine ⟨rfl, ?_⟩
    simp only [Option.isSome_none, Bool.false_eq_true, if_false]
    rw [World.recorded_write, Side.Numbers.change, present]
    exact holds.update field fits
  | some m =>
    refine ⟨rfl, ?_⟩
    simp only [Option.isSome_some, if_true]
    rw [World.recorded_write, Side.Numbers.change_eq_self _ _ (by rw [present]; rfl)]
    exact holds

theorem always_fields {Q : Except Error Side.Fields → World → Prop}
    (post : ∀ t, t.recorded key = w.recorded key → Q (.ok (w.recorded key)) t) :
    Program.Always World.answer (World.Spares key) (Task.side (.fields key)).run w Q := by
  refine Program.Always.ask fun t spared => ?_
  have read : (World.answer (.side (.fields key)) t).1 = .ok (w.recorded key) :=
    congrArg Except.ok spared.fields
  rw [read]
  exact post _ spared.recorded

theorem always_delete {Q : Except Error Bool → World → Prop}
    (post : ∀ existed t, t.recorded key = ∅ → Q (.ok existed) t) :
    Program.Always World.answer (World.Spares key) (Task.side (.delete key)).run w Q := by
  exact Program.Always.ask fun t _ => post _ _ (recorded_delete t)

/-- The program leaves a record as it is, whatever others do, as long as they spare it. -/
def Leaves (key : String) {α : Type} (p : Procedure α) : Prop :=
  ∀ w, Program.Always World.answer (World.Spares key) p w fun _ t =>
    t.recorded key = w.recorded key

namespace Leaves

variable {α β : Type}

theorem pure (a : α) : Leaves key (Pure.pure a) := fun _ => rfl

theorem ask {request : Request α} (elsewhere : request.IsElsewhere key) :
    Leaves key (.ask request) :=
  fun _ => always_elsewhere request elsewhere fun _ _ same => same

theorem bind {p : Procedure α} {f : α → Procedure β} (h : Leaves key p)
    (rest : ∀ a, Leaves key (f a)) : Leaves key (p >>= f) := by
  intro w
  refine Program.Always.bind ((h w).mono fun a t same => ?_)
  exact (rest a t).mono fun _ _ same' => same'.trans same

/-- A task leaves the record alone too where it fails. -/
theorem task_bind {x : Task α} {f : α → Task β} (h : Leaves key x.run)
    (rest : ∀ a, Leaves key (f a).run) : Leaves key (x >>= f).run := by
  refine bind h fun result => ?_
  cases result with
  | ok a => exact rest a
  | error e => exact pure _

end Leaves

end Calls

end Metering

import Metering.Proofs.Side.Record

/-!
# What a removal tells

A removal tells whether a record was live. A record that is read as having fields is always live.
The converse fails in one case: a swap that expects a value and finds no field leaves a record
without fields, which is read like none, and which a removal tells for one life span. Every other
request that writes leaves fields behind.

Results:
1. `Store.getElem?_after_eq_empty_iff`: the records without fields, told from the calls.
2. `Store.delete_tells_fields`: a removal tells the same as a read, unless such a record is live.
3. `Store.delete_tells_failed_swap`: a failed swap, and a removal that tells it.
-/

namespace Metering.Side

/-- A request, and the instant at which it is answered. -/
structure Call where
  now : Instant
  {answer : Type}
  request : Request answer

namespace Store

/-- The store after a sequence of calls, the last one first. -/
def after (s : Store) : List Call → Store
  | [] => s
  | call :: earlier => ((s.after earlier).answer call.now call.request).2

/-- Expiry of a record that was left without fields: the last call that did more than read it was a
swap that expected a value, and found no field. -/
def emptyUntil? (key : String) : List Call → Option Instant
  | [] => none
  | ⟨now, request⟩ :: earlier =>
    if request.key ≠ key then emptyUntil? key earlier
    else match request with
      | .fields _ => emptyUntil? key earlier
      | .increment _ _ _ _ | .setIfAbsent _ _ _ _ | .delete _ => none
      | .swap _ _ expected _ lifespan =>
        if ((∅ : Store).after earlier).fields now key = ∅ ∧ expected.isSome = true then
          some (now.addNanos (boundedSpan lifespan 0))
        else none

variable {key : String} {now : Instant}

/-! ## One call -/

theorem ne_empty_of_getElem? {fields : Fields} {field value : String}
    (found : fields[field]? = some value) : fields ≠ ∅ := by
  rintro rfl
  rw [Std.ExtTreeMap.getElem?_empty] at found
  cases found

/-- An increment leaves fields: its own, or the one that it could not read. -/
theorem increment_eq_write (s : Store) (now : Instant) (key field : String)
    (delta lifespan : Int) : ∃ fields ≠ ∅,
      (s.increment now key field delta lifespan).2 = s.write now key lifespan fields := by
  unfold increment
  dsimp only
  split
  · next unread =>
    cases found : (s.fields now key)[field]? with
    | none => simp [found] at unread
    | some value => exact ⟨_, ne_empty_of_getElem? found, rfl⟩
  · exact ⟨_, Std.ExtTreeMap.insert_ne_empty, rfl⟩

theorem setIfAbsent_eq_write (s : Store) (now : Instant) (key field value : String)
    (lifespan : Int) : ∃ fields ≠ ∅,
      (s.setIfAbsent now key field value lifespan).2 = s.write now key lifespan fields := by
  unfold setIfAbsent
  dsimp only
  split
  · next present =>
    obtain ⟨value, found⟩ := Option.isSome_iff_exists.1 present
    exact ⟨_, ne_empty_of_getElem? found, rfl⟩
  · exact ⟨_, Std.ExtTreeMap.insert_ne_empty, rfl⟩

/-- A swap leaves no fields where there were none and it expected a value. -/
theorem swap_eq_write (s : Store) (now : Instant) (key field : String) (expected : Option String)
    (value : String) (lifespan : Int) : ∃ fields,
      (s.swap now key field expected value lifespan).2 = s.write now key lifespan fields ∧
      (fields = ∅ ↔ s.fields now key = ∅ ∧ expected.isSome = true) := by
  unfold swap
  dsimp only
  split
  · next found =>
    refine ⟨_, rfl, iff_of_false Std.ExtTreeMap.insert_ne_empty ?_⟩
    rintro ⟨empty, expects⟩
    rw [empty, Std.ExtTreeMap.getElem?_empty] at found
    subst found
    cases expects
  · next differs =>
    refine ⟨_, rfl, fun empty => ⟨empty, ?_⟩, And.left⟩
    rw [empty, Std.ExtTreeMap.getElem?_empty] at differs
    exact Option.isSome_iff_ne_none.2 (Ne.symm differs)

theorem getElem?_write_eq_empty_iff {s : Store} {lifespan : Int} {fields : Fields}
    {expiry : Instant} : (s.write now key lifespan fields)[key]? = some ⟨∅, expiry⟩ ↔
      fields = ∅ ∧ now.addNanos (boundedSpan lifespan 0) = expiry := by
  unfold write
  simp

theorem getElem?_ne_empty {s s' : Store} {lifespan : Int} {expiry : Instant}
    (step : ∃ fields ≠ ∅, s' = s.write now key lifespan fields) : s'[key]? ≠ some ⟨∅, expiry⟩ := by
  obtain ⟨fields, filled, rfl⟩ := step
  exact fun found => filled (getElem?_write_eq_empty_iff.1 found).1

/-! ## Runs -/

/-- The records without fields are those that a failed swap left. -/
theorem getElem?_after_eq_empty_iff {calls : List Call} {expiry : Instant} :
    ((∅ : Store).after calls)[key]? = some ⟨∅, expiry⟩ ↔ emptyUntil? key calls = some expiry := by
  induction calls with
  | nil => simp [after, emptyUntil?]
  | cons call earlier ih =>
    obtain ⟨now, request⟩ := call
    by_cases other : request.key ≠ key
    · unfold emptyUntil?
      rw [if_pos other, after, getElem?_answer other]
      exact ih
    · unfold emptyUntil?
      rw [if_neg other, after]
      have same : request.key = key := not_not.1 other
      -- whatever stood there before, a write replaces it and a removal drops it
      cases request with
      | fields read => exact ih
      | delete removed =>
        obtain rfl : removed = key := same
        simp [answer, delete]
      | increment written field delta lifespan =>
        obtain rfl : written = key := same
        exact iff_of_false
          (getElem?_ne_empty (increment_eq_write _ now written field delta lifespan)) nofun
      | setIfAbsent written field value lifespan =>
        obtain rfl : written = key := same
        exact iff_of_false
          (getElem?_ne_empty (setIfAbsent_eq_write _ now written field value lifespan)) nofun
      | swap written field expected value lifespan =>
        obtain rfl : written = key := same
        obtain ⟨fields, step, emptied⟩ :=
          swap_eq_write ((∅ : Store).after earlier) now written field expected value lifespan
        have found := congrArg (·[written]?) step
        dsimp only [answer] at found ⊢
        rw [found, getElem?_write_eq_empty_iff, emptied]
        simp

/-! ## Removal -/

theorem live?_eq_empty_iff {s : Store} :
    s.live? now key = some ∅ ↔ ∃ expiry, s[key]? = some ⟨∅, expiry⟩ ∧ now < expiry := by
  unfold live?
  simp only [Option.map_eq_some_iff, Option.filter_eq_some_iff, decide_eq_true_eq]
  constructor
  · rintro ⟨⟨fields, expiry⟩, ⟨found, live⟩, rfl⟩
    exact ⟨expiry, found, live⟩
  · rintro ⟨expiry, found, live⟩
    exact ⟨⟨∅, expiry⟩, ⟨found, live⟩, rfl⟩

/-- A removal and a read tell the same unless the record is live without fields. -/
theorem delete_iff_fields_iff {s : Store} :
    ((s.delete now key).1 = true ↔ s.fields now key ≠ ∅) ↔ s.live? now key ≠ some ∅ := by
  unfold delete fields
  cases s.live? now key <;> simp

/-- A removal tells every record that is read as having fields. It tells the same as a read unless
the last call that did more than read the record was a swap that expected a value and found no
field, and its life span has not passed. -/
theorem delete_tells_fields (calls : List Call) (now : Instant) (key : String) :
    let s := (∅ : Store).after calls
    (s.fields now key ≠ ∅ → (s.delete now key).1 = true) ∧
      (((s.delete now key).1 = true ↔ s.fields now key ≠ ∅) ↔
        ∀ expiry ∈ emptyUntil? key calls, expiry ≤ now) := by
  intro s
  constructor
  · unfold delete fields
    cases s.live? now key <;> simp
  · rw [delete_iff_fields_iff, Ne, live?_eq_empty_iff]
    simp only [s, getElem?_after_eq_empty_iff, not_exists, not_and, Option.mem_def, Instant.le_def,
      Instant.lt_def, Int.not_lt]

/-- A record that a failed swap made is filled, so that a removal tells it rightly, also after one
more failed swap. -/
theorem delete_tells_filled :
    let calls : List Call := [⟨⟨5⟩, .swap "a" "level" (some "80") "90" 60⟩,
      ⟨⟨5⟩, .setIfAbsent "a" "level" "70" 60⟩, ⟨⟨0⟩, .swap "a" "level" (some "80") "90" 60⟩]
    let s := (∅ : Store).after calls
    (emptyUntil? "a" (calls.drop 2) = some ⟨60⟩ ∧ emptyUntil? "a" calls = none ∧
      s.fields ⟨6⟩ "a" ≠ ∅) ∧ (s.delete ⟨6⟩ "a").1 = true ∧
      ((s.delete ⟨65⟩ "a").1 = true ↔ s.fields ⟨65⟩ "a" ≠ ∅) := by
  intro calls s
  have filled : emptyUntil? "a" calls = none := by decide +kernel
  have read : s.fields ⟨6⟩ "a" ≠ ∅ := by decide +kernel
  refine ⟨⟨by decide +kernel, filled, read⟩, (delete_tells_fields calls ⟨6⟩ "a").1 read, ?_⟩
  refine (delete_tells_fields calls ⟨65⟩ "a").2.2 fun expiry found => ?_
  rw [filled] at found
  cases found

/-- A swap that expects a value under a key without a record fails. No field is read after it, and
the removal tells a record. -/
theorem delete_tells_failed_swap :
    let now : Instant := ⟨1709266200000000000⟩
    let (swapped, s) := (∅ : Store).swap now "a" "level" (some "80") "90" 60000000000
    swapped = false ∧ s.fields now "a" = ∅ ∧ (s.delete now "a").1 = true := by
  decide +kernel

end Store

end Metering.Side

import Mathlib.Algebra.BigOperators.Finsupp.Basic
import Mathlib.Algebra.Order.BigOperators.Group.List
import Mathlib.Algebra.Order.Group.Nat
import Metering.Cold.Store
import Metering.Proofs.Way

/-!
# Sums by a key

A report is a fold over parts: each part adds its traffic to the sum of its key. What comes of it
depends on the bytes per key only, so parts that were split, merged or put in another order make the
same sums, also where the keys are mapped to coarser ones.

Results:
1. `Sums.bytes_ofList`: a sum is the number of bytes of its parts, up to the top of a counter.
2. `bytesWhere_congr`: where bytes agree key by key, they agree on every set of keys.
3. `Sums.ofList_totals`: a list of totals makes the same sums by group as the parts themselves.
-/

namespace Metering.Cold

variable {κ : Type}

/-! ## Bytes of some parts -/

/-- Bytes of the parts whose key is as `keep` says. -/
def bytesWhere (keep : κ → Prop) [DecidablePred keep] (d : Way) (parts : List (κ × Traffic)) :
    Nat :=
  ((parts.filter fun part => keep part.1).map fun part => part.2.bytes d).sum

variable {keep : κ → Prop} [DecidablePred keep] {d : Way}

@[simp] theorem bytesWhere_nil : bytesWhere keep d [] = 0 := rfl

theorem bytesWhere_cons (part : κ × Traffic) (parts : List (κ × Traffic)) :
    bytesWhere keep d (part :: parts) =
      (if keep part.1 then part.2.bytes d else 0) + bytesWhere keep d parts := by
  unfold bytesWhere
  by_cases kept : keep part.1 <;> simp [kept]

theorem bytesWhere_append (parts more : List (κ × Traffic)) :
    bytesWhere keep d (parts ++ more) = bytesWhere keep d parts + bytesWhere keep d more := by
  simp [bytesWhere]

theorem bytesWhere_perm {parts more : List (κ × Traffic)} (perm : parts.Perm more) :
    bytesWhere keep d parts = bytesWhere keep d more :=
  ((perm.filter _).map _).sum_nat

theorem bytesWhere_map {κ' : Type} (f : κ' → κ) (parts : List (κ' × Traffic)) :
    bytesWhere keep d (parts.map fun part => (f part.1, part.2)) =
      bytesWhere (fun key => keep (f key)) d parts := by
  induction parts with
  | nil => rfl
  | cons part parts ih => rw [List.map_cons, bytesWhere_cons, bytesWhere_cons, ih]

theorem bytesWhere_filter (among : κ → Prop) [DecidablePred among] (parts : List (κ × Traffic)) :
    bytesWhere keep d (parts.filter fun part => among part.1) =
      bytesWhere (fun key => keep key ∧ among key) d parts := by
  simp [bytesWhere, List.filter_filter]

theorem bytesWhere_mono {keep' : κ → Prop} [DecidablePred keep'] (le : ∀ key, keep key → keep' key)
    (parts : List (κ × Traffic)) : bytesWhere keep d parts ≤ bytesWhere keep' d parts := by
  induction parts with
  | nil => exact Nat.le_refl _
  | cons part parts ih =>
    rw [bytesWhere_cons, bytesWhere_cons]
    by_cases kept : keep part.1
    · rw [if_pos kept, if_pos (le _ kept)]
      exact Nat.add_le_add_left ih _
    · rw [if_neg kept]
      omega

theorem bytesWhere_eq_zero {parts : List (κ × Traffic)} (none : ∀ part ∈ parts, ¬ keep part.1) :
    bytesWhere keep d parts = 0 := by
  have empty : parts.filter (fun part => keep part.1) = [] :=
    List.filter_eq_nil_iff.2 fun part member => by simpa using none part member
  rw [bytesWhere, empty]
  rfl

theorem bytes_le_bytesWhere {part : κ × Traffic} {parts : List (κ × Traffic)}
    (member : part ∈ parts) (kept : keep part.1) : part.2.bytes d ≤ bytesWhere keep d parts := by
  refine List.le_sum_of_mem ?_
  exact List.mem_map.2 ⟨part, List.mem_filter.2 ⟨member, decide_eq_true kept⟩, rfl⟩

/-- Bytes by key. -/
noncomputable def weights (d : Way) (parts : List (κ × Traffic)) : κ →₀ ℕ :=
  (parts.map fun part => Finsupp.single part.1 (part.2.bytes d)).sum

theorem weights_cons (part : κ × Traffic) (parts : List (κ × Traffic)) :
    weights d (part :: parts) = Finsupp.single part.1 (part.2.bytes d) + weights d parts := by
  simp [weights]

theorem sum_weights (parts : List (κ × Traffic)) :
    ((weights d parts).sum fun key n => if keep key then n else 0) = bytesWhere keep d parts := by
  induction parts with
  | nil => rfl
  | cons part parts ih =>
    rw [weights_cons, bytesWhere_cons, Finsupp.sum_add_index', Finsupp.sum_single_index, ih]
    · exact ite_self 0
    · exact fun key => ite_self 0
    · intro key m n
      split <;> simp

section Key

variable [DecidableEq κ] {key : κ}

/-- A part that is the only one of its key has all bytes of the key. -/
theorem bytesWhere_of_mem {parts : List (κ × Traffic)} {traffic : Traffic}
    (nodup : (parts.map Prod.fst).Nodup) (member : (key, traffic) ∈ parts) :
    bytesWhere (· = key) d parts = traffic.bytes d := by
  induction parts with
  | nil => cases member
  | cons part parts ih =>
    obtain ⟨fresh, nodup⟩ := List.nodup_cons.1 nodup
    rw [bytesWhere_cons]
    rcases List.mem_cons.1 member with rfl | member
    · rw [if_pos rfl, bytesWhere_eq_zero, Nat.add_zero]
      rintro other later rfl
      exact fresh (List.mem_map.2 ⟨other, later, rfl⟩)
    · have other : part.1 ≠ key := by
        rintro rfl
        exact fresh (List.mem_map.2 ⟨_, member, rfl⟩)
      rw [if_neg other, ih nodup member, Nat.zero_add]

theorem weights_apply (parts : List (κ × Traffic)) (key : κ) :
    weights d parts key = bytesWhere (· = key) d parts := by
  induction parts with
  | nil => rfl
  | cons part parts ih =>
    rw [weights_cons, bytesWhere_cons, Finsupp.add_apply, Finsupp.single_apply, ih]

/-- Where bytes agree key by key, they agree on every set of keys. -/
theorem bytesWhere_congr {parts more : List (κ × Traffic)}
    (same : ∀ key, bytesWhere (· = key) d parts = bytesWhere (· = key) d more)
    (keep : κ → Prop) [DecidablePred keep] :
    bytesWhere keep d parts = bytesWhere keep d more := by
  have weights : weights d parts = weights d more := by
    ext key
    rw [weights_apply, weights_apply, same]
  rw [← sum_weights, ← sum_weights, weights]

/-- A list with one part per key, which tells all that another has of the key. -/
structure Totals (parts more : List (κ × Traffic)) : Prop where
  nodup : (parts.map Prod.fst).Nodup
  tells : ∀ {key : κ} {traffic : Traffic}, (key, traffic) ∈ parts →
    traffic ≠ 0 ∧ ∀ d, traffic.bytes d = bytesWhere (· = key) d more
  covers : ∀ part ∈ more, part.1 ∈ parts.map Prod.fst

variable {parts more : List (κ × Traffic)}

theorem Totals.mem_keys (h : Totals parts more) :
    key ∈ parts.map Prod.fst ↔ key ∈ more.map Prod.fst := by
  constructor
  · intro told
    obtain ⟨⟨_, traffic⟩, member, rfl⟩ := List.mem_map.1 told
    obtain ⟨nonzero, bytes⟩ := h.tells member
    refine Decidable.byContradiction fun absent => nonzero (Traffic.ext_bytes fun d => ?_)
    rw [bytes, bytesWhere_eq_zero, Traffic.bytes_zero]
    rintro part counted rfl
    exact absent (List.mem_map.2 ⟨part, counted, rfl⟩)
  · intro counted
    obtain ⟨part, member, rfl⟩ := List.mem_map.1 counted
    exact h.covers part member

theorem Totals.bytes (h : Totals parts more) :
    bytesWhere (· = key) d parts = bytesWhere (· = key) d more := by
  by_cases told : key ∈ parts.map Prod.fst
  · obtain ⟨⟨_, traffic⟩, member, rfl⟩ := List.mem_map.1 told
    rw [bytesWhere_of_mem h.nodup member]
    exact (h.tells member).2 d
  · have none : ∀ {list : List (κ × Traffic)}, key ∉ list.map Prod.fst →
        bytesWhere (· = key) d list = 0 := by
      intro list absent
      refine bytesWhere_eq_zero ?_
      rintro part counted rfl
      exact absent (List.mem_map.2 ⟨part, counted, rfl⟩)
    rw [none told, none (mt h.mem_keys.2 told)]

end Key

/-! ## Sums -/

namespace Sums

variable [Ord κ] [Std.TransOrd κ] [Std.LawfulEqOrd κ] [DecidableEq κ]

theorem getElem?_add (sums : Sums κ) (key : κ) (traffic : Traffic) (key' : κ) :
    (sums.add key traffic)[key']? =
      if key = key' then some ((sums[key']?).getD 0 + traffic) else sums[key']? := by
  simp only [add, Std.ExtTreeMap.getElem?_alter, Std.LawfulEqOrd.compare_eq_iff_eq]
  by_cases same : key = key'
  · subst same
    simp
  · simp [same]

/-- Sums to which some parts have been added. -/
theorem getElem?_foldl (parts : List (κ × Traffic)) (sums : Sums κ) (key : κ) :
    (∀ d, (((parts.foldl (fun sums part => sums.add part.1 part.2) sums)[key]?).getD 0).bytes d =
      min (((sums[key]?).getD 0).bytes d + bytesWhere (· = key) d parts) Count.top) ∧
    (((parts.foldl (fun sums part => sums.add part.1 part.2) sums)[key]?).isSome = true ↔
      (sums[key]?).isSome = true ∨ key ∈ parts.map Prod.fst) := by
  induction parts generalizing sums with
  | nil =>
    refine ⟨fun d => ?_, by simp⟩
    have top := ((sums[key]?).getD 0).bytes_le_top d
    rw [List.foldl_nil, bytesWhere_nil]
    omega
  | cons part parts ih =>
    obtain ⟨bytes, isSome⟩ := ih (sums.add part.1 part.2)
    rw [List.foldl_cons]
    refine ⟨fun d => ?_, ?_⟩
    · rw [bytes, getElem?_add, bytesWhere_cons]
      split
      · rw [Option.getD_some, Traffic.bytes_add]
        omega
      · rw [Nat.zero_add]
    · rw [isSome, getElem?_add, List.map_cons, List.mem_cons]
      by_cases same : part.1 = key
      · simp [same]
      · simp [same, Ne.symm same]

/-- A sum is the number of bytes of its parts, up to the top of a counter. -/
theorem bytes_ofList (parts : List (κ × Traffic)) (key : κ) (d : Way) :
    (((ofList parts)[key]?).getD 0).bytes d =
      min (bytesWhere (· = key) d parts) Count.top := by
  have added := (getElem?_foldl parts (∅ : Sums κ) key).1 d
  rw [ofList, added]
  simp

/-- The keys of sums are the keys of the parts. -/
theorem isSome_ofList (parts : List (κ × Traffic)) (key : κ) :
    ((ofList parts)[key]?).isSome = true ↔ key ∈ parts.map Prod.fst := by
  have added := (getElem?_foldl parts (∅ : Sums κ) key).2
  rw [ofList, added]
  simp

/-- Parts with the same keys and the same bytes by key make the same sums. -/
theorem ofList_congr {parts more : List (κ × Traffic)}
    (keys : ∀ key, key ∈ parts.map Prod.fst ↔ key ∈ more.map Prod.fst)
    (same : ∀ key d, bytesWhere (· = key) d parts = bytesWhere (· = key) d more) :
    ofList parts = ofList more := by
  refine Std.ExtTreeMap.ext_getElem? fun key => ?_
  have isSome : ((ofList parts)[key]?).isSome = ((ofList more)[key]?).isSome := by
    rw [Bool.eq_iff_iff, isSome_ofList, isSome_ofList, keys]
  have bytes : ((ofList parts)[key]?).getD 0 = ((ofList more)[key]?).getD 0 := by
    refine Traffic.ext_bytes fun d => ?_
    rw [bytes_ofList, bytes_ofList, same]
  cases found : (ofList parts)[key]? <;> cases found' : (ofList more)[key]? <;>
    simp_all

/-- The order of the parts does not matter. -/
theorem ofList_perm {parts more : List (κ × Traffic)} (perm : parts.Perm more) :
    ofList parts = ofList more :=
  ofList_congr (fun _ => (perm.map Prod.fst).mem_iff) fun _ _ => bytesWhere_perm perm

/-- A list of totals makes the same sums by group as the parts themselves. -/
theorem ofList_totals {κ' : Type} [DecidableEq κ'] {parts more : List (κ' × Traffic)}
    (totals : Totals parts more) (group : κ' → κ) :
    ofList (parts.map fun part => (group part.1, part.2)) =
      ofList (more.map fun part => (group part.1, part.2)) := by
  refine ofList_congr (fun key => ?_) fun key d => ?_
  · have grouped : ∀ parts : List (κ' × Traffic),
        (parts.map fun part => (group part.1, part.2)).map Prod.fst =
          (parts.map Prod.fst).map group := by simp
    rw [grouped, grouped, List.mem_map, List.mem_map]
    simp only [totals.mem_keys]
  · rw [bytesWhere_map, bytesWhere_map]
    exact bytesWhere_congr (fun key => totals.bytes) _

end Sums

end Metering.Cold

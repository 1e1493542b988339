import Metering.Proofs.Cold.Sums

/-!
# Sums of sums

Sums can be summed again by coarser keys. Counters stick at their top, so bytes may have been lost
in the first sums; but where some were lost, the coarser sum is at the top as well. Nothing shows of
the sums in between.

Results:
1. `Sums.ofList_toList`: sums, taken as parts, make themselves.
2. `bytesWhere_congr_top`: where bytes agree key by key up to the top of a counter, they agree up to
   the top on every set of keys.
3. `RollsUp.of_parts`: what rolls up parts rolls up their sums by finer keys, too.
4. `Sums.getD_ofList_const`: all parts under one key have the sum of the sums by any key.
-/

namespace Metering

/-- A saturating sum is the number of bytes, up to the top of a counter. -/
theorem Traffic.bytes_sum (ts : List Traffic) (d : Way) :
    (Traffic.sum ts).bytes d = min ((ts.map (·.bytes d)).sum) Count.top := by
  unfold Traffic.sum
  have step : ∀ start : Traffic, (ts.foldl (· + ·) start).bytes d =
      min (start.bytes d + (ts.map (·.bytes d)).sum) Count.top := by
    induction ts with
    | nil =>
      intro start
      have top := start.bytes_le_top d
      simp only [List.foldl_nil, List.map_nil, List.sum_nil]
      omega
    | cons t ts ih =>
      intro start
      rw [List.foldl_cons, ih, Traffic.bytes_add, List.map_cons, List.sum_cons]
      omega
  rw [step, Traffic.bytes_zero, Nat.zero_add]

theorem Traffic.sum_append (ts us : List Traffic) : sum (ts ++ us) = sum ts + sum us := by
  refine ext_bytes fun d => ?_
  simp only [bytes_add, bytes_sum, List.map_append, List.sum_append]
  omega

theorem Traffic.sum_cons (t : Traffic) (ts : List Traffic) : sum (t :: ts) = t + sum ts := by
  rw [← List.singleton_append, sum_append]
  exact congrArg (· + _) (zero_add t)

theorem Traffic.sum_perm {ts us : List Traffic} (perm : ts.Perm us) : sum ts = sum us :=
  ext_bytes fun d => by rw [bytes_sum, bytes_sum, (perm.map (·.bytes d)).sum_eq]

namespace Cold

variable {κ κ' : Type} {d : Way}

/-- The saturating sum of the parts whose key is as `keep` says. -/
def trafficWhere (keep : κ → Prop) [DecidablePred keep] (parts : List (κ × Traffic)) : Traffic :=
  .sum ((parts.filter fun part => keep part.1).map (·.2))

theorem bytes_trafficWhere (keep : κ → Prop) [DecidablePred keep] (parts : List (κ × Traffic)) :
    (trafficWhere keep parts).bytes d = min (bytesWhere keep d parts) Count.top := by
  rw [trafficWhere, Traffic.bytes_sum, List.map_map]
  rfl

/-! ## Bytes up to the top of a counter -/

section Key

variable [DecidableEq κ] {parts more : List (κ × Traffic)}

/-- Where bytes agree key by key up to the top of a counter, they agree up to the top on every set
of keys. -/
theorem bytesWhere_congr_top
    (same : ∀ key, min (bytesWhere (· = key) d parts) Count.top =
      min (bytesWhere (· = key) d more) Count.top) (keep : κ → Prop) [DecidablePred keep] :
    min (bytesWhere keep d parts) Count.top = min (bytesWhere keep d more) Count.top := by
  by_cases full : ∃ key, keep key ∧ Count.top ≤ bytesWhere (· = key) d parts
  · -- one key alone fills the counter, on both sides
    obtain ⟨key, kept, full⟩ := full
    have within : ∀ list : List (κ × Traffic),
        bytesWhere (· = key) d list ≤ bytesWhere keep d list :=
      fun list => bytesWhere_mono (by rintro _ rfl; exact kept) list
    have here := within parts
    have there := within more
    have agree := same key
    omega
  · -- no kept key fills it, so the bytes agree exactly
    have exact : ∀ key, bytesWhere (· = key) d (parts.filter fun part => keep part.1) =
        bytesWhere (· = key) d (more.filter fun part => keep part.1) := by
      intro key
      rw [bytesWhere_filter, bytesWhere_filter]
      by_cases kept : keep key
      · have only : ∀ list : List (κ × Traffic),
            bytesWhere (fun key' => key' = key ∧ keep key') d list =
              bytesWhere (· = key) d list := by
          intro list
          refine Nat.le_antisymm (bytesWhere_mono (fun _ own => own.1) _) (bytesWhere_mono ?_ _)
          rintro _ rfl
          exact ⟨rfl, kept⟩
        have below : ¬ Count.top ≤ bytesWhere (· = key) d parts := fun le => full ⟨key, kept, le⟩
        have agree := same key
        rw [only, only]
        omega
      · have none : ∀ list : List (κ × Traffic),
            bytesWhere (fun key' => key' = key ∧ keep key') d list = 0 := by
          intro list
          refine bytesWhere_eq_zero ?_
          rintro part _ ⟨rfl, kept'⟩
          exact kept kept'
        rw [none, none]
    have all : ∀ list : List (κ × Traffic), bytesWhere (fun _ => True) d
        (list.filter fun part => keep part.1) = bytesWhere keep d list := by
      intro list
      rw [bytesWhere_filter]
      simp only [true_and]
    rw [← all parts, ← all more, bytesWhere_congr exact]

end Key

/-! ## The parts that sums are -/

namespace Sums

variable [Ord κ] [Std.TransOrd κ] [Std.LawfulEqOrd κ]

theorem nodup_toList (sums : Sums κ) : (sums.toList.map Prod.fst).Nodup := by
  rw [List.Nodup, List.pairwise_map]
  refine Std.ExtTreeMap.distinct_keys_toList.imp fun differ same => differ ?_
  rw [same]
  exact Std.ReflOrd.compare_self

theorem mem_keys_toList {sums : Sums κ} {key : κ} :
    key ∈ sums.toList.map Prod.fst ↔ (sums[key]?).isSome = true := by
  rw [List.mem_map, Option.isSome_iff_exists]
  constructor
  · rintro ⟨⟨_, traffic⟩, member, rfl⟩
    exact ⟨traffic, Std.ExtTreeMap.mem_toList_iff_getElem?_eq_some.1 member⟩
  · rintro ⟨traffic, found⟩
    exact ⟨(key, traffic), Std.ExtTreeMap.mem_toList_iff_getElem?_eq_some.2 found, rfl⟩

variable [DecidableEq κ]

theorem bytesWhere_toList (sums : Sums κ) (key : κ) :
    bytesWhere (· = key) d sums.toList = ((sums[key]?).getD 0).bytes d := by
  cases found : sums[key]? with
  | some traffic =>
    exact bytesWhere_of_mem sums.nodup_toList
      (Std.ExtTreeMap.mem_toList_iff_getElem?_eq_some.2 found)
  | none =>
    rw [Option.getD_none, Traffic.bytes_zero]
    refine bytesWhere_eq_zero ?_
    rintro part member rfl
    have some := mem_keys_toList.1 (List.mem_map_of_mem member)
    rw [found] at some
    cases some

/-- Sums, taken as parts, make themselves. -/
theorem ofList_toList (sums : Sums κ) : ofList sums.toList = sums := by
  refine Std.ExtTreeMap.ext_getElem? fun key => ?_
  have isSome : ((ofList sums.toList)[key]?).isSome = (sums[key]?).isSome := by
    rw [Bool.eq_iff_iff, isSome_ofList, mem_keys_toList]
  have same : ((ofList sums.toList)[key]?).getD 0 = (sums[key]?).getD 0 := by
    refine Traffic.ext_bytes fun d => ?_
    rw [bytes_ofList, bytesWhere_toList, Nat.min_eq_left (Traffic.bytes_le_top ..)]
  cases found : sums[key]? <;> cases found' : (ofList sums.toList)[key]? <;> simp_all

/-- Summing parts by key loses no more than the counters do. -/
theorem bytesWhere_toList_ofList (parts : List (κ × Traffic)) (keep : κ → Prop)
    [DecidablePred keep] :
    min (bytesWhere keep d (ofList parts).toList) Count.top =
      min (bytesWhere keep d parts) Count.top := by
  refine bytesWhere_congr_top (fun key => ?_) keep
  rw [bytesWhere_toList, bytes_ofList, Nat.min_assoc, Nat.min_self]

theorem getD_ofList (parts : List (κ × Traffic)) (key : κ) :
    ((ofList parts)[key]?).getD 0 = trafficWhere (· = key) parts :=
  Traffic.ext_bytes fun d => by rw [bytes_ofList, bytes_trafficWhere]

theorem mem_toList_ofList {parts : List (κ × Traffic)} {key : κ} {traffic : Traffic}
    (member : (key, traffic) ∈ (ofList parts).toList) :
    traffic = trafficWhere (· = key) parts := by
  rw [← getD_ofList, Std.ExtTreeMap.mem_toList_iff_getElem?_eq_some.1 member, Option.getD_some]

end Sums

/-! ## Roll-ups -/

/-- `coarse` has one sum for each key that `f` gives to keys of `fine`: the saturating sum of those
keys' traffic. -/
structure RollsUp (f : κ → κ') [DecidableEq κ'] (fine : List (κ × Traffic))
    (coarse : List (κ' × Traffic)) : Prop where
  keys : ∀ key, key ∈ coarse.map Prod.fst ↔ ∃ part ∈ fine, f part.1 = key
  traffic : ∀ part ∈ coarse, part.2 = trafficWhere (fun key => f key = part.1) fine

variable [Ord κ] [Std.TransOrd κ] [Std.LawfulEqOrd κ] [DecidableEq κ] [DecidableEq κ'] in
/-- What rolls up parts rolls up their sums, too. -/
theorem RollsUp.of_parts {f : κ → κ'} {parts : List (κ × Traffic)} {coarse : List (κ' × Traffic)}
    (rolls : RollsUp f parts coarse) : RollsUp f (Sums.ofList parts).toList coarse where
  keys key := by
    have summed : ∀ key, key ∈ (Sums.ofList parts).toList.map Prod.fst ↔
        key ∈ parts.map Prod.fst :=
      fun key => Sums.mem_keys_toList.trans (Sums.isSome_ofList parts key)
    have fine : ∀ list : List (κ × Traffic), (∃ part ∈ list, f part.1 = key) ↔
        ∃ key' ∈ list.map Prod.fst, f key' = key := by
      simp
    rw [rolls.keys, fine, fine]
    simp only [summed]
  traffic part member := by
    rw [rolls.traffic part member]
    refine Traffic.ext_bytes fun d => ?_
    rw [bytes_trafficWhere, bytes_trafficWhere, Sums.bytesWhere_toList_ofList]

namespace Sums

variable [Ord κ'] [Std.TransOrd κ'] [Std.LawfulEqOrd κ'] [DecidableEq κ']

/-- Sums by the keys that `f` gives roll up the parts. -/
theorem rollsUp_ofList (f : κ → κ') (parts : List (κ × Traffic)) :
    RollsUp f parts (ofList (parts.map fun part => (f part.1, part.2))).toList where
  keys key := by
    rw [mem_keys_toList, isSome_ofList, List.map_map, List.mem_map]
    rfl
  traffic part member := by
    refine (mem_toList_ofList member).trans (Traffic.ext_bytes fun d => ?_)
    rw [bytes_trafficWhere, bytes_trafficWhere, bytesWhere_map]

variable [Ord κ] [Std.TransOrd κ] [Std.LawfulEqOrd κ] [DecidableEq κ]

/-- All parts under one key have the sum of the sums by any key. -/
theorem getD_ofList_const (key : κ') (parts : List (κ × Traffic)) :
    ((ofList (parts.map fun part => (key, part.2)))[key]?).getD 0 =
      .sum ((ofList parts).toList.map (·.2)) := by
  have all : ∀ list : List (κ × Traffic),
      Traffic.sum (list.map (·.2)) = trafficWhere (fun _ => True) list := by
    intro list
    rw [trafficWhere, decide_true, List.filter_true]
  refine (getD_ofList _ key).trans (Traffic.ext_bytes fun d => ?_)
  rw [all, bytes_trafficWhere, bytes_trafficWhere, bytesWhere_toList_ofList,
    bytesWhere_map (fun _ => key)]
  simp only [eq_self]

end Sums

end Cold

end Metering

import Mathlib.Algebra.GroupWithZero.Nat
import Mathlib.Data.List.Induction
import Metering.Proofs.Side.Record
import Metering.Proofs.Way

/-!
# What is written to a quota

Two things are written to the record of a subscription: usage, which adds to the fields of the
directions that have any, and primings, which fill the fields that are missing. What the fields hold
after a list of writings can be told field by field: the first priming counts in a direction only if
nothing was written there before, all usage counts, and the first allowance that was primed stays.

Results: `numbersOf_field`, `numbersOf_limit`: the fields after a list of writings;
`statusAfter_concat_priming`: a priming that finds all its fields changes nothing.
-/

namespace Metering.Quota

/-- Something that is written to the record of a subscription. -/
inductive Writing
  | usage (traffic : Traffic) (nonzero : traffic ≠ 0)
  | priming (limit : Option Count) (used : Traffic)

namespace Writing

/-- The writing is made to the field of a direction. -/
def touches (d : Way) : Writing → Bool
  | usage traffic _ => 0 < traffic.bytes d
  | priming .. => true

/-- The bytes that a writing primes. -/
def primed (d : Way) : Writing → Nat
  | usage .. => 0
  | priming _ used => used.bytes d

/-- The bytes of usage in a writing. -/
def counted (d : Way) : Writing → Nat
  | usage traffic _ => traffic.bytes d
  | priming .. => 0

/-- The allowance that a writing primes. -/
def limit? : Writing → Option Count
  | usage .. => none
  | priming limit _ => limit

theorem exists_touches (w : Writing) : ∃ d, w.touches d = true := by
  cases w with
  | usage traffic nonzero =>
    obtain ⟨d, pos⟩ := Traffic.ne_zero_iff.1 nonzero
    exact ⟨d, decide_eq_true pos⟩
  | priming limit used => exact ⟨.upload, rfl⟩

theorem counted_of_not_touches {d : Way} {w : Writing} (h : w.touches d = false) :
    w.counted d = 0 := by
  cases w with
  | usage traffic nonzero => exact Nat.eq_zero_of_not_pos (of_decide_eq_false h)
  | priming limit used => rfl

end Writing

/-- What was primed in a direction: something only if a priming was the first to be written. -/
def primedIn (ws : List Writing) (d : Way) : Nat := (ws.find? (·.touches d)).elim 0 (·.primed d)

/-- All usage in a direction. -/
def countedIn (ws : List Writing) (d : Way) : Nat := (ws.map (·.counted d)).sum

/-- The used bytes after some writings. -/
def usedAfter (ws : List Writing) (d : Way) : Nat := min maxField (primedIn ws d + countedIn ws d)

/-- The allowance after some writings: the first that was primed. -/
def limitAfter (ws : List Writing) : Option Count :=
  (ws.findSome? Writing.limit?).map fun limit => .ofNat (min limit.toNat maxField)

/-- The status after some writings; none if there were none. -/
def statusAfter (ws : List Writing) : Option Status :=
  if ws.isEmpty then none
  else some ⟨limitAfter ws, .ofNats (usedAfter ws .upload) (usedAfter ws .download)⟩

/-- Something was written in a direction. -/
def isTouched (ws : List Writing) (d : Way) : Bool := ws.any (·.touches d)

/-- A priming would find all the fields that it fills. -/
def isPrimed (ws : List Writing) (limit : Option Count) : Bool :=
  (limit.isNone || (limitAfter ws).isSome) && decide (∀ d, isTouched ws d = true)

/-! ## The fields -/

/-- The field of a direction. -/
def field : Way → String
  | .upload => uploadField
  | .download => downloadField

open Side (Numbers)

/-- The number of a field to which usage is added. -/
def added (n : Count) (old? : Option Nat) : Option Nat :=
  if 0 < n.toNat then some (min maxField (old?.getD 0 + fieldValue n)) else old?

/-- The number of a field that is primed. -/
def seeded (n : Count) (old? : Option Nat) : Option Nat := some (old?.getD (fieldValue n))

/-- The fields that a priming fills, with their values. -/
def seeds (limit : Option Count) (used : Traffic) : List (String × Count) :=
  (limit.map (limitField, ·)).toList ++ usage used

/-- The numbers of a record after its fields have been changed one by one. -/
def changeAll (change : Count → Option Nat → Option Nat) (numbers : Numbers)
    (values : List (String × Count)) : Numbers :=
  values.foldl (fun numbers value => numbers.change value.1 (change value.2)) numbers

/-- The numbers of a record after a writing. -/
def Writing.apply (numbers : Numbers) : Writing → Numbers
  | usage traffic _ => changeAll added numbers (Quota.usage traffic)
  | priming limit used => changeAll seeded numbers (seeds limit used)

/-- The numbers of a record after some writings. -/
def numbersOf (ws : List Writing) : Numbers := ws.foldl Writing.apply fun _ => none

theorem numbersOf_append (ws ws' : List Writing) :
    numbersOf (ws ++ ws') = ws'.foldl Writing.apply (numbersOf ws) :=
  List.foldl_append

section Fields

variable (change : Count → Option Nat → Option Nat) (numbers : Numbers)

theorem changeAll_of_notMem {values : List (String × Count)} {name : String}
    (other : name ∉ values.map Prod.fst) : changeAll change numbers values name = numbers name := by
  induction values generalizing numbers with
  | nil => rfl
  | cons value values ih =>
    obtain ⟨ne, other⟩ := List.ne_and_not_mem_of_not_mem_cons other
    exact (ih _ other).trans (Numbers.change_of_ne _ _ ne)

/-- Where each field is changed once, a field is changed by its own value. -/
theorem changeAll_of_mem {values : List (String × Count)} (once : (values.map Prod.fst).Nodup)
    {name : String} {n : Count} (member : (name, n) ∈ values) :
    changeAll change numbers values name = change n (numbers name) := by
  induction values generalizing numbers with
  | nil => cases member
  | cons value values ih =>
    obtain ⟨fresh, once⟩ := List.nodup_cons.1 once
    rcases List.mem_cons.1 member with rfl | member
    · exact (changeAll_of_notMem change _ fresh).trans (Numbers.change_self _ _ _)
    · have ne : name ≠ value.1 := fun same =>
        fresh (same ▸ List.mem_map_of_mem (f := Prod.fst) member)
      rw [← Numbers.change_of_ne numbers (change value.2) ne]
      exact ih _ once member

end Fields

theorem nodup_usage (traffic : Traffic) : ((usage traffic).map Prod.fst).Nodup := by
  change [uploadField, downloadField].Nodup
  decide

theorem nodup_seeds (limit : Option Count) (used : Traffic) :
    ((seeds limit used).map Prod.fst).Nodup := by
  cases limit with
  | none =>
    change [uploadField, downloadField].Nodup
    decide
  | some limit =>
    change [limitField, uploadField, downloadField].Nodup
    decide

theorem mem_usage (traffic : Traffic) (d : Way) :
    ∃ n, (field d, n) ∈ usage traffic ∧ n.toNat = traffic.bytes d := by
  cases d with
  | upload => exact ⟨_, List.mem_cons_self, rfl⟩
  | download => exact ⟨_, List.mem_cons_of_mem _ List.mem_cons_self, rfl⟩

theorem field_of_mem_usage {traffic : Traffic} {name : String}
    (member : name ∈ (usage traffic).map Prod.fst) : ∃ d, name = field d := by
  rcases List.mem_cons.1 member with rfl | member
  · exact ⟨.upload, rfl⟩
  · exact ⟨.download, List.mem_singleton.1 member⟩

theorem field_ne_limit (d : Way) : field d ≠ limitField := by
  cases d <;> decide

theorem limitField_notMem_usage (traffic : Traffic) :
    limitField ∉ (usage traffic).map Prod.fst := by
  intro member
  obtain ⟨d, same⟩ := field_of_mem_usage member
  exact field_ne_limit d same.symm

theorem usage_field (numbers : Numbers) {traffic : Traffic} (nonzero : traffic ≠ 0) (d : Way) :
    (Writing.usage traffic nonzero).apply numbers (field d) =
      if 0 < traffic.bytes d then
        some (min maxField ((numbers (field d)).getD 0 + min (traffic.bytes d) maxField))
      else numbers (field d) := by
  obtain ⟨n, member, bytes⟩ := mem_usage traffic d
  refine (changeAll_of_mem added numbers (nodup_usage traffic) member).trans ?_
  simp only [added, fieldValue, bytes]

theorem priming_field (numbers : Numbers) (limit : Option Count) (used : Traffic) (d : Way) :
    (Writing.priming limit used).apply numbers (field d) =
      some ((numbers (field d)).getD (min (used.bytes d) maxField)) := by
  obtain ⟨n, member, bytes⟩ := mem_usage used d
  refine (changeAll_of_mem seeded numbers (nodup_seeds limit used)
    (List.mem_append_right _ member)).trans ?_
  simp only [seeded, fieldValue, bytes]

/-- A priming with an allowance fills its field. -/
theorem apply_limit (numbers : Numbers) (w : Writing) :
    w.apply numbers limitField = (numbers limitField).or (w.limit?.map fieldValue) := by
  cases w with
  | usage traffic nonzero =>
    refine (changeAll_of_notMem added numbers (limitField_notMem_usage traffic)).trans ?_
    simp [Writing.limit?]
  | priming limit used =>
    cases limit with
    | none =>
      refine (changeAll_of_notMem seeded numbers (limitField_notMem_usage used)).trans ?_
      simp [Writing.limit?]
    | some limit =>
      refine (changeAll_of_mem seeded numbers (nodup_seeds _ used) List.mem_cons_self).trans ?_
      unfold seeded Writing.limit?
      cases numbers limitField <;> rfl

/-! ## After a list of writings -/

theorem numbersOf_concat (ws : List Writing) (w : Writing) :
    numbersOf (ws ++ [w]) = w.apply (numbersOf ws) := by
  rw [numbersOf_append]
  rfl

section After

variable (ws : List Writing) (d : Way)

theorem isTouched_concat (w : Writing) :
    isTouched (ws ++ [w]) d = (isTouched ws d || w.touches d) := by
  simp [isTouched]

theorem countedIn_concat (w : Writing) :
    countedIn (ws ++ [w]) d = countedIn ws d + w.counted d := by
  simp [countedIn]

theorem primedIn_concat (w : Writing) :
    primedIn (ws ++ [w]) d = if isTouched ws d then primedIn ws d else w.primed d := by
  unfold primedIn isTouched
  rw [List.find?_append]
  split
  · next touched =>
    obtain ⟨first, found⟩ := Option.isSome_iff_exists.1
      (List.find?_isSome.2 (List.any_eq_true.1 touched))
    rw [found]
    rfl
  · next untouched =>
    rw [List.find?_eq_none.2 (List.any_eq_false.1 (Bool.eq_false_iff.2 untouched)), Option.none_or]
    cases w with
    | usage traffic nonzero =>
      cases touches : (Writing.usage traffic nonzero).touches d <;> simp [touches, Writing.primed]
    | priming limit used => rfl

/-- Nothing is used in a direction to which nothing was written. -/
theorem used_of_untouched (untouched : isTouched ws d = false) :
    primedIn ws d = 0 ∧ countedIn ws d = 0 := by
  induction ws using List.reverseRecOn with
  | nil => exact ⟨rfl, rfl⟩
  | append_singleton ws w ih =>
    rw [isTouched_concat, Bool.or_eq_false_iff] at untouched
    obtain ⟨primed, counted⟩ := ih untouched.1
    rw [primedIn_concat, countedIn_concat, counted, Writing.counted_of_not_touches untouched.2]
    refine ⟨?_, rfl⟩
    cases w with
    | usage traffic nonzero => simp [untouched.1, Writing.primed]
    | priming limit used => cases untouched.2

/-- The field of a direction exists once something was written to it, and holds what is used. -/
theorem numbersOf_field :
    numbersOf ws (field d) = if isTouched ws d then some (usedAfter ws d) else none := by
  induction ws using List.reverseRecOn with
  | nil => rfl
  | append_singleton ws w ih =>
    have rest := used_of_untouched ws d
    rw [numbersOf_concat, usedAfter, isTouched_concat, primedIn_concat, countedIn_concat]
    cases w with
    | usage traffic nonzero =>
      rw [usage_field, ih]
      unfold usedAfter Writing.touches Writing.counted Writing.primed
      cases touched : isTouched ws d with
      | true =>
        by_cases pos : 0 < traffic.bytes d
        · simp [pos]
          omega
        · simp [Nat.eq_zero_of_not_pos pos]
      | false =>
        by_cases pos : 0 < traffic.bytes d
        · simp [pos, (rest touched).2, Nat.min_comm]
        · simp [pos]
    | priming limit used =>
      rw [priming_field, ih]
      unfold usedAfter Writing.touches Writing.counted Writing.primed
      cases touched : isTouched ws d with
      | true => simp
      | false => simp [(rest touched).2, Nat.min_comm]

/-- The field of the allowance holds the first that was primed. -/
theorem numbersOf_limit :
    numbersOf ws limitField = (ws.findSome? Writing.limit?).map fieldValue := by
  induction ws using List.reverseRecOn with
  | nil => rfl
  | append_singleton ws w ih =>
    rw [numbersOf_concat, apply_limit, ih, List.findSome?_append]
    cases ws.findSome? Writing.limit? with
    | none => cases primed : w.limit? <;> simp [List.findSome?, primed]
    | some limit => rfl

theorem isSome_numbersOf_limit : (numbersOf ws limitField).isSome = (limitAfter ws).isSome := by
  rw [numbersOf_limit, limitAfter, Option.isSome_map, Option.isSome_map]

theorem isSome_numbersOf_field : (numbersOf ws (field d)).isSome = isTouched ws d := by
  rw [numbersOf_field]
  cases isTouched ws d <;> rfl

theorem getD_numbersOf_field : (numbersOf ws (field d)).getD 0 = usedAfter ws d := by
  rw [numbersOf_field]
  split
  · rfl
  · next untouched =>
    obtain ⟨primed, counted⟩ := used_of_untouched ws d (Bool.eq_false_iff.2 untouched)
    rw [usedAfter, primed, counted]
    rfl

theorem exists_isTouched (some : ws ≠ []) : ∃ d, isTouched ws d = true := by
  obtain ⟨w, ws, rfl⟩ := List.exists_cons_of_ne_nil some
  obtain ⟨d, touches⟩ := w.exists_touches
  exact ⟨d, List.any_eq_true.2 ⟨w, List.mem_cons_self, touches⟩⟩

end After

/-! ## The status -/

section Status

variable {ws : List Writing} {fields : Side.Fields}

/-- The usage that is read out of a record. -/
theorem statusOf_eq (holds : Side.Holds fields (numbersOf ws)) :
    statusOf fields =
      .ok ⟨limitAfter ws, .ofNats (usedAfter ws .upload) (usedAfter ws .download)⟩ := by
  have up := getD_numbersOf_field ws .upload
  have down := getD_numbersOf_field ws .download
  unfold field at up down
  rw [holds.statusOf, up, down, numbersOf_limit, Option.map_map, limitAfter]
  rfl

/-- A record is empty as long as nothing was written to it. -/
theorem isEmpty_iff (holds : Side.Holds fields (numbersOf ws)) :
    fields.isEmpty = ws.isEmpty := by
  cases none : ws.isEmpty with
  | true =>
    obtain rfl := List.isEmpty_iff.1 none
    refine Std.ExtTreeMap.isEmpty_iff.2 (Std.ExtTreeMap.ext_getElem? fun name => ?_)
    rw [holds.text, Std.ExtTreeMap.getElem?_empty]
    rfl
  | false =>
    obtain ⟨d, touched⟩ := exists_isTouched ws (List.isEmpty_eq_false_iff.1 none)
    refine Std.ExtTreeMap.isEmpty_eq_false_iff.2 fun empty => ?_
    have missing := holds.text (field d)
    rw [empty, Std.ExtTreeMap.getElem?_empty, numbersOf_field, touched] at missing
    cases missing

/-- A priming fills a field unless all its fields are there. -/
theorem any_seeds_isNone (ws : List Writing) (limit : Option Count) (used : Traffic) :
    ((seeds limit used).any fun value => (numbersOf ws value.1).isNone) = !isPrimed ws limit := by
  have up := isSome_numbersOf_field ws .upload
  have down := isSome_numbersOf_field ws .download
  have both : decide (∀ d, isTouched ws d = true) =
      (isTouched ws .upload && isTouched ws .download) := by
    rw [Bool.eq_iff_iff, decide_eq_true_eq, Bool.and_eq_true_iff]
    exact ⟨fun h => ⟨h .upload, h .download⟩, fun h d => d.casesOn h.1 h.2⟩
  unfold seeds usage isPrimed
  unfold field at up down
  rw [both, ← up, ← down, ← isSome_numbersOf_limit]
  cases limit <;>
    simp [← Option.not_isSome]

/-- A priming that finds all its fields changes nothing. -/
theorem statusAfter_concat_priming {limit : Option Count} (primed : isPrimed ws limit = true)
    (used : Traffic) : statusAfter (ws ++ [.priming limit used]) = statusAfter ws := by
  obtain ⟨limits, touched⟩ := Bool.and_eq_true_iff.1 primed
  have touched := of_decide_eq_true touched
  have used_eq (d : Way) : usedAfter (ws ++ [.priming limit used]) d = usedAfter ws d := by
    unfold usedAfter
    rw [primedIn_concat, if_pos (touched d), countedIn_concat]
    rfl
  have limit_eq : limitAfter (ws ++ [.priming limit used]) = limitAfter ws := by
    unfold limitAfter at limits ⊢
    rw [List.findSome?_append]
    cases found : ws.findSome? Writing.limit? with
    | some limit => rfl
    | none =>
      rw [found] at limits
      cases limit with
      | none => rfl
      | some limit => cases limits
  have some : ws ≠ [] := by
    rintro rfl
    exact absurd (touched .upload) Bool.false_ne_true
  unfold statusAfter
  rw [used_eq, used_eq, limit_eq, List.isEmpty_eq_false_iff.2 some]
  simp

end Status

end Metering.Quota

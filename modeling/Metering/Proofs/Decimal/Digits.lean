import Mathlib.Data.String.Basic
import Metering.Decimal.Integer
import Metering.Time.Instant

/-!
# Decimal digits

A list of digits is read as a number. Among lists of one length the number tells the digits, and
numbers are in the order of the texts. So a number that is filled up with zeros to a fixed width can
be read back, and such texts can be sorted in place of their numbers.

Results:
1. `Decimal.unsigned?_repr`: a number comes back from its text.
2. `Decimal.lt_iff_value_lt`, `Decimal.eq_of_value_eq`: lists of digits of one length.
3. `Date.value_padded`, `Date.padded_value`: texts of a fixed width.
-/

namespace Metering

namespace Decimal

/-! ## Digits -/

/-- All characters are digits. -/
def AreDigits (cs : List Char) : Prop := ∀ c ∈ cs, c.isDigit = true

instance (cs : List Char) : Decidable (AreDigits cs) := List.decidableBAll _ cs

theorem all_isDigit_iff {cs : List Char} : cs.all (·.isDigit) = true ↔ AreDigits cs :=
  List.all_eq_true

theorem areDigits_toDigits (n : Nat) : AreDigits (Nat.toDigits 10 n) :=
  fun _ member => Nat.isDigit_of_mem_toDigits (by decide) (by decide) member

/-- Digits hold no colon. -/
theorem AreDigits.colon_notMem {cs : List Char} (digits : AreDigits cs) : ':' ∉ cs :=
  fun colon => absurd (digits ':' colon) (by decide)

theorem areDigits_append {as bs : List Char} :
    AreDigits (as ++ bs) ↔ AreDigits as ∧ AreDigits bs :=
  List.forall_mem_append

/-! ## Numbers and their texts -/

theorem value_eq_ofDigitChars (cs : List Char) : value cs = Nat.ofDigitChars 10 cs 0 := by
  unfold value Nat.ofDigitChars digit
  simp only [Nat.mul_comm]

theorem digits?_toDigits (n : Nat) : digits? (Nat.toDigits 10 n) = some n := by
  have digits := all_isDigit_iff.2 (areDigits_toDigits n)
  rw [digits?, if_pos ⟨Nat.toDigits_ne_nil, digits⟩, value_eq_ofDigitChars,
    Nat.ofDigitChars_toDigits (by decide) (by decide)]

/-- The digits tell the number. -/
theorem toDigits_inj {m n : Nat} (same : Nat.toDigits 10 m = Nat.toDigits 10 n) : m = n := by
  have read := digits?_toDigits m
  rw [same, digits?_toDigits] at read
  exact (Option.some.inj read).symm

/-- The text of a number holds digits only, and is not empty. -/
theorem toDigits_cases (n : Nat) :
    ∃ c cs, Nat.toDigits 10 n = c :: cs ∧ c ≠ '+' ∧ c ≠ '-' := by
  cases text : Nat.toDigits 10 n with
  | nil => exact (Nat.toDigits_ne_nil text).elim
  | cons c cs =>
    have digit := areDigits_toDigits n c (text ▸ List.mem_cons_self)
    refine ⟨c, cs, rfl, ?_, ?_⟩
    · rintro rfl
      exact absurd digit (by decide)
    · rintro rfl
      exact absurd digit (by decide)

/-- An unsigned number that fits comes back from its text. -/
theorem unsigned?_repr {n most : Nat} (fits : n ≤ most) :
    unsigned? most (Nat.repr n) = some n := by
  obtain ⟨c, cs, text, plus, -⟩ := toDigits_cases n
  have read := digits?_toDigits n
  unfold unsigned?
  rw [Nat.toList_repr, text] at *
  split
  · next same => exact absurd (List.cons.inj same).1 plus
  · simp [read, fits]

/-- What is accepted as an unsigned number: digits, with a plus sign in front or without one. -/
theorem unsigned?_eq_some_iff {most n : Nat} {text : String} : unsigned? most text = some n ↔
    ∃ digits, (text.toList = digits ∨ text.toList = '+' :: digits) ∧
      (digits ≠ [] ∧ AreDigits digits) ∧ value digits = n ∧ n ≤ most := by
  have read (cs : List Char) : (digits? cs).filter (· ≤ most) = some n ↔
      (cs ≠ [] ∧ AreDigits cs) ∧ value cs = n ∧ n ≤ most := by
    unfold digits?
    split
    · next digits =>
      rw [all_isDigit_iff] at digits
      simp only [Option.filter_eq_some_iff, Option.some.injEq, decide_eq_true_eq, digits, ne_eq,
        not_false_eq_true, true_and]
    · next other =>
      rw [all_isDigit_iff] at other
      simp [other]
  unfold unsigned?
  dsimp only
  rw [read]
  split
  · next rest signed =>
    constructor
    · exact fun accepted => ⟨rest, .inr signed, accepted⟩
    · rintro ⟨digits, rfl | same, accepted⟩
      · exact absurd (accepted.1.2 '+' (signed ▸ List.mem_cons_self)) (by decide)
      · cases signed.symm.trans same
        exact accepted
  · next unsigned =>
    constructor
    · exact fun accepted => ⟨text.toList, .inl rfl, accepted⟩
    · rintro ⟨digits, rfl | same, accepted⟩
      · exact accepted
      · exact absurd same (unsigned digits)

/-! ## Lists of one length -/

theorem value_cons (c : Char) (cs : List Char) :
    value (c :: cs) = digit c * 10 ^ cs.length + value cs := by
  rw [value_eq_ofDigitChars, value_eq_ofDigitChars, Nat.ofDigitChars_cons,
    Nat.ofDigitChars_eq_ofDigitChars_zero, Nat.mul_zero, Nat.zero_add, Nat.mul_comm]
  rfl

theorem value_append (as bs : List Char) :
    value (as ++ bs) = value as * 10 ^ bs.length + value bs := by
  simp only [value_eq_ofDigitChars]
  rw [Nat.ofDigitChars_append, Nat.ofDigitChars_eq_ofDigitChars_zero, Nat.mul_comm]

theorem digit_le {c : Char} (h : c.isDigit = true) : digit c ≤ 9 := by
  have upper := (Char.isDigit_iff_toNat.1 h).2
  exact Nat.sub_le_sub_right upper _

theorem lt_iff_digit_lt {c d : Char} (hc : c.isDigit = true) (hd : d.isDigit = true) :
    c < d ↔ digit c < digit d := by
  have lower := (Char.isDigit_iff_toNat.1 hc).1
  have lower' := (Char.isDigit_iff_toNat.1 hd).1
  have order : c < d ↔ c.toNat < d.toNat := UInt32.lt_iff_toNat_lt
  rw [order, digit, digit]
  omega

theorem eq_iff_digit_eq {c d : Char} (hc : c.isDigit = true) (hd : d.isDigit = true) :
    c = d ↔ digit c = digit d := by
  have lower := (Char.isDigit_iff_toNat.1 hc).1
  have lower' := (Char.isDigit_iff_toNat.1 hd).1
  rw [← Char.toNat_inj, digit, digit]
  omega

theorem value_lt {cs : List Char} (h : AreDigits cs) : value cs < 10 ^ cs.length := by
  induction cs with
  | nil => decide
  | cons c cs ih =>
    obtain ⟨first, rest⟩ := List.forall_mem_cons.1 h
    have bound : digit c * 10 ^ cs.length ≤ 9 * 10 ^ cs.length :=
      Nat.mul_le_mul_right _ (digit_le first)
    have within := ih rest
    rw [value_cons, List.length_cons, Nat.pow_succ]
    omega

/-- The first digit in which two numbers differ decides. -/
theorem value_cons_lt {c d : Char} {as bs : List Char} (ha : AreDigits as)
    (same : as.length = bs.length) (less : digit c < digit d) :
    value (c :: as) < value (d :: bs) := by
  have within := value_lt ha
  have bound : (digit c + 1) * 10 ^ as.length ≤ digit d * 10 ^ as.length :=
    Nat.mul_le_mul_right _ less
  rw [value_cons, value_cons, ← same]
  rw [Nat.add_mul] at bound
  omega

/-- Numbers are in the order of their texts. -/
theorem lt_iff_value_lt {as bs : List Char} (ha : AreDigits as) (hb : AreDigits bs)
    (same : as.length = bs.length) : as < bs ↔ value as < value bs := by
  induction as generalizing bs with
  | nil =>
    obtain rfl : bs = [] := List.eq_nil_of_length_eq_zero same.symm
    simp
  | cons c as ih =>
    cases bs with
    | nil => simp at same
    | cons d bs =>
      obtain ⟨hc, ha⟩ := List.forall_mem_cons.1 ha
      obtain ⟨hd, hb⟩ := List.forall_mem_cons.1 hb
      have same := Nat.succ.inj same
      rw [List.cons_lt_cons_iff, lt_iff_digit_lt hc hd, eq_iff_digit_eq hc hd, ih ha hb same]
      obtain less | equal | greater := Nat.lt_trichotomy (digit c) (digit d)
      · exact iff_of_true (.inl less) (value_cons_lt ha same less)
      · rw [value_cons, value_cons, equal, same]
        omega
      · have := value_cons_lt hb same.symm greater
        omega

/-- The number tells the digits. -/
theorem eq_of_value_eq {as bs : List Char} (ha : AreDigits as) (hb : AreDigits bs)
    (same : as.length = bs.length) (value_eq : value as = value bs) : as = bs := by
  induction as generalizing bs with
  | nil => exact (List.eq_nil_of_length_eq_zero same.symm).symm
  | cons c as ih =>
    cases bs with
    | nil => simp at same
    | cons d bs =>
      obtain ⟨hc, ha⟩ := List.forall_mem_cons.1 ha
      obtain ⟨hd, hb⟩ := List.forall_mem_cons.1 hb
      have same := Nat.succ.inj same
      obtain less | equal | greater := Nat.lt_trichotomy (digit c) (digit d)
      · have := value_cons_lt ha same less
        omega
      · rw [value_cons, value_cons, equal, same, Nat.add_left_cancel_iff] at value_eq
        rw [(eq_iff_digit_eq hc hd).2 equal, ih ha hb same value_eq]
      · have := value_cons_lt hb same.symm greater
        omega

end Decimal

/-! ## Texts of a fixed width -/

namespace Date

open Decimal (AreDigits value)

variable {width n : Nat}

theorem toList_padded (width n : Nat) : (padded width n).toList =
    List.replicate (width - (Nat.toDigits 10 n).length) '0' ++ Nat.toDigits 10 n := by
  simp [padded]

theorem areDigits_padded (width n : Nat) : AreDigits (padded width n).toList := by
  rw [toList_padded, Decimal.areDigits_append]
  constructor
  · intro c member
    rw [List.eq_of_mem_replicate member]
    decide
  · exact Decimal.areDigits_toDigits n

theorem length_padded (pos : 0 < width) (fits : n < 10 ^ width) :
    (padded width n).toList.length = width := by
  have short := (Nat.length_toDigits_le_iff (by decide) pos).2 fits
  rw [toList_padded, List.length_append, List.length_replicate]
  omega

@[simp] theorem value_padded (width n : Nat) : value (padded width n).toList = n := by
  rw [toList_padded, Decimal.value_eq_ofDigitChars, Nat.ofDigitChars_append,
    Nat.ofDigitChars_replicate_zero, Nat.mul_zero,
    Nat.ofDigitChars_toDigits (by decide) (by decide)]

/-- A list of digits is the text of its number in as many digits. -/
theorem padded_value {cs : List Char} (digits : AreDigits cs) (pos : 0 < cs.length) :
    (padded cs.length (value cs)).toList = cs :=
  Decimal.eq_of_value_eq (areDigits_padded _ _) digits
    (length_padded pos (Decimal.value_lt digits)) (value_padded _ _)

end Date

end Metering

import Metering.Alert
import Metering.Proofs.Decimal.Digits

/-!
# Numbers and keys as texts

The side store holds texts only. A number that fits comes back from its decimal text, so a field
that was written can be read. A key ends with the digits of a subscription behind a colon, and
digits hold no colon, so the key tells the subscription and whether the record is of a quota or of
an alert.

Results: `Decimal.int64?_repr`, `Alert.parseLevel_fieldText`; `Quota.Settings.key_inj`,
`Alert.Settings.key_inj`, `Quota.Settings.key_ne_alert`.
-/

namespace Metering

namespace Decimal

/-- A number of 63 bits comes back from its text. -/
theorem int64?_repr {n : Nat} (fits : n ≤ Quota.maxField) :
    int64? (Nat.repr n) = some (n : Int) := by
  obtain ⟨c, cs, text, plus, minus⟩ := toDigits_cases n
  have read := digits?_toDigits n
  unfold Quota.maxField at fits
  unfold int64? signed?
  rw [Nat.toList_repr, text] at *
  split
  · next same => exact absurd (List.cons.inj same).1 plus
  · next same => exact absurd (List.cons.inj same).1 minus
  · simp only [read, Option.map_some, Option.filter_some, Int.ofNat_eq_natCast]
    rw [if_pos (by simp; omega)]

end Decimal

/-! ## Keys -/

/-- The part before the first colon, and the part behind it. -/
theorem colon_append_inj {x y a b : List Char} (hx : ':' ∉ x) (hy : ':' ∉ y)
    (same : x ++ ':' :: a = y ++ ':' :: b) : x = y ∧ a = b := by
  induction x generalizing y with
  | nil =>
    cases y with
    | nil => exact ⟨rfl, (List.cons.inj same).2⟩
    | cons c y => exact absurd (List.cons.inj same).1 (List.ne_of_not_mem_cons hy)
  | cons c x ih =>
    cases y with
    | nil => exact absurd (List.cons.inj same).1.symm (List.ne_of_not_mem_cons hx)
    | cons d y =>
      obtain ⟨heads, tails⟩ := List.cons.inj same
      obtain ⟨rest, suffixes⟩ :=
        ih (List.not_mem_of_not_mem_cons hx) (List.not_mem_of_not_mem_cons hy) tails
      exact ⟨heads ▸ rest ▸ rfl, suffixes⟩

/-- The part behind the last colon, and the part before it. -/
theorem append_colon_inj {a b x y : List Char} (hx : ':' ∉ x) (hy : ':' ∉ y)
    (same : a ++ ':' :: x = b ++ ':' :: y) : a = b ∧ x = y := by
  have turned : x.reverse ++ ':' :: a.reverse = y.reverse ++ ':' :: b.reverse := by
    have h := congrArg List.reverse same
    simpa using h
  obtain ⟨suffixes, stems⟩ := colon_append_inj (by simpa using hx) (by simpa using hy) turned
  exact ⟨List.reverse_inj.1 stems, List.reverse_inj.1 suffixes⟩

/-- A stem and the digits of a subscription, with a colon between them, can be told apart. -/
theorem stem_colon_inj {a b stem stem' : String} {s t : Id} (ha : stem.toList = a.toList ++ [':'])
    (hb : stem'.toList = b.toList ++ [':'])
    (same : stem ++ Nat.repr s.toNat = stem' ++ Nat.repr t.toNat) : a = b ∧ s = t := by
  have lists : a.toList ++ ':' :: Nat.toDigits 10 s.toNat =
      b.toList ++ ':' :: Nat.toDigits 10 t.toNat := by
    have h := congrArg String.toList same
    simpa [ha, hb] using h
  obtain ⟨stems, digits⟩ := append_colon_inj (Decimal.areDigits_toDigits _).colon_notMem
    (Decimal.areDigits_toDigits _).colon_notMem lists
  exact ⟨String.toList_inj.1 stems, UInt64.toNat_inj.1 (Decimal.toDigits_inj digits)⟩

theorem Quota.Settings.key_inj (c : Settings) {s t : Id} (same : c.key s = c.key t) : s = t :=
  (stem_colon_inj (a := c.keyPrefix ++ ":quota") (b := c.keyPrefix ++ ":quota")
    (by simp) (by simp) same).2

theorem Alert.Settings.key_inj (c : Settings) {s t : Id} (same : c.key s = c.key t) : s = t :=
  (stem_colon_inj (a := c.keyPrefix ++ ":alert") (b := c.keyPrefix ++ ":alert")
    (by simp) (by simp) same).2

/-- A record of a quota is never one of an alert, whatever the prefixes are. -/
theorem Quota.Settings.key_ne_alert (c : Settings) (c' : Alert.Settings) (s t : Id) :
    c.key s ≠ c'.key t := by
  intro same
  have stems := (stem_colon_inj (a := c.keyPrefix ++ ":quota") (b := c'.keyPrefix ++ ":alert")
    (by simp) (by simp) same).1
  have ends := congrArg (fun text => text.toList.reverse.head?) stems
  simp at ends

/-! ## Levels -/

theorem Alert.parseLevel_fieldText (level : Level) : parseLevel (fieldText level) = .ok level := by
  have fits : level.toNat ≤ 255 := Nat.lt_succ_iff.1 level.toNat_lt
  unfold parseLevel fieldText
  rw [Decimal.unsigned?_repr fits]
  exact congrArg _ (UInt8.ofNat_toNat)

theorem Alert.fieldText_inj {level level' : Level} (same : fieldText level = fieldText level') :
    level = level' := by
  have read := congrArg parseLevel same
  rw [parseLevel_fieldText, parseLevel_fieldText] at read
  exact Except.ok.inj read

end Metering

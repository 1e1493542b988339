import Metering.Key
import Metering.Proofs.Decimal.Digits
import Metering.Proofs.Time.Calendar
import Metering.Proofs.Time.Days

/-!
# Labels of hours

The label of an hour is its local date and its hour in ten digits, from the year down. So it is read
back to the same hour, every text that is read is the label of what it is read as, and labels are in
the order of their hours. This holds while the local year has four digits.

Results:
1. `Zone.bucket?_eq_ok_iff`: what is accepted as a label, and for which hour.
2. `Bucket.parseBucket_label`, `Bucket.of_parseBucket`: labels are read back.
3. `Bucket.label_lt_iff`: labels are in the order of their hours.
-/

namespace Metering

open Decimal (AreDigits value)

/-- The local year has four digits. -/
def Moment.HasFourDigitYear (m : Moment) : Prop := 0 ≤ m.date.year ∧ m.date.year ≤ 9999

instance (m : Moment) : Decidable m.HasFourDigitYear := inferInstanceAs (Decidable (_ ∧ _))

/-! ## Written hours -/

namespace Date

/-- A date and an hour of it, which can be written as a label. -/
structure IsWritable (d : Date) (hour : Int) : Prop where
  valid : d.isValid = true
  year : 0 ≤ d.year ∧ d.year ≤ 9999
  hour : 0 ≤ hour ∧ hour < 24

/-- A date and an hour in ten digits. -/
def hourText (d : Date) (hour : Int) : String :=
  yearText d.year ++ padded 2 d.month.toNat ++ padded 2 d.day.toNat ++ padded 2 hour.toNat

variable {d : Date} {hour : Int}

/-- The four numbers of a written hour, in digits. -/
theorem IsWritable.toList_hourText (h : IsWritable d hour) :
    ∃ year month day hours : List Char,
      (d.hourText hour).toList = year ++ (month ++ (day ++ hours)) ∧
      (AreDigits year ∧ AreDigits month ∧ AreDigits day ∧ AreDigits hours) ∧
      (year.length = 4 ∧ month.length = 2 ∧ day.length = 2 ∧ hours.length = 2) ∧
      (value year = d.year ∧ value month = d.month ∧ value day = d.day ∧ value hours = hour) := by
  obtain ⟨valid, year, hours⟩ := h
  obtain ⟨month, day, length⟩ := isValid_iff.1 valid
  have most := daysInMonth_le d.year d.month
  refine ⟨_, _, _, _, ?_, ⟨areDigits_padded 4 d.year.toNat, areDigits_padded 2 d.month.toNat,
    areDigits_padded 2 d.day.toNat, areDigits_padded 2 hour.toNat⟩, ⟨?_, ?_, ?_, ?_⟩, ?_⟩
  · unfold hourText yearText
    rw [if_pos year]
    simp
  · exact length_padded (by decide) (by omega)
  · exact length_padded (by decide) (by omega)
  · exact length_padded (by decide) (by omega)
  · exact length_padded (by decide) (by omega)
  · simp only [value_padded]
    omega

/-- Four numbers in digits are the written form of the date and the hour that they name. -/
theorem hourText_of_parts {year month day hours : List Char}
    (digits : AreDigits year ∧ AreDigits month ∧ AreDigits day ∧ AreDigits hours)
    (lengths : year.length = 4 ∧ month.length = 2 ∧ day.length = 2 ∧ hours.length = 2) :
    (hourText ⟨value year, value month, value day⟩ (value hours)).toList =
      year ++ (month ++ (day ++ hours)) := by
  obtain ⟨dy, dm, dd, dh⟩ := digits
  obtain ⟨hy, hm, hd, hh⟩ := lengths
  have fits : value year < 10 ^ 4 := hy ▸ Decimal.value_lt dy
  have written {cs : List Char} {size : Nat} (digits : AreDigits cs) (length : cs.length = size)
      (pos : 0 < size) : (padded size (value cs)).toList = cs := by
    subst length
    exact padded_value digits pos
  unfold hourText yearText
  rw [if_pos (by dsimp only; omega)]
  simp only [Int.toNat_natCast, String.toList_append, List.append_assoc, written dy hy (by decide),
    written dm hm (by decide), written dd hd (by decide), written dh hh (by decide)]

end Date

/-- The part of a list behind a first part. -/
theorem take_drop_append {α : Type} {before part after : List α} {start size : Nat}
    (starts : before.length = start) (sized : part.length = size) :
    ((before ++ (part ++ after)).drop start).take size = part := by
  rw [List.drop_left' starts, List.take_left' sized]

namespace Zone

variable {z : Zone} {label : String} {b : Bucket}

/-- Four numbers, of four and three times two digits, are read as a date and an hour. -/
theorem bucket?_of_toList {year month day hours : List Char}
    (parts : label.toList = year ++ (month ++ (day ++ hours)))
    (digits : AreDigits year ∧ AreDigits month ∧ AreDigits day ∧ AreDigits hours)
    (lengths : year.length = 4 ∧ month.length = 2 ∧ day.length = 2 ∧ hours.length = 2) :
    z.bucket? label =
      let date : Date := ⟨value year, value month, value day⟩
      if date.isValid ∧ (value hours : Int) < 24 then .ok ⟨z, date.toDays * 24 + value hours⟩
      else .error .date := by
  obtain ⟨hy, hm, hd, hh⟩ := lengths
  have shape : label.toList.length = 10 ∧ label.toList.all (·.isDigit) = true := by
    rw [Decimal.all_isDigit_iff, parts]
    simp only [List.length_append, Decimal.areDigits_append]
    exact ⟨by omega, digits⟩
  have years : (label.toList.drop 0).take 4 = year :=
    parts ▸ List.take_left' hy
  have months : (label.toList.drop 4).take 2 = month := parts ▸ take_drop_append hy hm
  have days : (label.toList.drop 6).take 2 = day := by
    rw [parts, ← List.append_assoc]
    exact take_drop_append (by simp [hy, hm]) hd
  have hour : (label.toList.drop 8).take 2 = hours := by
    rw [parts, ← List.append_assoc, ← List.append_assoc, List.drop_left' (by simp [hy, hm, hd])]
    exact List.take_of_length_le hh.le
  unfold bucket?
  simp only [if_pos shape, years, months, days, hour]

/-- A list of ten is cut into four and three times two. -/
theorem exists_parts {cs : List Char} (length : cs.length = 10) :
    ∃ year month day hours : List Char, cs = year ++ (month ++ (day ++ hours)) ∧
      (year.length = 4 ∧ month.length = 2 ∧ day.length = 2 ∧ hours.length = 2) := by
  refine ⟨cs.take 4, (cs.drop 4).take 2, ((cs.drop 4).drop 2).take 2, ((cs.drop 4).drop 2).drop 2,
    ?_, ?_⟩
  · rw [List.take_append_drop, List.take_append_drop, List.take_append_drop]
  · simp [length]

/-- What is accepted as a label: ten digits that name a date and an hour. -/
theorem bucket?_eq_ok_iff_parts : z.bucket? label = .ok b ↔
    ∃ year month day hours : List Char, label.toList = year ++ (month ++ (day ++ hours)) ∧
      (AreDigits year ∧ AreDigits month ∧ AreDigits day ∧ AreDigits hours) ∧
      (year.length = 4 ∧ month.length = 2 ∧ day.length = 2 ∧ hours.length = 2) ∧
      (Date.isValid ⟨value year, value month, value day⟩ = true ∧ value hours < 24) ∧
      b = ⟨z, Date.toDays ⟨value year, value month, value day⟩ * 24 + value hours⟩ := by
  constructor
  · intro read
    have shape : label.toList.length = 10 ∧ label.toList.all (·.isDigit) = true := by
      by_contra other
      simp only [bucket?, if_neg other, reduceCtorEq] at read
    obtain ⟨length, digits⟩ := shape
    rw [Decimal.all_isDigit_iff] at digits
    obtain ⟨year, month, day, hours, parts, lengths⟩ := exists_parts length
    rw [parts] at digits
    simp only [Decimal.areDigits_append] at digits
    rw [bucket?_of_toList parts digits lengths] at read
    dsimp only at read
    split at read
    · next named =>
      cases read
      exact ⟨year, month, day, hours, parts, digits, lengths, ⟨named.1, by omega⟩, rfl⟩
    · cases read
  · rintro ⟨year, month, day, hours, parts, digits, lengths, ⟨valid, within⟩, rfl⟩
    rw [bucket?_of_toList parts digits lengths]
    exact if_pos ⟨valid, by omega⟩

/-- What is accepted as a label is a written hour, and is read as that hour. -/
theorem bucket?_eq_ok_iff : z.bucket? label = .ok b ↔ ∃ (d : Date) (hour : Int),
    d.IsWritable hour ∧ label = d.hourText hour ∧ b = ⟨z, d.toDays * 24 + hour⟩ := by
  rw [bucket?_eq_ok_iff_parts]
  constructor
  · rintro ⟨year, month, day, hours, parts, digits, lengths, ⟨valid, within⟩, rfl⟩
    have fits : value year < 10 ^ 4 := lengths.1 ▸ Decimal.value_lt digits.1
    refine ⟨_, value hours, ⟨valid, ⟨?_, ?_⟩, by omega⟩, ?_, rfl⟩
    · exact Int.natCast_nonneg _
    · exact Int.lt_add_one_iff.1 (Int.ofNat_lt.2 fits)
    rw [← String.toList_inj, parts]
    exact (Date.hourText_of_parts digits lengths).symm
  · rintro ⟨d, hour, writable, rfl, rfl⟩
    obtain ⟨year, month, day, hours, parts, digits, lengths, hy, hm, hd, hh⟩ :=
      writable.toList_hourText
    refine ⟨year, month, day, hours, parts, digits, lengths, ?_⟩
    rw [hy, hm, hd, hh]
    have within := writable.hour.2
    exact ⟨⟨writable.valid, by omega⟩, rfl⟩

theorem parseBucket_eq_ok_iff : z.parseBucket label = .ok b ↔ z.bucket? label = .ok b := by
  unfold parseBucket
  split <;> simp_all

end Zone

/-! ## Labels -/

namespace Bucket

variable {a b : Bucket}

theorem date_moment (b : Bucket) : b.moment.date = Date.ofDays (b.hour / 24) := by
  unfold Moment.date
  rw [localSeconds_moment]
  congr 1
  omega

theorem label_eq (b : Bucket) : b.label = b.moment.date.hourText (b.hour % 24) := by
  rw [date_moment]
  rfl

theorem toDays_date_moment (b : Bucket) : b.moment.date.toDays = b.hour / 24 := by
  rw [date_moment, Date.toDays_ofDays]

theorem isWritable (fits : b.moment.HasFourDigitYear) : b.moment.date.IsWritable (b.hour % 24) where
  valid := Date.isValid_ofDays _
  year := fits
  hour := by omega

/-- A label is read back. -/
theorem parseBucket_label (fits : b.moment.HasFourDigitYear) :
    b.zone.parseBucket b.label = .ok b := by
  rw [Zone.parseBucket_eq_ok_iff, Zone.bucket?_eq_ok_iff]
  refine ⟨_, _, isWritable fits, b.label_eq, Bucket.ext rfl ?_⟩
  dsimp only
  rw [toDays_date_moment]
  omega

/-- Where a label is read, its hour lies in a year of four digits. -/
theorem of_parseBucket {z : Zone} {label : String} (read : z.parseBucket label = .ok b) :
    b.zone = z ∧ b.moment.HasFourDigitYear ∧ b.label = label := by
  rw [Zone.parseBucket_eq_ok_iff, Zone.bucket?_eq_ok_iff] at read
  obtain ⟨d, hour, ⟨valid, year, within⟩, rfl, rfl⟩ := read
  have day : (d.toDays * 24 + hour) / 24 = d.toDays := by omega
  have date : (Bucket.mk z (d.toDays * 24 + hour)).moment.date = d := by
    rw [date_moment, day, Date.ofDays_toDays valid]
  refine ⟨rfl, ?_, ?_⟩
  · unfold Moment.HasFourDigitYear
    rw [date]
    exact year
  · rw [label_eq, date]
    congr 1
    dsimp only
    omega

/-! ## Order -/

/-- The digits of a label, and the number that they make. -/
theorem toList_label (fits : b.moment.HasFourDigitYear) :
    AreDigits b.label.toList ∧ b.label.toList.length = 10 ∧
      (value b.label.toList : Int) = b.moment.date.number * 100 + b.hour % 24 := by
  obtain ⟨year, month, day, hours, parts, digits, ⟨hy, hm, hd, hh⟩, vy, vm, vd, vh⟩ :=
    (isWritable fits).toList_hourText
  rw [label_eq, parts]
  simp only [Decimal.areDigits_append, Decimal.value_append, List.length_append, hm, hd, hh, hy]
  refine ⟨digits, trivial, ?_⟩
  unfold Date.number
  omega

/-- Hours of one zone are in the order of their numbers. -/
theorem lt_iff_hour_lt (same : a.zone = b.zone) : a < b ↔ a.hour < b.hour := by
  rw [lt_def, startSeconds, startSeconds, same]
  omega

/-- Hours are in the order of the numbers of their dates, and on one day of the hours. -/
theorem hour_lt_iff : a.hour < b.hour ↔
    a.moment.date.number * 100 + a.hour % 24 < b.moment.date.number * 100 + b.hour % 24 := by
  have order (c d : Bucket) := Date.toDays_lt_iff (a := c.moment.date) (b := d.moment.date)
    (Date.isValid_ofDays _) (Date.isValid_ofDays _)
  have before := order a b
  have after := order b a
  rw [toDays_date_moment, toDays_date_moment] at before after
  obtain earlier | same | later := Int.lt_trichotomy (a.hour / 24) (b.hour / 24)
  · have less := before.1 earlier
    omega
  · rw [date_moment, date_moment, same]
    omega
  · have less := after.1 later
    omega

/-- Labels are in the order of their hours. -/
theorem label_lt_iff (same : a.zone = b.zone) (ha : a.moment.HasFourDigitYear)
    (hb : b.moment.HasFourDigitYear) : a.label < b.label ↔ a < b := by
  obtain ⟨da, la, va⟩ := toList_label ha
  obtain ⟨db, lb, vb⟩ := toList_label hb
  have texts : a.label < b.label ↔ a.label.toList < b.label.toList := Iff.rfl
  rw [texts, Decimal.lt_iff_value_lt da db (la.trans lb.symm), lt_iff_hour_lt same, hour_lt_iff]
  omega

theorem score_lt_iff (same : a.zone = b.zone) : a.score < b.score ↔ a < b := by
  rw [lt_def, score, score, startSeconds, startSeconds, same]
  omega

theorem score_next (b : Bucket) : b.next.score = b.score + 1 := by
  unfold score startSeconds next
  dsimp only
  omega

end Bucket

end Metering

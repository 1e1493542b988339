import Mathlib.Order.Monotone.Basic
import Mathlib.Tactic.IntervalCases
import Metering.Time.Calendar

/-!
# Days and dates

The conversion between days and dates goes through years that start in March. Seen from outside it
is the plain calendar: a month starts when the month before it has had its days. So every day is the
day of exactly one date, and days are in the order of their dates, also before 1970.

Results:
1. `Date.firstOfMonth_succ`: a month has its number of days.
2. `Date.ofDays_toDays`, `Date.toDays_ofDays`, `Date.isValid_ofDays`: days and valid dates are the
   same.
3. `Date.toDays_lt_iff`: they are in the same order.
-/

namespace Metering.Date

theorem isValid_iff {d : Date} : d.isValid = true ↔
    (1 ≤ d.month ∧ d.month ≤ 12) ∧ 1 ≤ d.day ∧ d.day ≤ daysInMonth d.year d.month := by
  simp only [isValid, Bool.and_eq_true, decide_eq_true_eq, and_assoc]

theorem isLeapYear_iff {year : Int} :
    isLeapYear year = true ↔ year % 4 = 0 ∧ (year % 100 ≠ 0 ∨ year % 400 = 0) := by
  simp [isLeapYear]

theorem daysInMonth_pos (year month : Int) : 0 < daysInMonth year month := by
  unfold daysInMonth
  split <;> split <;> decide

theorem daysInMonth_le (year month : Int) : daysInMonth year month ≤ 31 := by
  unfold daysInMonth
  split <;> split <;> decide

/-! ## Years from March -/

/-- Days before the March of a year, counted from that of year zero. -/
def daysBeforeMarch (year : Int) : Int := 365 * year + year / 4 - year / 100 + year / 400

theorem cycle_add_daysBeforeYear (year : Int) :
    year / 400 * cycleDays + daysBeforeYear (year % 400) = daysBeforeMarch year := by
  unfold cycleDays daysBeforeYear daysBeforeMarch
  omega

/-- From the March before a year to the one in it. -/
theorem daysBeforeMarch_eq (year : Int) : daysBeforeMarch year =
    daysBeforeMarch (year - 1) + if isLeapYear year then 366 else 365 := by
  unfold daysBeforeMarch
  split
  · next leap =>
    rw [isLeapYear_iff] at leap
    omega
  · next common =>
    rw [isLeapYear_iff] at common
    omega

/-- The year of a date, counted from March. -/
def marchYear (d : Date) : Int := if d.month ≤ 2 then d.year - 1 else d.year

/-- The month of a date, counted from March. -/
def marchMonth (d : Date) : Int := if d.month ≤ 2 then d.month + 9 else d.month - 3

theorem toDays_eq (d : Date) : d.toDays =
    daysBeforeMarch d.marchYear + daysBeforeMonth d.marchMonth + (d.day - 1) - epochShift := by
  rw [← cycle_add_daysBeforeYear, Int.add_assoc (_ * _), Int.add_assoc (_ * _)]
  rfl

/-! ## Months -/

theorem toDays_nextMonth {year month : Int} (first : 1 ≤ month) (last : month ≤ 11) :
    toDays ⟨year, month + 1, 1⟩ = toDays ⟨year, month, 1⟩ + daysInMonth year month := by
  have spring := daysBeforeMarch_eq year
  rw [toDays_eq, toDays_eq]
  unfold marchYear marchMonth daysBeforeMonth daysInMonth
  obtain rfl | rfl | late : month = 1 ∨ month = 2 ∨ 3 ≤ month := by omega
  · simp
    omega
  · -- only the step from February to March enters a new year, which may have a leap day behind it
    cases leap : isLeapYear year <;> simp [leap] at spring ⊢ <;> omega
  · interval_cases month <;> simp <;> omega

theorem toDays_nextYear (year : Int) :
    toDays ⟨year + 1, 1, 1⟩ = toDays ⟨year, 12, 1⟩ + daysInMonth year 12 := by
  rw [toDays_eq, toDays_eq]
  simp [marchYear, marchMonth, daysBeforeMonth, daysInMonth]
  omega

/-- Number of the month of a date since the start of year zero. -/
def monthIndex (d : Date) : Int := d.year * 12 + (d.month - 1)

/-- The day on which a month starts. -/
def firstOfMonth (index : Int) : Int := toDays ⟨index / 12, index % 12 + 1, 1⟩

/-- A month starts when the month before it has had its days. -/
theorem firstOfMonth_succ (index : Int) : firstOfMonth (index + 1) =
    firstOfMonth index + daysInMonth (index / 12) (index % 12 + 1) := by
  unfold firstOfMonth
  by_cases december : index % 12 = 11
  · have year : (index + 1) / 12 = index / 12 + 1 := by omega
    have month : (index + 1) % 12 = 0 := by omega
    rw [year, month, december]
    exact toDays_nextYear _
  · have year : (index + 1) / 12 = index / 12 := by omega
    have month : (index + 1) % 12 = index % 12 + 1 := by omega
    rw [year, month]
    exact toDays_nextMonth (by omega) (by omega)

theorem firstOfMonth_lt_succ (index : Int) : firstOfMonth index < firstOfMonth (index + 1) := by
  rw [firstOfMonth_succ]
  have := daysInMonth_pos (index / 12) (index % 12 + 1)
  omega

theorem firstOfMonth_mono {index index' : Int} (le : index ≤ index') :
    firstOfMonth index ≤ firstOfMonth index' :=
  (strictMono_int_of_lt_succ firstOfMonth_lt_succ).monotone le

section Valid

variable {d : Date} (valid : d.isValid = true)
include valid

theorem monthIndex_div : d.monthIndex / 12 = d.year := by
  have := (isValid_iff.1 valid).1
  unfold monthIndex
  omega

theorem monthIndex_mod : d.monthIndex % 12 + 1 = d.month := by
  have := (isValid_iff.1 valid).1
  unfold monthIndex
  omega

/-- A date lies as many days behind the start of its month as its day says. -/
theorem toDays_eq_firstOfMonth : d.toDays = firstOfMonth d.monthIndex + (d.day - 1) := by
  unfold firstOfMonth
  rw [monthIndex_div valid, monthIndex_mod valid, toDays_eq, toDays_eq]
  unfold marchYear marchMonth
  dsimp only
  omega

theorem toDays_lt_firstOfMonth : d.toDays < firstOfMonth (d.monthIndex + 1) := by
  rw [firstOfMonth_succ, monthIndex_div valid, monthIndex_mod valid, toDays_eq_firstOfMonth valid]
  have := (isValid_iff.1 valid).2.2
  omega

end Valid

/-! ## Days and dates -/

theorem toDays_lt_of_month {a b : Date} (ha : a.isValid = true) (hb : b.isValid = true)
    (earlier : a.monthIndex < b.monthIndex) : a.toDays < b.toDays := by
  have started : firstOfMonth (a.monthIndex + 1) ≤ firstOfMonth b.monthIndex :=
    firstOfMonth_mono earlier
  have ended := toDays_lt_firstOfMonth ha
  have day := (isValid_iff.1 hb).2.1
  rw [toDays_eq_firstOfMonth hb]
  omega

/-- Year, month and day in one number, with two digits for the month and for the day. -/
def number (d : Date) : Int := (d.year * 100 + d.month) * 100 + d.day

/-- Days are in the order of the numbers of their dates. -/
theorem toDays_lt_iff {a b : Date} (ha : a.isValid = true) (hb : b.isValid = true) :
    a.toDays < b.toDays ↔ a.number < b.number := by
  obtain ⟨monthA, dayA, lengthA⟩ := isValid_iff.1 ha
  obtain ⟨monthB, dayB, lengthB⟩ := isValid_iff.1 hb
  have mostA := daysInMonth_le a.year a.month
  have mostB := daysInMonth_le b.year b.month
  obtain earlier | same | later := Int.lt_trichotomy a.monthIndex b.monthIndex
  · refine iff_of_true (toDays_lt_of_month ha hb earlier) ?_
    unfold monthIndex at earlier
    unfold number
    omega
  · rw [toDays_eq_firstOfMonth ha, toDays_eq_firstOfMonth hb, same]
    unfold monthIndex at same
    unfold number
    omega
  · have follows := toDays_lt_of_month hb ha later
    unfold monthIndex at later
    unfold number
    omega

/-! ### From days to dates -/

/-- Days of the year of a date, counted from its March. -/
def dayOfYear (d : Date) : Int := daysBeforeMonth d.marchMonth + (d.day - 1)

/-- The month is told by the days since March. -/
theorem month_of_dayOfYear {d : Date} (valid : d.isValid = true) :
    (5 * d.dayOfYear + 2) / 153 = d.marchMonth := by
  obtain ⟨⟨first, last⟩, day, length⟩ := isValid_iff.1 valid
  have most := daysInMonth_le d.year d.month
  obtain ⟨year, month, day⟩ := d
  unfold dayOfYear daysBeforeMonth marchMonth
  unfold daysInMonth at length
  dsimp only at *
  interval_cases month <;> simp at * <;> omega

/-- A year from March on has a day more where it ends with a leap day. -/
theorem dayOfYear_bounds {d : Date} (valid : d.isValid = true) : 0 ≤ d.dayOfYear ∧
    d.dayOfYear ≤ if isLeapYear (d.marchYear % 400 + 1) then 365 else 364 := by
  obtain ⟨⟨first, last⟩, day, length⟩ := isValid_iff.1 valid
  have most := daysInMonth_le d.year d.month
  obtain ⟨year, month, day⟩ := d
  unfold dayOfYear daysBeforeMonth marchMonth marchYear
  dsimp only at *
  by_cases february : month = 2
  · subst february
    have same : isLeapYear ((year - 1) % 400 + 1) = isLeapYear year := by
      rw [Bool.eq_iff_iff, isLeapYear_iff, isLeapYear_iff]
      omega
    simp only [daysInMonth, if_true, if_pos (Int.le_refl 2), same] at length ⊢
    split at length <;> simp_all <;> omega
  · split <;> split <;> omega

/-- A year of a cycle is told by the days since the cycle began. Within four years the leap day
comes last, and so it does within a cycle; within a century it is the last day that is missing. -/
theorem year_of_dayOfCycle {year day : Int} (first : 0 ≤ year) (last : year < 400) (past : 0 ≤ day)
    (within : day ≤ if isLeapYear (year + 1) then 365 else 364) :
    let days := daysBeforeYear year + day
    (0 ≤ days ∧ days < cycleDays) ∧
      (days - days / 1460 + days / 36524 - days / 146096) / 365 = year := by
  obtain ⟨c, q, s, hc, hq, hs, rfl⟩ : ∃ c q s : Int, (0 ≤ c ∧ c ≤ 3) ∧ (0 ≤ q ∧ q ≤ 24) ∧
      (0 ≤ s ∧ s ≤ 3) ∧ year = 100 * c + 4 * q + s :=
    ⟨year / 100, year % 100 / 4, year % 4, by omega, by omega, by omega, by omega⟩
  have leap : day ≤ 364 ∨ day = 365 ∧ s = 3 ∧ (q ≤ 23 ∨ q = 24 ∧ c = 3) := by
    split at within
    · next leap =>
      rw [isLeapYear_iff] at leap
      omega
    · exact .inl within
  intro days
  have parts : days = 36524 * c + (1461 * q + 365 * s + day) := by
    simp only [days, daysBeforeYear]
    omega
  have centuries : days / 36524 - days / 146096 = c := by
    obtain within | ⟨rfl, rfl, rfl, rfl⟩ : 1461 * q + 365 * s + day < 36524 ∨
        day = 365 ∧ s = 3 ∧ q = 24 ∧ c = 3 := by omega
    · omega
    · rw [parts]
      decide
  have fours : days / 1460 =
      25 * c + q + if 24 * c + q + 365 * s + day < 1460 then 0 else 1 := by
    split <;> omega
  refine ⟨?_, ?_⟩
  · unfold cycleDays
    omega
  · rw [Int.add_sub_assoc, centuries, fours]
    split <;> omega

/-- A valid date is read off the number of its day. -/
theorem ofDays_toDays {d : Date} (valid : d.isValid = true) : ofDays d.toDays = d := by
  obtain ⟨past, within⟩ := dayOfYear_bounds valid
  obtain ⟨⟨lower, upper⟩, year⟩ := year_of_dayOfCycle (Int.emod_nonneg d.marchYear (by decide))
    (Int.emod_lt_of_pos d.marchYear (by decide)) past within
  have shifted : d.toDays + epochShift = d.marchYear / 400 * cycleDays +
      (daysBeforeYear (d.marchYear % 400) + d.dayOfYear) := by
    rw [toDays_eq, ← cycle_add_daysBeforeYear]
    unfold dayOfYear
    omega
  have cycle : (d.toDays + epochShift) / cycleDays = d.marchYear / 400 := by
    unfold cycleDays at *
    omega
  have inCycle : (d.toDays + epochShift) % cycleDays =
      daysBeforeYear (d.marchYear % 400) + d.dayOfYear := by
    unfold cycleDays at *
    omega
  have inYear : daysBeforeYear (d.marchYear % 400) + d.dayOfYear -
      daysBeforeYear (d.marchYear % 400) = d.dayOfYear := by omega
  have day : d.dayOfYear - daysBeforeMonth d.marchMonth + 1 = d.day := by
    unfold dayOfYear
    omega
  unfold ofDays
  simp only [cycle, inCycle, year, inYear, month_of_dayOfYear valid, day]
  obtain ⟨first, last⟩ := (isValid_iff.1 valid).1
  obtain ⟨yearOf, month, dayOf⟩ := d
  unfold marchYear marchMonth
  dsimp only at *
  split <;> simp <;> omega

/-! ### Every day has a date -/

theorem toDays_mk_day (year month day : Int) :
    toDays ⟨year, month, day⟩ = toDays ⟨year, month, 1⟩ + (day - 1) := by
  rw [toDays_eq, toDays_eq]
  unfold marchYear marchMonth
  dsimp only
  omega

/-- The dates of a month are the days up to the start of the next one. -/
theorem exists_date_of_month {index day : Int} (started : firstOfMonth index ≤ day)
    (goes : day < firstOfMonth (index + 1)) : ∃ d : Date, d.isValid = true ∧ d.toDays = day := by
  rw [firstOfMonth_succ] at goes
  unfold firstOfMonth at *
  refine ⟨⟨index / 12, index % 12 + 1, day - toDays ⟨index / 12, index % 12 + 1, 1⟩ + 1⟩, ?_, ?_⟩
  · rw [isValid_iff]
    dsimp only
    omega
  · rw [toDays_mk_day]
    omega

/-- Every day lies in a month, as 1970-01-01 does, and so do the days around one that does. -/
theorem exists_month (day : Int) :
    ∃ index, firstOfMonth index ≤ day ∧ day < firstOfMonth (index + 1) := by
  induction day with
  | zero => exact ⟨1970 * 12, by decide, by decide⟩
  | succ day ih =>
    obtain ⟨index, started, goes⟩ := ih
    have next := firstOfMonth_lt_succ (index + 1)
    by_cases last : firstOfMonth (index + 1) ≤ day + 1
    · exact ⟨index + 1, last, by omega⟩
    · exact ⟨index, by omega, by omega⟩
  | pred day ih =>
    obtain ⟨index, started, goes⟩ := ih
    have previous := firstOfMonth_lt_succ (index - 1)
    rw [Int.sub_add_cancel] at previous
    by_cases first : firstOfMonth index ≤ -day - 1
    · exact ⟨index, first, by omega⟩
    · exact ⟨index - 1, by omega, by rw [Int.sub_add_cancel]; omega⟩

/-- The date of a day is valid, and is the date of that day only. -/
theorem isValid_and_toDays_ofDays (days : Int) :
    (ofDays days).isValid = true ∧ (ofDays days).toDays = days := by
  obtain ⟨index, started, goes⟩ := exists_month days
  obtain ⟨d, valid, rfl⟩ := exists_date_of_month started goes
  rw [ofDays_toDays valid]
  exact ⟨valid, rfl⟩

theorem isValid_ofDays (days : Int) : (ofDays days).isValid = true :=
  (isValid_and_toDays_ofDays days).1

theorem toDays_ofDays (days : Int) : (ofDays days).toDays = days :=
  (isValid_and_toDays_ofDays days).2

end Metering.Date

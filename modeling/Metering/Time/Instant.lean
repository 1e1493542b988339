import Metering.Time.Calendar

/-!
# Instants

An instant is a number of nanoseconds since the start of 1970 in UTC. Its parts are floors, so they
are in order before 1970 too: the fraction of a second is never negative.

Numbers go on for ever, the calendar does not: it has the instants from `Instant.first` to
`Instant.last`. What is reckoned here is not bounded by them; where it has to be, the instants that
are reached are checked with `Instant.InCalendar`.

Written forms: `Instant.text` is the date, the time and `UTC`, with just as many groups of three
digits after the second as the instant needs. A year outside `0` to `9999` carries a sign.
-/

namespace Metering

/-- A point in time. -/
@[ext]
structure Instant where
  /-- Nanoseconds since 1970-01-01T00:00:00 UTC. -/
  nanos : Int
deriving DecidableEq, Inhabited

namespace Instant

instance : Ord Instant := ⟨fun a b => compare a.nanos b.nanos⟩
instance : LT Instant := ⟨fun a b => a.nanos < b.nanos⟩
instance : LE Instant := ⟨fun a b => a.nanos ≤ b.nanos⟩
instance (a b : Instant) : Decidable (a < b) := inferInstanceAs (Decidable (a.nanos < b.nanos))
instance (a b : Instant) : Decidable (a ≤ b) := inferInstanceAs (Decidable (a.nanos ≤ b.nanos))

theorem lt_def {a b : Instant} : a < b ↔ a.nanos < b.nanos := Iff.rfl

theorem le_def {a b : Instant} : a ≤ b ↔ a.nanos ≤ b.nanos := Iff.rfl

instance : Std.TransOrd Instant where
  eq_swap {a b} := (Std.OrientedCmp.eq_swap : compare a.nanos b.nanos = (compare b.nanos a.nanos).swap)
  isLE_trans {a b c} := @Std.TransCmp.isLE_trans Int compare _ a.nanos b.nanos c.nanos

instance : Std.LawfulEqOrd Instant where
  eq_of_compare {a b} h :=
    Instant.ext (@Std.LawfulEqCmp.eq_of_compare Int compare _ a.nanos b.nanos h)

/-- Nanoseconds in a second. -/
def nanosPerSecond : Int := 1000000000

/-- The instant `seconds` after the start of 1970, and `nanos` more. -/
def ofParts (seconds : Int) (nanos : Int) : Instant := ⟨seconds * nanosPerSecond + nanos⟩

/-- The instant `seconds` after the start of 1970. -/
def ofSeconds (seconds : Int) : Instant := ofParts seconds 0

/-- Whole seconds since the start of 1970. -/
def seconds (t : Instant) : Int := t.nanos / nanosPerSecond

/-- Nanoseconds since the start of the second. -/
def subsecond (t : Instant) : Int := t.nanos % nanosPerSecond

/-- `t` moved by a number of nanoseconds. -/
def addNanos (t : Instant) (n : Int) : Instant := ⟨t.nanos + n⟩

/-- `t` moved by a number of seconds. -/
def addSeconds (t : Instant) (n : Int) : Instant := t.addNanos (n * nanosPerSecond)

@[simp] theorem nanos_addNanos (t : Instant) (n : Int) : (t.addNanos n).nanos = t.nanos + n := rfl

@[simp] theorem nanos_addSeconds (t : Instant) (n : Int) :
    (t.addSeconds n).nanos = t.nanos + n * nanosPerSecond := rfl

@[simp] theorem seconds_ofSeconds (n : Int) : (ofSeconds n).seconds = n := by
  unfold ofSeconds ofParts seconds nanosPerSecond
  dsimp only
  omega

/-! ## The calendar -/

/-- The first instant of the calendar, at the start of the year -262143. -/
def first : Instant := .ofSeconds (-8334601228800)

/-- The last instant of the calendar, at the end of the year 262142. -/
def last : Instant := .ofParts 8210266876799 999999999

/-- The calendar has the instant. -/
def InCalendar (t : Instant) : Prop := first ≤ t ∧ t ≤ last

instance (t : Instant) : Decidable t.InCalendar := inferInstanceAs (Decidable (_ ∧ _))

/-- The instant, if the calendar has it. -/
def inCalendar? (t : Instant) : Option Instant := if t.InCalendar then some t else none

end Instant

/-! ## Written dates -/

namespace Date

/-- `n` in decimal digits, at least `width` of them. -/
def padded (width n : Nat) : String :=
  let digits := (Nat.repr n).toList
  String.ofList (List.replicate (width - digits.length) '0' ++ digits)

/-- Four digits, with a sign in front if the year needs one. -/
def yearText (year : Int) : String :=
  if 0 ≤ year ∧ year ≤ 9999 then padded 4 year.toNat
  else if 0 ≤ year then "+" ++ padded 4 year.toNat
  else "-" ++ padded 4 year.natAbs

/-- Year, month and day, with dashes. -/
def text (d : Date) : String :=
  yearText d.year ++ "-" ++ padded 2 d.month.toNat ++ "-" ++ padded 2 d.day.toNat

/-- Hours, minutes and seconds of a second of the day, with colons. -/
def timeText (second : Int) : String :=
  padded 2 (second / 3600).toNat ++ ":" ++ padded 2 (second / 60 % 60).toNat ++ ":" ++
    padded 2 (second % 60).toNat

end Date

namespace Instant

/-- The fraction of a second in three, six or nine digits, whichever is the first exact one. -/
def fractionText (nanos : Nat) : String :=
  if nanos = 0 then ""
  else if nanos % 1000000 = 0 then "." ++ Date.padded 3 (nanos / 1000000)
  else if nanos % 1000 = 0 then "." ++ Date.padded 6 (nanos / 1000)
  else "." ++ Date.padded 9 nanos

/-- Date and time in UTC. -/
def text (t : Instant) : String :=
  let s := t.seconds
  (Date.ofDays (s / 86400)).text ++ " " ++ Date.timeText (s % 86400) ++
    fractionText t.subsecond.toNat ++ " UTC"

example : (ofSeconds 1709266200).text = "2024-03-01 04:10:00 UTC" := by cbv

example : first.text = "-262143-01-01 00:00:00 UTC" ∧
    last.text = "+262142-12-31 23:59:59.999999999 UTC" := by cbv

end Instant

end Metering

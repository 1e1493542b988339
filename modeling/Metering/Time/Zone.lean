import Metering.Time.Instant

/-!
# Zones and local moments

A zone is a fixed offset from UTC, less than a day to either side. A `Moment` is an instant seen in
a zone; its local second number is the one that a clock on the wall would count.

Written form: `Moment.text` is the date, `T`, the time and the offset rounded to minutes.
-/

namespace Metering

/-- A fixed offset from UTC. -/
@[ext]
structure Zone where
  /-- Seconds east of UTC. -/
  offset : Int
  offset_gt : -86400 < offset := by decide
  offset_lt : offset < 86400 := by decide
deriving DecidableEq

namespace Zone

instance : Inhabited Zone := ⟨⟨0, by decide, by decide⟩⟩

/-- The zone at an offset in seconds, if it is less than a day. -/
def ofSeconds? (offset : Int) : Option Zone :=
  if h : -86400 < offset ∧ offset < 86400 then some ⟨offset, h.1, h.2⟩ else none

/-- The zone at an offset in minutes, if it is less than a day. -/
def ofMinutes? (minutes : Int) : Option Zone := ofSeconds? (minutes * 60)

/-- Offset of the business zone where none is given, in minutes. -/
def defaultMinutes : Int := 480

/-- Sign, hours and minutes of the offset, rounded to the nearest minute. -/
def text (z : Zone) : String :=
  let minutes := (z.offset.natAbs + 30) / 60
  (if z.offset < 0 then "-" else "+") ++ Date.padded 2 (minutes / 60) ++ ":" ++
    Date.padded 2 (minutes % 60)

end Zone

/-- An instant seen in a zone. -/
@[ext]
structure Moment where
  instant : Instant
  zone : Zone
deriving DecidableEq, Inhabited

namespace Moment

/-- Moments are in the order of their instants. -/
instance : Ord Moment :=
  ⟨compareLex (compareOn (·.instant)) (compareOn (·.zone.offset))⟩

instance : Std.TransOrd Moment :=
  inferInstanceAs (Std.TransCmp (compareLex (compareOn fun m : Moment => m.instant)
    (compareOn fun m => m.zone.offset)))

instance : Std.LawfulEqOrd Moment where
  eq_of_compare {a b} h := by
    have h' := Ordering.then_eq_eq.1 (show (compare a.instant b.instant).then
      (compare a.zone.offset b.zone.offset) = .eq from h)
    exact Moment.ext (Std.LawfulEqCmp.eq_of_compare h'.1)
      (Zone.ext (Std.LawfulEqCmp.eq_of_compare h'.2))

/-- Seconds on the local clock since its 1970. -/
def localSeconds (m : Moment) : Int := m.instant.seconds + m.zone.offset

/-- The moment at which the local clock of `z` shows `seconds`. -/
def ofLocalSeconds (z : Zone) (seconds : Int) : Moment :=
  ⟨.ofSeconds (seconds - z.offset), z⟩

/-- The latest moment, not after `m`, at which the local clock shows a multiple of `unit`. -/
def floor (m : Moment) (unit : Int) : Moment :=
  ofLocalSeconds m.zone (m.localSeconds / unit * unit)

/-- The local date. -/
def date (m : Moment) : Date := .ofDays (m.localSeconds / 86400)

/-- Local date and time. -/
def clockText (m : Moment) : String :=
  m.date.text ++ "T" ++ Date.timeText (m.localSeconds % 86400) ++
    Instant.fractionText m.instant.subsecond.toNat

/-- Local date and time, and the offset. -/
def text (m : Moment) : String := m.clockText ++ m.zone.text

/-- The same, with `Z` for an offset of zero. -/
def shortText (m : Moment) : String :=
  m.clockText ++ if m.zone.offset = 0 then "Z" else m.zone.text

end Moment

namespace Zone

/-- `t` seen in the zone. -/
def moment (z : Zone) (t : Instant) : Moment := ⟨t, z⟩

/-- Start of the local day that contains `t`. -/
def dayStart (z : Zone) (t : Instant) : Moment := (z.moment t).floor 86400

end Zone

/-- Length of the periods of a trend. -/
inductive Granularity
  | hour
  | day
  | month
deriving DecidableEq, Repr

/-- Start of the local period that contains `m`. -/
def Granularity.truncate (g : Granularity) (m : Moment) : Moment :=
  match g with
  | .hour => m.floor 3600
  | .day => m.floor 86400
  | .month =>
    let day := m.floor 86400
    .ofLocalSeconds m.zone (day.localSeconds - (day.date.day - 1) * 86400)

end Metering

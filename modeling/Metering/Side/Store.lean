import Metering.Error
import Std.Data.ExtTreeMap

/-!
# The side store

Small records of named text fields, each with a life span that every write renews. It holds what
stands beside the counters: allowances, usage and alert levels. A write finds, or makes, the live
record first, so even a write that changes no field leaves a record behind.
-/

namespace Metering.Side

/-- Fields by name. -/
abbrev Fields := Std.ExtTreeMap String String

/-- The fields of one record, and the instant at which they expire. -/
structure Entry where
  fields : Fields
  expiry : Instant

/-- A side store. -/
abbrev Store := Std.ExtTreeMap String Entry

/-- Longest span of time that can be added to an instant, in nanoseconds. -/
def longestSpan : Int := 0x7fffffffffffffff * 1000000

/-- A life span, or `fallback` if it is too long to be added to an instant. -/
def boundedSpan (span fallback : Int) : Int := if span ≤ longestSpan then span else fallback

namespace Store

/-- The fields of a record that has not expired. -/
def live? (s : Store) (now : Instant) (key : String) : Option Fields :=
  (s[key]?.filter fun entry => decide (now < entry.expiry)).map Entry.fields

/-- Reads the fields of a record; none if it is absent or has expired. -/
def fields (s : Store) (now : Instant) (key : String) : Fields := (s.live? now key).getD ∅

/-- Replaces the fields of a record and renews its life span. -/
def write (s : Store) (now : Instant) (key : String) (lifespan : Int) (fields : Fields) : Store :=
  s.insert key ⟨fields, now.addNanos (boundedSpan lifespan 0)⟩

/-- Adds to a field that holds a number, absent being zero, up to the ends of 64 bits. -/
def increment (s : Store) (now : Instant) (key field : String) (delta : Int) (lifespan : Int) :
    Except Error Int × Store :=
  let old := s.fields now key
  match (old[field]?).elim (some 0) Decimal.int64? with
  | none =>
    (.error (.undecodable s!"field {field} is not an integer"), s.write now key lifespan old)
  | some n =>
    let sum := max (-0x8000000000000000) (min 0x7fffffffffffffff (n + delta))
    (.ok sum, s.write now key lifespan (old.insert field (toString sum)))

/-- Writes a field if it is absent. -/
def setIfAbsent (s : Store) (now : Instant) (key field value : String) (lifespan : Int) :
    Bool × Store :=
  let old := s.fields now key
  if (old[field]?).isSome then (false, s.write now key lifespan old)
  else (true, s.write now key lifespan (old.insert field value))

/-- Writes a field if it holds what is expected. -/
def swap (s : Store) (now : Instant) (key field : String) (expected : Option String)
    (value : String) (lifespan : Int) : Bool × Store :=
  let old := s.fields now key
  if old[field]? = expected then (true, s.write now key lifespan (old.insert field value))
  else (false, s.write now key lifespan old)

/-- Removes a record; tells whether it was there and had not expired. -/
def delete (s : Store) (now : Instant) (key : String) : Bool × Store :=
  ((s.live? now key).isSome, s.erase key)

end Store

end Metering.Side

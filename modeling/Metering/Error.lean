import Metering.Text.Quoted
import Metering.Time.Bucket

/-!
# Errors of the ledger

An error is a cause; `Error.message` words it. A rejected input names the rule that it broke, so the
conditions under which an input is refused can be stated without their wording.

Results: `bind_eq_ok_iff`, what a sequence of two operations that may fail comes to.
-/

namespace Metering

/-- Storage tier in which an error arose. -/
inductive Tier
  | hot
  | cold
  | state
deriving DecidableEq, Repr

/-- Name of a tier. -/
def Tier.name : Tier → String
  | .hot => "hot"
  | .cold => "cold"
  | .state => "state"

/-- A rule that a caller's input broke. -/
inductive Rejection
  | emptyType
  | longType (tag : String)
  | delimitedType (tag : String)
  | blankType (tag : String)
  | keyFields (count : Nat) (key : String)
  | keyId (field : String) (digits : String) (key : String)
  | labelShape (label : String)
  | labelDate (label : String)
  | emptyWindow (start stop : Bucket)
  | invertedWindow (start stop : Instant)
  | page (number size : Nat)
  | stated (text : String)
deriving DecidableEq

/-- Longest accepted resource type, in bytes. -/
def maxTypeBytes : Nat := 32

/-- The wording of a rule. -/
def Rejection.message : Rejection → String
  | emptyType => "resource type cannot be empty"
  | longType tag => s!"resource type exceeds {maxTypeBytes} bytes: {quoted tag}"
  | delimitedType tag => "resource type must not contain ':': " ++ quoted tag
  | blankType tag => "resource type contains whitespace or control characters: " ++ quoted tag
  | keyFields count key => s!"resource key must have 4 fields, got {count}: {quoted key}"
  | keyId field digits key => s!"invalid {field} {quoted digits} in key {quoted key}"
  | labelShape label => "bucket label must be 10 digits (YYYYMMDDHH), got " ++ quoted label
  | labelDate label => s!"bad bucket label {quoted label}: input is out of range"
  | emptyWindow start stop => s!"empty window: {start.label} .. {stop.label}"
  | invertedWindow start stop =>
    s!"inverted range: from {start.text} is after to {stop.text}"
  | page number size =>
    s!"page and page size must be positive (page={number}, size={size})"
  | stated text => text

/-- A setting that the ledger cannot run with. -/
inductive Misconfiguration
  | zoneOffset (minutes : Int)
  | noColdStore
  | alertThresholds (levels : List Nat)
  | setting (text : String)
deriving DecidableEq

/-- The wording of a wrong setting. -/
def Misconfiguration.message : Misconfiguration → String
  | zoneOffset minutes => s!"UTC offset out of range: {minutes} minutes"
  | noColdStore => "No cold store configured"
  | alertThresholds levels =>
    "alert thresholds must be non-empty and strictly ascending: [" ++
      ", ".intercalate (levels.map Nat.repr) ++ "]"
  | setting text => text

/-- Why an operation of the ledger failed. -/
inductive Error
  | rejected (why : Rejection)
  | notFound (what : String)
  | unavailable (tier : Tier) (why : String)
  | cancelled
  | misconfigured (why : Misconfiguration)
  | undecodable (what : String)
deriving DecidableEq

namespace Error

/-- The wording of an error. -/
def message : Error → String
  | rejected why => "Validation error: " ++ why.message
  | notFound what => "Not found: " ++ what
  | unavailable tier why => tier.name ++ " tier unavailable: " ++ why
  | cancelled => "Operation cancelled"
  | misconfigured why => "Configuration error: " ++ why.message
  | undecodable what => "Serialization error: " ++ what

/-- The same operation may succeed later. -/
def isTransient : Error → Bool
  | unavailable .. | cancelled => true
  | _ => false

/-- The resource is gone for good. -/
def isNotFound : Error → Bool
  | notFound _ => true
  | _ => false

end Error

/-- The zone at an offset in minutes, which must be less than a day. -/
def Zone.ofMinutes (minutes : Int) : Except Error Zone :=
  match Zone.ofMinutes? minutes with
  | some z => .ok z
  | none => .error (.misconfigured (.zoneOffset minutes))

/-- A sequence of two gives a result where both do. -/
theorem bind_eq_ok_iff {ε α β : Type} {x : Except ε α} {f : α → Except ε β} {b : β} :
    (x >>= f) = .ok b ↔ ∃ a, x = .ok a ∧ f a = .ok b := by
  cases x with
  | error => exact ⟨nofun, nofun⟩
  | ok a => exact ⟨fun h => ⟨a, rfl, h⟩, fun ⟨_, rfl, h⟩ => h⟩

end Metering

import Metering.Config.Basic
import Metering.Quota

/-!
# Quota alerts

An alert is raised once per threshold. The side record of a subscription holds the level of its last
alert; an evaluation reads it and replaces it, if it still is what was read, by the highest threshold
that usage has reached. Of several evaluations at a time one gets to raise the level.
-/

namespace Metering

namespace Alert

/-- A threshold, in percent of the allowance. -/
abbrev Level := UInt8

/-- The allowance is used up at this level. -/
def isExhausted (level : Level) : Bool := 100 ≤ level.toNat

/-- The written form of a level. -/
def levelText (level : Level) : String := Nat.repr level.toNat ++ "%"

/-- What an alert tells. -/
structure Notice where
  subscription : Id
  level : Level
  /-- Level of the alert before this one. -/
  previous : Option Level
  used : Traffic
  limit : Count
deriving DecidableEq

/-- What alerts need to know. -/
structure Settings where
  keyPrefix : String
  /-- Ascending. -/
  thresholds : List Level
  /-- Life span of a record in nanoseconds. -/
  lifespan : Int

/-- Settings with some thresholds, which must be ascending and not empty. -/
def Settings.of (keyPrefix : String) (thresholds : List Nat) (lifespan : Int) :
    Except Error Settings :=
  if thresholds = [] ∨ !isAscending thresholds then
    .error (.misconfigured (.alertThresholds thresholds))
  else .ok ⟨keyPrefix, thresholds.map UInt8.ofNat, lifespan⟩

/-- Key of a subscription's record. -/
def Settings.key (c : Settings) (subscription : Id) : String :=
  c.keyPrefix ++ ":alert:" ++ Nat.repr subscription.toNat

/-- Field of the level. -/
def levelField : String := "level"

/-- The highest threshold that is not above a percentage. -/
def Settings.levelFor (c : Settings) (percent : Nat) : Option Level :=
  c.thresholds.reverse.find? fun level => level.toNat ≤ percent

/-- Reads a level. -/
def parseLevel (text : String) : Except Error Level :=
  match Decimal.unsigned? 255 text with
  | some n => .ok (UInt8.ofNat n)
  | none => .error (.undecodable ("alert level " ++ quoted text))

/-- The level of the last alert. -/
def current (c : Settings) (subscription : Id) : Task (Option Level) := do
  let fields ← Task.side (.fields (c.key subscription))
  match fields[levelField]? with
  | none => return none
  | some text => return some (← liftExcept (parseLevel text))

/-- The text of a level in its field. -/
def fieldText (level : Level) : String := Nat.repr level.toNat

/-- Raises an alert if usage has reached a threshold above the last one. -/
def evaluate (c : Settings) (subscription : Id) (status : Quota.Status) :
    Task (Option Notice) := do
  let (some limit, some percent) := (status.limit, status.percent) | return none
  let some level := c.levelFor percent | return none
  let previous ← current c subscription
  if previous.any fun p => level ≤ p then return none
  let swapped ← Task.side (.swap (c.key subscription) levelField (previous.map fieldText)
    (fieldText level) c.lifespan)
  return if swapped then some ⟨subscription, level, previous, status.used, limit⟩ else none

/-- Forgets the level of the last alert. -/
def reset (c : Settings) (subscription : Id) : Task Bool :=
  Task.side (.delete (c.key subscription))

end Alert

end Metering

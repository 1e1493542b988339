import Metering.Request

/-!
# Quotas

A subscription may have an allowance of bytes for a cycle. Its side record holds the allowance and
the bytes used per direction as decimal text, each field of its own: seeding fills only the fields
that are missing, so usage counted before the seed is kept. Numbers are kept within 63 bits.

Results: `Quota.Status.exceeded_iff_remaining`.
-/

namespace Metering

namespace Quota

/-- Usage against an allowance. -/
structure Status where
  /-- The allowance; absent where it is unlimited or unknown. -/
  limit : Option Count
  used : Traffic
deriving DecidableEq

namespace Status

/-- The allowance, if it is not zero. -/
def finiteLimit (s : Status) : Option Count := s.limit.filter fun limit => 0 < limit.toNat

/-- The used part of a finite allowance. -/
def ratio (s : Status) : Option Float :=
  s.finiteLimit.map fun limit =>
    (UInt64.ofNat s.used.total.toNat).toFloat / (UInt64.ofNat limit.toNat).toFloat

/-- Whole percent of a finite allowance. -/
def percent (s : Status) : Option Nat :=
  s.finiteLimit.map fun limit => min (s.used.total.toNat * 100 / limit.toNat) Count.top

/-- Usage has reached the allowance. -/
def exceeded (s : Status) : Bool := s.limit.any fun limit => limit ≤ s.used.total

/-- Bytes that are left. -/
def remaining (s : Status) : Option Count := s.limit.map (· - s.used.total)

theorem exceeded_iff_remaining (s : Status) : s.exceeded = true ↔ s.remaining = some 0 := by
  rcases s with ⟨limit, used⟩
  cases limit with
  | none => simp [exceeded, remaining]
  | some limit =>
    simp only [exceeded, remaining, Option.any_some, decide_eq_true_eq, Option.map_some,
      Option.some.injEq, Count.ext_iff, Count.le_def, Count.toNat_sub, Count.toNat_zero]
    omega

end Status

/-- What a quota cache needs to know. -/
structure Settings where
  keyPrefix : String
  /-- Life span of a record in nanoseconds. -/
  lifespan : Int

/-- Key of a subscription's record. -/
def Settings.key (c : Settings) (subscription : Id) : String :=
  c.keyPrefix ++ ":quota:" ++ Nat.repr subscription.toNat

/-- Names of the fields. -/
def limitField : String := "limit"

/-- Field of the uploaded bytes. -/
def uploadField : String := "used_u"

/-- Field of the downloaded bytes. -/
def downloadField : String := "used_d"

/-- The largest number that a field holds. -/
def maxField : Nat := 0x7fffffffffffffff

/-- A number of bytes as a field holds it. -/
def fieldValue (n : Count) : Nat := min n.toNat maxField

/-- The two fields of usage with their numbers of bytes. -/
def usage (traffic : Traffic) : List (String × Count) :=
  [(uploadField, traffic.upload), (downloadField, traffic.download)]

/-- Reads a field; a negative number counts as zero. -/
def readField (fields : Side.Fields) (name : String) : Except Error (Option Count) :=
  match fields[name]? with
  | none => .ok none
  | some text =>
    match Decimal.int64? text with
    | some n => .ok (some (.ofNat n.toNat))
    | none => .error (.undecodable s!"quota field {name} = {quoted text}")

/-- Reads the usage out of a record. -/
def statusOf (fields : Side.Fields) : Except Error Status := do
  let limit ← readField fields limitField
  let upload ← readField fields uploadField
  let download ← readField fields downloadField
  return ⟨limit, upload.getD 0, download.getD 0⟩

/-- Seeds the allowance, if there is one, and the usage; tells whether any field was written. -/
def prime (c : Settings) (subscription : Id) (limit : Option Count) (used : Traffic) : Task Bool :=
  let fields := (limit.map (limitField, ·)).toList ++ usage used
  fields.foldlM (fun written (field, n) => do
    let set ← Task.side (.setIfAbsent (c.key subscription) field (Nat.repr (fieldValue n))
      c.lifespan)
    return written || set) false

/-- Counts traffic against a subscription and tells its usage. -/
def recordUsage (c : Settings) (subscription : Id) (traffic : Traffic) : Task Status := do
  (usage traffic).forM fun (field, n) =>
    if 0 < n.toNat then
      (fun _ => ()) <$> Task.side (.increment (c.key subscription) field (fieldValue n) c.lifespan)
    else pure ()
  liftExcept (statusOf (← Task.side (.fields (c.key subscription))))

/-- The usage of a subscription, if it has a record. -/
def status (c : Settings) (subscription : Id) : Task (Option Status) := do
  let fields ← Task.side (.fields (c.key subscription))
  if fields.isEmpty then return none
  return some (← liftExcept (statusOf fields))

/-- Drops a subscription's record. -/
def reset (c : Settings) (subscription : Id) : Task Bool :=
  Task.side (.delete (c.key subscription))

end Quota

end Metering

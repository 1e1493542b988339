import Metering.Group
import Metering.Value

/-!
# Groups as values

The total is written as its name. Every other group is a table with one entry, the name of its kind,
which holds the identifier or the parts.
-/

namespace Metering.Group

/-- Names of the kinds of groups. -/
def kinds : List String := ["Total", "Subscription", "Resource"]

/-- A group as a value. -/
def toValue : Group → Value
  | total => .text "Total"
  | subscription id => .table [("Subscription", .integer id.toNat)]
  | resource type id =>
    .table [("Resource", .table [
      ("resource_type", .text type.tag), ("resource_id", .integer id.toNat)])]

/-- Reads the parts of a group of a resource; the identifier is read first. -/
def ofParts (entries : List (String × Value)) : Except Mismatch Group := do
  let id? ← (entries.lookup "resource_id").mapM Value.id
  let type? ← (entries.lookup "resource_type").mapM ResourceType.ofValue
  match type?, id? with
  | none, _ => throw (.missing "resource_type")
  | _, none => throw (.missing "resource_id")
  | some type, some id => return .resource type id

/-- Reads a group whose kind has something with it. -/
def ofEntry (kind : String) (v : Value) : Except Mismatch Group :=
  if kind = "Total" then
    match v with
    | .null => .ok .total
    | _ => .error (.kind v.describe "unit")
  else if kind = "Subscription" then subscription <$> v.id
  else if kind = "Resource" then
    match v with
    | .table entries => ofParts entries
    | _ => .error (.kind v.describe "struct variant")
  else .error (.unknownVariant kind kinds)

/-- Reads a group. -/
def ofValue (v : Value) : Except Mismatch Group :=
  match v with
  | .text kind =>
    if kind = "Total" then .ok .total
    else if kind = "Subscription" then .error (.kind "unit variant" "newtype variant")
    else if kind = "Resource" then .error (.kind "unit variant" "struct variant")
    else .error (.unknownVariant kind kinds)
  | .table [(kind, inner)] => ofEntry kind inner
  | .table _ => .error (.range "map" "map with a single key")
  | _ => .error (.kind v.describe "string or map")

end Metering.Group

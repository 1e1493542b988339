import Metering.Ledger
import Metering.Value

/-!
# Entries as values

An entry of a batch is a table or a list in which every field has to be there. The type is any text
here; it is looked at when the entry is counted.
-/

namespace Metering.Ledger.Entry

open Value

/-- What has been read of an entry. -/
structure Draft where
  subscription : Option Id := none
  tag : Option String := none
  resource : Option Id := none
  upload : Option Nat := none
  download : Option Nat := none

/-- The fields of an entry. -/
def fields : List (SectionField Draft) := [
  .of "subscription_id" Value.id fun x d => { d with subscription := some x },
  .of "resource_type" string fun x d => { d with tag := some x },
  .of "resource_id" Value.id fun x d => { d with resource := some x },
  .of "upload" (natural 64) fun x d => { d with upload := some x },
  .of "download" (natural 64) fun x d => { d with download := some x }]

/-- What an entry is called where it is wanted. -/
def wanted : String := "struct TrafficEntry"

/-- A field that has to be there. -/
def demand {α : Type} (name : String) : Option α → Except Mismatch α
  | some a => .ok a
  | none => .error (.missing name)

/-- The entry that a draft with all its fields is. -/
def Draft.finish (d : Draft) : Except Mismatch Entry := do
  let subscription ← demand "subscription_id" d.subscription
  let tag ← demand "resource_type" d.tag
  let resource ← demand "resource_id" d.resource
  let upload ← demand "upload" d.upload
  let download ← demand "download" d.download
  return { subscription, tag, resource, traffic := .ofNats upload download }

/-- A list has all fields of an entry. -/
def checkLength : Value → Except Mismatch Unit
  | .list values =>
    if values.length < fields.length then
      .error (.length values.length (wanted ++ " with " ++ Nat.repr fields.length ++ " elements"))
    else .ok ()
  | _ => .ok ()

/-- Reads an entry. -/
def ofValue (v : Value) : Except Mismatch Entry := do
  let draft ← readSection wanted fields false {} v
  checkLength v
  draft.finish

end Metering.Ledger.Entry

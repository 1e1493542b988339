import Metering.Resource

/-!
# Counter keys

A hot counter belongs to one resource of one subscription in one hour. Its key is written as four
fields with colons between them, `2024030108:42:node:100`, and read back in a zone.
-/

namespace Metering

/-- Address of a hot counter. -/
@[ext]
structure Key where
  bucket : Bucket
  subscription : Id
  type : ResourceType
  resource : Id
deriving DecidableEq, Inhabited

namespace Key

/-- Keys are ordered by bucket, subscription, type and resource. -/
instance : Ord Key :=
  ⟨compareLex (compareOn bucket) (compareLex (compareOn subscription)
    (compareLex (compareOn type) (compareOn resource)))⟩

instance : Std.TransOrd Key :=
  inferInstanceAs (Std.TransCmp (compareLex (compareOn bucket) (compareLex (compareOn subscription)
    (compareLex (compareOn type) (compareOn resource)))))

instance : Std.LawfulEqOrd Key where
  eq_of_compare {a b} h := by
    have h₁ := Ordering.then_eq_eq.1 (show (compare a.bucket b.bucket).then
      ((compare a.subscription b.subscription).then
        ((compare a.type b.type).then (compare a.resource b.resource))) = .eq from h)
    have h₂ := Ordering.then_eq_eq.1 h₁.2
    have h₃ := Ordering.then_eq_eq.1 h₂.2
    exact Key.ext (Std.LawfulEqCmp.eq_of_compare h₁.1) (Std.LawfulEqCmp.eq_of_compare h₂.1)
      (Std.LawfulEqCmp.eq_of_compare h₃.1) (Std.LawfulEqCmp.eq_of_compare h₃.2)

/-- The key of a resource in a bucket, if its tag is acceptable. -/
def ofTag (bucket : Bucket) (subscription : Id) (tag : String) (resource : Id) :
    Except Rejection Key := do
  return { bucket, subscription, type := ← ResourceType.parse tag, resource }

/-- The same resource in another bucket. -/
def inBucket (key : Key) (bucket : Bucket) : Key := { key with bucket }

/-- The written form. -/
def encode (key : Key) : String :=
  key.bucket.label ++ ":" ++ Nat.repr key.subscription.toNat ++ ":" ++ key.type.tag ++ ":" ++
    Nat.repr key.resource.toNat

end Key

/-- The parts of a text between its colons. -/
def colonFields (cs : List Char) : List (List Char) :=
  match cs with
  | [] => [[]]
  | ':' :: rest => [] :: colonFields rest
  | c :: rest =>
    match colonFields rest with
    | [] => [[c]]
    | field :: fields => (c :: field) :: fields

namespace Zone

/-- The bucket that a label names, or the rule that the label breaks. -/
def parseBucket (z : Zone) (label : String) : Except Rejection Bucket :=
  match z.bucket? label with
  | .ok b => .ok b
  | .error .shape => .error (.labelShape label)
  | .error .date => .error (.labelDate label)

end Zone

namespace Key

/-- An identifier inside a key. -/
def decodeId (field : String) (digits key : String) : Except Rejection Id :=
  match Decimal.word? digits with
  | some id => .ok id
  | none => .error (.keyId field digits key)

/-- The key that a text denotes in a zone. -/
def decode (z : Zone) (text : String) : Except Rejection Key :=
  match (colonFields text.toList).map String.ofList with
  | [label, subscription, tag, resource] => do
    return {
      bucket := ← z.parseBucket label
      subscription := ← decodeId "subscription id" subscription text
      type := ← ResourceType.parse tag
      resource := ← decodeId "resource id" resource text }
  | fields => .error (.keyFields fields.length text)

end Key

end Metering

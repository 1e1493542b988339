import Metering.Decimal.Shortest
import Metering.Resource

/-!
# Values of data formats

What a text in a data format says, before it is read as something of the ledger. Reading a value as a
type either gives the thing or tells the mismatch: what was found, and what was wanted.
-/

namespace Metering

/-- A value as data formats know it. -/
inductive Value
  | null
  | bool (b : Bool)
  | integer (n : Int)
  | float (x : Float)
  | text (s : String)
  /-- A date, a time of day, or both. -/
  | date (s : String)
  | list (values : List Value)
  /-- Named values, in the order in which they are written. -/
  | table (entries : List (String × Value))

instance : Inhabited Value := ⟨.null⟩

/-- Why a value is not what was wanted. -/
inductive Mismatch
  | kind (found wanted : String)
  | range (found wanted : String)
  | length (found : Nat) (wanted : String)
  | missing (field : String)
  | unknownVariant (name : String) (known : List String)
  | rejected (why : Rejection)

/-- A name between backticks. -/
def ticked (name : String) : String := "`" ++ name ++ "`"

/-- The wording of a mismatch. -/
def Mismatch.message : Mismatch → String
  | kind found wanted => "invalid type: " ++ found ++ ", expected " ++ wanted
  | range found wanted => "invalid value: " ++ found ++ ", expected " ++ wanted
  | length found wanted => "invalid length " ++ Nat.repr found ++ ", expected " ++ wanted
  | missing field => "missing field " ++ ticked field
  | unknownVariant name known =>
    "unknown variant " ++ ticked name ++ ", expected one of " ++
      ", ".intercalate (known.map ticked)
  | rejected why => (Error.rejected why).message

/-- A mismatch as an error of the ledger. -/
def Mismatch.toError (m : Mismatch) : Error := .undecodable m.message

namespace Value

/-- What a value is, in words. -/
def describe : Value → String
  | null => "null"
  | bool b => "boolean " ++ ticked (if b then "true" else "false")
  | integer n => "integer " ++ ticked (toString n)
  | float x => "floating point " ++ ticked (Decimal.compactText x)
  | text s => "string " ++ quoted s
  | list _ => "sequence"
  | table _ | date _ => "map"

/-- Reads a whole number of so many bits. -/
def wholeNumber (wanted : String) (bits : Nat) (v : Value) : Except Mismatch Nat :=
  match v with
  | integer n =>
    if 0 ≤ n ∧ n < (Nat.pow 2 bits : Nat) then .ok n.toNat else .error (.range v.describe wanted)
  | _ => .error (.kind v.describe wanted)

/-- Reads a whole number of so many bits, called by their number. -/
def natural (bits : Nat) (v : Value) : Except Mismatch Nat := v.wholeNumber ("u" ++ Nat.repr bits) bits

/-- Reads a number of things. -/
def size (v : Value) : Except Mismatch Nat := v.wholeNumber "usize" 64

/-- Reads an identifier. -/
def id (v : Value) : Except Mismatch Id := UInt64.ofNat <$> v.natural 64

/-- Reads a number of so many bits that may be negative. -/
def signed (bits : Nat) (v : Value) : Except Mismatch Int :=
  let wanted := "i" ++ Nat.repr bits
  match v with
  | integer n =>
    if -(Nat.pow 2 (bits - 1) : Nat) ≤ n ∧ n < (Nat.pow 2 (bits - 1) : Nat) then .ok n
    else .error (.range v.describe wanted)
  | _ => .error (.kind v.describe wanted)

/-- Reads a floating-point number; a whole number is rounded to one. -/
def real (v : Value) : Except Mismatch Float :=
  match v with
  | float x => .ok x
  | integer n => .ok (Float.ofInt n)
  | _ => .error (.kind v.describe "f64")

/-- Reads a flag. -/
def flag (v : Value) : Except Mismatch Bool :=
  match v with
  | bool b => .ok b
  | _ => .error (.kind v.describe "a boolean")

/-- Reads a text. -/
def string (v : Value) : Except Mismatch String :=
  match v with
  | text s => .ok s
  | _ => .error (.kind v.describe "a string")

/-- Reads a list of things. -/
def listOf {α : Type} (read : Value → Except Mismatch α) (v : Value) : Except Mismatch (List α) :=
  match v with
  | list values => values.mapM read
  | _ => .error (.kind v.describe "a sequence")

/-! ## Sections -/

/-- A field of a section, which is read into what has been read of the section so far. -/
structure SectionField (σ : Type) where
  name : String
  read : Value → σ → Except Mismatch σ

/-- A field that is put into a section by `set`. -/
def SectionField.of {σ α : Type} (name : String) (read : Value → Except Mismatch α)
    (set : α → σ → σ) : SectionField σ :=
  { name, read := fun v s => (set · s) <$> read v }

/-- Reads the fields that a table names, in the order of the table. A name that is not known is passed
over. -/
def readNamed {σ : Type} (fields : List (SectionField σ)) (entries : List (String × Value))
    (start : σ) : Except Mismatch σ :=
  entries.foldlM (fun s (name, v) =>
    match fields.find? (·.name = name) with
    | some field => field.read v s
    | none => .ok s) start

/-- Reads the fields that a list gives in their order. -/
def readPlaced {σ : Type} (fields : List (SectionField σ)) (values : List Value) (start : σ) :
    Except Mismatch σ :=
  (fields.zip values).foldlM (fun s (field, v) => field.read v s) start

/-- Reads a section from a table or from a list. A list may be longer than the section only where `lax`
is set. A date is a section without fields of its own. -/
def readSection {σ : Type} (wanted : String) (fields : List (SectionField σ)) (lax : Bool) (start : σ)
    (v : Value) : Except Mismatch σ :=
  match v with
  | table entries => readNamed fields entries start
  | date _ => .ok start
  | list values => do
    let s ← readPlaced fields values start
    if fields.length < values.length ∧ !lax then
      throw (.length values.length "fewer elements in array")
    return s
  | _ => .error (.kind v.describe wanted)

end Value

/-! ## Resource types -/

/-- Reads a resource type from its tag. -/
def ResourceType.ofValue (v : Value) : Except Mismatch ResourceType := do
  (ResourceType.parse (← v.string)).mapError .rejected

end Metering

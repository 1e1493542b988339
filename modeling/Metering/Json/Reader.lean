import Metering.Json.Number
import Metering.Text.Scan
import Std.Data.ExtTreeMap

/-!
# Reading JSON

A text holds one value. The members of an object are kept in the order of their names; of two with the
same name the last one counts.
-/

namespace Metering.Json

open Scan

/-- Blanks between words. -/
def blanks : Scan Unit := do
  let _ ← takeWhile fun c => c = ' ' || c = '\t' || c = '\n' || c = '\r'

/-- A step that may be refused. -/
def accept {α : Type} (result : Option α) : Scan α := fun cs => result.map (·, cs)

/-! ## Numbers -/

/-- An exponent, after its letter. -/
def exponent : Scan Int := do
  let _ ← satisfy fun c => c = 'e' || c = 'E'
  let sign ← optional (satisfy fun c => c = '+' || c = '-')
  let n := Decimal.value (← takeWhile₁ (·.isDigit))
  return if sign = some '-' then -n else n

/-- A number. It has no zeros in front. -/
def number : Scan Value := do
  let isNegative := (← optional (char '-')).isSome
  let whole ← takeWhile₁ (·.isDigit)
  if whole.head? = some '0' ∧ whole.length ≠ 1 then fail
  let fraction ← optional (do
    char '.'
    takeWhile₁ (·.isDigit))
  match fraction, ← optional exponent with
  | none, none => accept (integer? isNegative whole)
  | fraction, e => accept (float? isNegative whole (fraction.getD []) (e.getD 0))

/-! ## Strings -/

/-- The number that four hexadecimal digits denote. -/
def fourDigits? (cs : List Char) : Option Nat := do
  let digits ← cs.mapM fun c =>
    if c.isDigit then some (Decimal.digit c)
    else if 'a' ≤ c ∧ c ≤ 'f' then some (c.toNat - 'a'.toNat + 10)
    else if 'A' ≤ c ∧ c ≤ 'F' then some (c.toNat - 'A'.toNat + 10)
    else none
  return digits.foldl (fun n d => n * 16 + d) 0

/-- The character of an escape of one letter. -/
def escaped? (c : Char) : Option Char :=
  match c with
  | '"' | '\\' | '/' => some c
  | 'b' => some '\x08'
  | 'f' => some '\x0c'
  | 'n' => some '\n'
  | 'r' => some '\r'
  | 't' => some '\t'
  | _ => none

/-- The character of two surrogates. -/
def ofSurrogates? (high low : Nat) : Option Char :=
  if 0xd800 ≤ high ∧ high < 0xdc00 ∧ 0xdc00 ≤ low ∧ low < 0xe000 then
    some (.ofNat (0x10000 + (high - 0xd800) * 0x400 + (low - 0xdc00)))
  else none

/-- The rest of a string, up to its closing quote. -/
def stringRest (done : List Char) : List Char → Option (List Char × List Char)
  | '"' :: rest => some (done.reverse, rest)
  | '\\' :: 'u' :: a :: b :: c :: d :: rest =>
    match fourDigits? [a, b, c, d] with
    | none => none
    | some n =>
      if n.isValidChar then stringRest (.ofNat n :: done) rest
      else
        match rest with
        | '\\' :: 'u' :: e :: f :: g :: h :: rest =>
          match (fourDigits? [e, f, g, h]).bind (ofSurrogates? n) with
          | some c => stringRest (c :: done) rest
          | none => none
        | _ => none
  | '\\' :: c :: rest =>
    match escaped? c with
    | some c => stringRest (c :: done) rest
    | none => none
  | c :: rest => if c < ' ' then none else stringRest (c :: done) rest
  | [] => none

/-- A string. -/
def string : Scan String := do
  char '"'
  let cs ← stringRest []
  return String.ofList cs

/-! ## Values -/

/-- The rest of a list, after its opening bracket or a comma. -/
def elements (value : Scan Value) : Nat → Scan (List Value)
  | 0 => fail
  | steps + 1 => do
    let v ← value
    blanks
    match ← satisfy fun c => c = ',' || c = ']' with
    | ',' => return v :: (← elements value steps)
    | _ => return [v]

/-- The rest of an object, after its opening brace or a comma. -/
def members (value : Scan Value) : Nat → Scan (List (String × Value))
  | 0 => fail
  | steps + 1 => do
    blanks
    let name ← string
    blanks
    char ':'
    let v ← value
    blanks
    match ← satisfy fun c => c = ',' || c = '\x7d' with
    | ',' => return (name, v) :: (← members value steps)
    | _ => return [(name, v)]

/-- A list, after its opening bracket. -/
def list (value : Scan Value) : Scan Value := do
  blanks
  match ← optional (char ']') with
  | some _ => return .list []
  | none => return .list (← fun cs => elements value cs.length cs)

/-- An object, after its opening brace. -/
def object (value : Scan Value) : Scan Value := do
  blanks
  match ← optional (char '\x7d') with
  | some _ => return .table []
  | none =>
    let entries ← fun cs => members value cs.length cs
    return .table (Std.ExtTreeMap.ofList entries).toList

/-- How deep lists and objects may be nested. -/
def maxDepth : Nat := 127

/-- A word, which stands for a value. -/
def word (text : String) (v : Value) : Scan Value := do
  chars text.toList
  return v

/-- A value in which lists and objects are nested at most `depth` deep, and the blanks before it. -/
def value (depth : Nat) : Scan Value := do
  blanks
  match ← peek with
  | some '"' => return .text (← string)
  | some 't' => word "true" (.bool true)
  | some 'f' => word "false" (.bool false)
  | some 'n' => word "null" .null
  | some '[' =>
    match depth with
    | 0 => fail
    | depth + 1 => do
      char '['
      list (value depth)
  | some '\x7b' =>
    match depth with
    | 0 => fail
    | depth + 1 => do
      char '\x7b'
      object (value depth)
  | _ => number

/-- The value that a text holds, if it is well formed. -/
def read? (text : String) : Option Value :=
  match value maxDepth text.toList with
  | some (v, rest) => if (blanks rest).map Prod.snd = some [] then some v else none
  | none => none

end Metering.Json

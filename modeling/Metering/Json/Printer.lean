import Metering.Value

/-!
# Writing JSON

A value stands on one line without blanks. A floating-point number keeps its point, and one that is not
finite is written as null.
-/

namespace Metering.Json

/-- Four hexadecimal digits. -/
def fourDigits (n : Nat) : String :=
  let digits := Nat.toDigits 16 n
  String.ofList (List.replicate (4 - digits.length) '0' ++ digits)

/-- A character as it stands in a string. -/
def charText (c : Char) : String :=
  if c = '"' then "\\\"" else if c = '\\' then "\\\\"
  else if c < ' ' then "\\u" ++ fourDigits c.toNat
  else c.toString

/-- A string between its quotes. -/
def stringText (s : String) : String := "\"" ++ String.join (s.toList.map charText) ++ "\""

/-- The written form of a floating-point number. -/
def floatText (x : Float) : String := if x.isNaN || x.isInf then "null" else Decimal.pointedText x

mutual

/-- The written form of a value. -/
def write : Value → String
  | .null => "null"
  | .bool b => if b then "true" else "false"
  | .integer n => toString n
  | .float x => floatText x
  | .text s | .date s => stringText s
  | .list values => "[" ++ ",".intercalate (elementTexts values) ++ "]"
  | .table entries => "\x7b" ++ ",".intercalate (memberTexts entries) ++ "\x7d"

/-- The written forms of the elements of a list. -/
def elementTexts : List Value → List String
  | [] => []
  | v :: rest => write v :: elementTexts rest

/-- The written forms of the members of an object. -/
def memberTexts : List (String × Value) → List String
  | [] => []
  | (name, v) :: rest => (stringText name ++ ":" ++ write v) :: memberTexts rest

end

end Metering.Json

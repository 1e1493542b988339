import Metering.Value

/-!
# Writing TOML

Each table has its header, its values and then its inner tables; a blank line stands before every
header but the first. A list of two or more elements takes one line for each.

A string stands between quotes as it is, if it can: between double quotes where it holds none and no
backslash, else between single quotes. With line ends, or with both kinds of quotes, it takes the long
forms. Where none of them fits, it is escaped.
-/

namespace Metering.Toml

/-! ## Strings -/

/-- Length of the longest run of `c`. -/
def longestRun (c : Char) (cs : List Char) : Nat :=
  (cs.foldl (fun (run, longest) x =>
    let run := if x = c then run + 1 else 0
    (run, max longest run)) (0, 0)).2

/-- A character that can only be written by an escape. -/
def needsEscape (c : Char) : Bool := (c < ' ' && c ≠ '\t' && c ≠ '\n') || c = '\x7f'

/-- Hexadecimal digits of a number, in upper case, at least four. -/
def fourDigits (n : Nat) : String :=
  let digits := (Nat.toDigits 16 n).map Char.toUpper
  String.ofList (List.replicate (4 - digits.length) '0' ++ digits)

/-- The escaped form of a character, as it stands in a string on one line or, where `isLong` is set, on
several. -/
def escapedChar (isLong : Bool) (c : Char) : String :=
  if c = '\x08' then "\\b"
  else if c = '\t' then "\\t"
  else if c = '\n' then (if isLong then "\n" else "\\n")
  else if c = '\x0c' then "\\f"
  else if c = '\r' then "\\r"
  else if c = '\\' then "\\\\"
  else if needsEscape c then "\\u" ++ fourDigits c.toNat
  else c.toString

/-- The escaped form of a text; a quote is escaped after `quotes` others in a row. -/
def escapedText (isLong : Bool) (most : Nat) : List Char → Nat → String
  | [], _ => ""
  | c :: cs, quotes =>
    if c = '"' then
      if quotes < most then "\"" ++ escapedText isLong most cs (quotes + 1)
      else "\\\"" ++ escapedText isLong most cs 0
    else escapedChar isLong c ++ escapedText isLong most cs 0

/-- The written form of a string. -/
def stringText (s : String) : String :=
  let cs := s.toList
  let hasControl := cs.any needsEscape
  let hasBackslash := cs.contains '\\'
  let isLong := cs.contains '\n'
  let double := longestRun '"' cs
  let single := longestRun '\'' cs
  let start := if isLong then "\n" else ""
  if !hasControl && !hasBackslash && double = 0 && !isLong then
    "\"" ++ escapedText false 0 cs 0 ++ "\""
  else if !hasControl && single = 0 && !isLong then "'" ++ s ++ "'"
  else if !hasControl && !hasBackslash && double ≤ 2 then
    "\"\"\"" ++ start ++ escapedText true 2 cs 0 ++ "\"\"\""
  else if !hasControl && single ≤ 2 then "'''" ++ start ++ s ++ "'''"
  else if isLong then "\"\"\"" ++ start ++ escapedText true 2 cs 0 ++ "\"\"\""
  else "\"" ++ escapedText false 0 cs 0 ++ "\""

/-! ## Values -/

/-- The written form of a floating-point number. -/
def floatText (x : Float) : String :=
  if x.isNaN then "nan" else Decimal.pointedText x

/-- The written form of a whole number, if it has 64 bits. -/
def integerText (n : Int) : Option String :=
  if -0x8000000000000000 ≤ n ∧ n < 0x8000000000000000 then some (toString n) else none

/-- The written form of a value without parts. -/
def plainText : Value → Option String
  | .bool b => some (if b then "true" else "false")
  | .integer n => integerText n
  | .float x => some (floatText x)
  | .text s => some (stringText s)
  | .date s => some s
  | .null | .list _ | .table _ => none

/-- The written form of a list of values without parts. -/
def listText (values : List Value) : Option String := do
  let texts ← values.mapM plainText
  return if texts.length ≤ 1 then "[" ++ String.join texts ++ "]"
    else "[\n" ++ String.join (texts.map fun text => "    " ++ text ++ ",\n") ++ "]"

/-- The written form of a value on the right of a key. -/
def valueText : Value → Option String
  | .list values => listText values
  | v => plainText v

/-! ## Tables -/

/-- Is written as a table of its own. -/
def isTable : Value → Bool
  | .table _ => true
  | _ => false

/-- The lines of the values of a table. -/
def valueLines (entries : List (String × Value)) : Option String := do
  let lines ← (entries.filter fun entry => !isTable entry.2).mapM fun (key, v) => do
    return key ++ " = " ++ (← valueText v) ++ "\n"
  return String.join lines

mutual

/-- The blocks of a table and of the tables in it, each block with its header. -/
def blocks (path : String) : Value → Option (List String)
  | .table entries => do
    let lines ← valueLines entries
    return ("[" ++ path ++ "]\n" ++ lines) :: (← innerBlocks (path ++ ".") entries)
  | _ => some []

/-- The blocks of the tables among some entries. -/
def innerBlocks (before : String) : List (String × Value) → Option (List String)
  | [] => some []
  | (key, v) :: rest => do return (← blocks (before ++ key) v) ++ (← innerBlocks before rest)

end

/-- The written form of a table of tables, if its numbers can be written. -/
def write? : Value → Option String
  | .table entries => ("\n".intercalate ·) <$> innerBlocks "" entries
  | _ => none

end Metering.Toml

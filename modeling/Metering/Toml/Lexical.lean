import Metering.Decimal.Integer
import Metering.Text.Scan
import Metering.Time.Calendar
import Metering.Value

/-!
# Words of TOML

Scanners for what stands on a line: blanks, comments, keys, strings, numbers and dates.

Strings come in four forms: with escapes or without, on one line or on several. Inside the long forms
one or two quotes may stand anywhere, also right before the closing ones.
-/

namespace Metering.Toml

open Scan

/-! ## Blanks and comments -/

/-- A blank on a line. -/
def isSpace (c : Char) : Bool := c = ' ' || c = '\t'

/-- A character that is no control character of ASCII; a tab is none either. -/
def isPlain (c : Char) : Bool := c = '\t' || (' ' ≤ c && c ≠ '\x7f')

/-- Blanks. -/
def spaces : Scan Unit := do
  let _ ← takeWhile isSpace

/-- End of a line that is followed by another one. -/
def newline : Scan Unit := fun cs =>
  match cs with
  | '\n' :: rest => some ((), rest)
  | '\r' :: '\n' :: rest => some ((), rest)
  | _ => none

/-- A comment, up to the end of its line. -/
def comment : Scan Unit := do
  char '#'
  let _ ← takeWhile isPlain

/-- End of a line or of the text. -/
def lineEnd : Scan Unit := fun cs => if cs.isEmpty then some ((), []) else newline cs

/-- What may follow on a line: blanks and a comment. -/
def lineRest : Scan Unit := do
  spaces
  let _ ← optional comment
  lineEnd

/-- Blanks, ends of lines and comments; `lines` bounds the number of lines. -/
def gapLoop : Nat → Scan Unit
  | 0 => spaces
  | lines + 1 => do
    spaces
    match ← peek with
    | some '#' => do
      comment
      newline
      gapLoop lines
    | some '\n' | some '\r' => do
      newline
      gapLoop lines
    | _ => return ()

/-- Blanks, ends of lines and comments. -/
def gap : Scan Unit := fun cs => gapLoop cs.length cs

/-! ## Strings -/

/-- Value of a hexadecimal digit. -/
def hexDigit (c : Char) : Nat :=
  if c.isDigit then c.toNat - '0'.toNat else c.toLower.toNat - 'a'.toNat + 10

/-- A hexadecimal digit. -/
def isHex (c : Char) : Bool := c.isDigit || ('a' ≤ c.toLower && c.toLower ≤ 'f')

/-- The number that digits of some base denote. -/
def positional (base : Nat) (cs : List Char) : Nat := cs.foldl (fun n c => n * base + hexDigit c) 0

/-- A character by its number in so many hexadecimal digits. -/
def numbered (digits : Nat) : Scan Char := do
  let n := positional 16 (← exactly digits isHex)
  if n.isValidChar then return Char.ofNat n else fail

/-- What follows a backslash. -/
def escape : Scan Char := do
  match ← satisfy fun _ => true with
  | 'b' => return '\x08'
  | 'f' => return '\x0c'
  | 'n' => return '\n'
  | 'r' => return '\r'
  | 't' => return '\t'
  | 'u' => numbered 4
  | 'U' => numbered 8
  | '\\' => return '\\'
  | '"' => return '"'
  | _ => fail

/-- The rest of a string on one line, with escapes. -/
def basicLoop : Nat → List Char → Scan String
  | 0, _ => fail
  | steps + 1, done => do
    match ← satisfy isPlain with
    | '"' => return String.ofList done.reverse
    | '\\' => do basicLoop steps ((← escape) :: done)
    | c => basicLoop steps (c :: done)

/-- A string on one line, with escapes. -/
def basic : Scan String := do
  char '"'
  fun cs => basicLoop cs.length [] cs

/-- A string on one line, as it stands. -/
def literal : Scan String := do
  char '\''
  let cs ← takeWhile fun c => isPlain c && c ≠ '\''
  char '\''
  return String.ofList cs

/-- Blanks and ends of lines; `lines` bounds the number of lines. -/
def blankLines : Nat → Scan Unit
  | 0 => spaces
  | lines + 1 => do
    spaces
    match ← optional newline with
    | some _ => blankLines lines
    | none => return ()

/-- The end of a line, and the blanks around it and on the lines after it. -/
def foldedLines : Scan Unit := do
  spaces
  newline
  fun cs => blankLines cs.length cs

/-- The rest of a string on several lines that ends with three of `quote`. -/
def longLoop (quote : Char) (hasEscapes : Bool) : Nat → List Char → Scan String
  | 0, _ => fail
  | steps + 1, done => do
    match ← peek with
    | none => fail
    | some c =>
      if c = quote then
        let quotes ← takeWhile (· = quote)
        if quotes.length < 3 then longLoop quote hasEscapes steps (quotes ++ done)
        else if quotes.length ≤ 5 then
          return String.ofList (done.reverse ++ quotes.drop 3)
        else fail
      else if c = '\n' || c = '\r' then
        newline
        longLoop quote hasEscapes steps ('\n' :: done)
      else if c = '\\' && hasEscapes then
        char '\\'
        match ← optional foldedLines with
        | some _ => longLoop quote hasEscapes steps done
        | none => do longLoop quote hasEscapes steps ((← escape) :: done)
      else
        longLoop quote hasEscapes steps ((← satisfy isPlain) :: done)

/-- A string on several lines; a line end right after the opening quotes is not part of it. -/
def long (quote : Char) (hasEscapes : Bool) : Scan String := do
  chars [quote, quote, quote]
  let _ ← optional newline
  fun cs => longLoop quote hasEscapes (cs.length + 1) [] cs

/-- A string in any form. -/
def string : Scan String := fun cs =>
  match cs with
  | '"' :: '"' :: '"' :: _ => long '"' true cs
  | '\'' :: '\'' :: '\'' :: _ => long '\'' false cs
  | '"' :: _ => basic cs
  | '\'' :: _ => literal cs
  | _ => none

/-! ## Keys -/

/-- A character of a key without quotes. -/
def isBare (c : Char) : Bool := c.isAlphanum || c = '-' || c = '_'

/-- A key without dots. -/
def simpleKey : Scan String := do
  match ← peek with
  | some '"' => basic
  | some '\'' => literal
  | _ => return String.ofList (← takeWhile₁ isBare)

/-- A key without dots and the blanks around it. -/
def keyPart : Scan String := do
  spaces
  let key ← simpleKey
  spaces
  return key

/-- Further parts of a key, each after a dot. -/
def keyLoop : Nat → Scan (List String)
  | 0 => return []
  | parts + 1 => do
    match ← peek with
    | some '.' => do
      char '.'
      let key ← keyPart
      return key :: (← keyLoop parts)
    | _ => return []

/-- Most levels that tables and lists may be nested in one another. -/
def maxDepth : Nat := 79

/-- A key, its parts with dots between them. -/
def key : Scan (List String) := do
  let first ← keyPart
  let rest ← fun cs => keyLoop cs.length cs
  if rest.length < maxDepth then return first :: rest else fail

/-! ## Dates -/

/-- A number of exactly so many digits within bounds. -/
def field (digits least most : Nat) : Scan Nat := do
  let n := positional 10 (← exactly digits Char.isDigit)
  if least ≤ n ∧ n ≤ most then return n else fail

/-- A date of the calendar. -/
def fullDate : Scan Unit := do
  let year ← field 4 0 9999
  char '-'
  let month ← field 2 1 12
  char '-'
  let day ← field 2 1 31
  if day ≤ Date.daysInMonth year month then return () else fail

/-- A time of day. -/
def timeOfDay : Scan Unit := do
  let _ ← field 2 0 23
  char ':'
  let _ ← field 2 0 59
  char ':'
  let _ ← field 2 0 60
  let _ ← optional do
    char '.'
    takeWhile₁ Char.isDigit

/-- An offset from UTC. -/
def timeOffset : Scan Unit := do
  match ← satisfy fun _ => true with
  | 'Z' | 'z' => return ()
  | '+' | '-' => do
    let _ ← field 2 0 23
    char ':'
    let _ ← field 2 0 59
  | _ => fail

/-- A date with or without a time, or a time. -/
def dateTime : Scan Unit := fun cs =>
  match fullDate cs with
  | some (_, rest) =>
    (do
      let _ ← optional do
        let _ ← satisfy fun c => c = 'T' || c = 't' || c = ' '
        timeOfDay
        optional timeOffset) rest
  | none => timeOfDay cs

/-! ## Numbers -/

/-- Digits with single underscores between them. -/
def digitsLoop (isDigit : Char → Bool) : Nat → List Char → Scan (List Char)
  | 0, done => return done.reverse
  | steps + 1, done => do
    match ← peek with
    | some '_' => do
      char '_'
      digitsLoop isDigit steps ((← satisfy isDigit) :: done)
    | some c =>
      if isDigit c then
        char c
        digitsLoop isDigit steps (c :: done)
      else return done.reverse
    | none => return done.reverse

/-- At least one digit, and single underscores between them. -/
def digits (isDigit : Char → Bool) : Scan (List Char) := do
  let first ← satisfy isDigit
  fun cs => digitsLoop isDigit cs.length [first] cs

/-- A sign; tells whether it is a minus. -/
def sign : Scan Bool := do
  match ← peek with
  | some '-' => do
    char '-'
    return true
  | some '+' => do
    char '+'
    return false
  | _ => return false

/-- The digits of a whole number, without leading zeros. -/
def wholeDigits : Scan (List Char) := do
  match ← peek with
  | some '0' => do
    char '0'
    return ['0']
  | _ => digits Char.isDigit

/-- A whole number of 64 bits. -/
def bounded (n : Int) : Scan Value :=
  if -0x8000000000000000 ≤ n ∧ n < 0x8000000000000000 then return .integer n else fail

/-- A whole number in base ten, sixteen, eight or two. -/
def integer : Scan Value := fun cs =>
  match cs with
  | '0' :: 'x' :: rest => (do bounded (positional 16 (← digits isHex))) rest
  | '0' :: 'o' :: rest =>
    (do bounded (positional 8 (← digits fun c => '0' ≤ c && c ≤ '7'))) rest
  | '0' :: 'b' :: rest =>
    (do bounded (positional 2 (← digits fun c => c = '0' || c = '1'))) rest
  | _ =>
    (do
      let isNegative ← sign
      let n : Int := positional 10 (← wholeDigits)
      bounded (if isNegative then -n else n)) cs

/-- The digits after a decimal point. -/
def fraction : Scan (List Char) := do
  char '.'
  digits Char.isDigit

/-- A power of ten. -/
def exponent : Scan Int := do
  let _ ← satisfy fun c => c = 'e' || c = 'E'
  let isNegative ← sign
  let n : Int := positional 10 (← digits Char.isDigit)
  return if isNegative then -n else n

/-- The double nearest to `n * 10^e`. Beyond a thousand digits it is zero or infinite. -/
def nearest (n : Nat) (e : Int) : Float :=
  let size := (Nat.repr n).length
  if n = 0 then 0
  else if e + size < -1000 then 0
  else if 1000 < e + size then 1 / 0
  else Float.ofScientific n (e < 0) e.natAbs

/-- A number with a fraction, an exponent or both. -/
def decimal : Scan Value := do
  let isNegative ← sign
  let whole ← wholeDigits
  let places ← optional fraction
  let power ← optional exponent
  if places.isNone ∧ power.isNone then fail
  let digits := whole ++ places.getD []
  let x := nearest (positional 10 digits) (power.getD 0 - ((places.getD []).length : Int))
  if x.isInf ∧ !isNegative then fail
  return .float (if isNegative then -x else x)

/-- An infinity, or what is no number. -/
def special : Scan Value := do
  let isNegative ← sign
  match ← satisfy fun _ => true with
  | 'i' => do
    chars ['n', 'f']
    return .float (if isNegative then -1 / 0 else 1 / 0)
  | 'n' => do
    chars ['a', 'n']
    return .float (0 / 0)
  | _ => fail

/-- A date or a number. -/
def dateOrNumber : Scan Value := fun cs =>
  match taken dateTime cs with
  | some (text, rest) => some (.date (String.ofList text), rest)
  | none => (decimal cs).or ((special cs).or (integer cs))

end Metering.Toml

import Metering.Text.Quoted

/-!
# Percent encoding

A character that may not stand in a part of a URL is written as the bytes of its UTF-8 form, each as a
percent sign and two hexadecimal digits. Which characters these are depends on the part; control
characters and all characters outside ASCII are always among them.
-/

namespace Metering.Url

/-- Two hexadecimal digits, in upper case, after a percent sign. -/
def percentByte (b : UInt8) : List Char :=
  '%' :: [b.toNat / 16, b.toNat % 16].map fun n => (Nat.digitChar n).toUpper

/-- A control character, or a character outside ASCII. -/
def isForeign (c : Char) : Bool := c < ' ' || '\x7e' < c

/-- Characters that may not stand in a fragment. -/
def inFragment (c : Char) : Bool := isForeign c || [' ', '"', '<', '>', (Char.ofNat 0x60)].contains c

/-- Characters that may not stand in a query. -/
def inQuery (c : Char) : Bool := isForeign c || [' ', '"', '#', '<', '>'].contains c

/-- Characters that may not stand in the query of a special URL. -/
def inSpecialQuery (c : Char) : Bool := inQuery c || c = '\''

/-- Characters that may not stand in a path. -/
def inPath (c : Char) : Bool := inFragment c || ['#', '?', '\x7b', '\x7d'].contains c

/-- Characters that may not stand in a user name or a password. -/
def inUserinfo (c : Char) : Bool :=
  inPath c || ['/', ':', ';', '=', '@', '[', '\\', ']', '^', '|'].contains c

/-- A character, encoded if it has to be. -/
def encodeChar (isBarred : Char → Bool) (c : Char) : List Char :=
  if isBarred c then (String.utf8EncodeChar c).flatMap percentByte else [c]

/-- A text, encoded as far as it has to be. -/
def encode (isBarred : Char → Bool) (cs : List Char) : List Char := cs.flatMap (encodeChar isBarred)

theorem encode_append (isBarred : Char → Bool) (a b : List Char) :
    encode isBarred (a ++ b) = encode isBarred a ++ encode isBarred b := List.flatMap_append

/-- Value of a hexadecimal digit, of either case. -/
def hexValue? (c : Char) : Option Nat :=
  if c.isDigit then some (c.toNat - '0'.toNat)
  else if 'a' ≤ c ∧ c ≤ 'f' then some (c.toNat - 'a'.toNat + 10)
  else if 'A' ≤ c ∧ c ≤ 'F' then some (c.toNat - 'A'.toNat + 10)
  else none

/-- The bytes of a text, in which some are encoded. -/
def decodeBytes : List Char → List UInt8
  | '%' :: a :: b :: rest =>
    match hexValue? a, hexValue? b with
    | some high, some low => (high * 16 + low).toUInt8 :: decodeBytes rest
    | _, _ => String.utf8EncodeChar '%' ++ decodeBytes (a :: b :: rest)
  | c :: rest => String.utf8EncodeChar c ++ decodeBytes rest
  | [] => []

/-- The text that a text with encoded bytes stands for, if the bytes are a text. -/
def decode? (cs : List Char) : Option (List Char) :=
  (String.fromUTF8? ⟨(decodeBytes cs).toArray⟩).map String.toList

end Metering.Url

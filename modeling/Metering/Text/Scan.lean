/-!
# Scanners

A scanner takes characters off the front of a text, or fails.
-/

namespace Metering

/-- Takes characters off the front of a text. -/
abbrev Scan := StateT (List Char) Option

namespace Scan

/-- Gives up. -/
def fail {α : Type} : Scan α := fun _ => none

/-- Takes one character that passes a test. -/
def satisfy (p : Char → Bool) : Scan Char
  | c :: rest => if p c then some (c, rest) else none
  | [] => none

/-- Takes a given character. -/
def char (c : Char) : Scan Unit := do
  let _ ← satisfy (· == c)

/-- Takes given characters. -/
def chars (cs : List Char) : Scan Unit := cs.forM char

/-- Takes all characters up to the first that does not pass a test. -/
def takeWhile (p : Char → Bool) : Scan (List Char) := fun cs =>
  some (cs.takeWhile p, cs.dropWhile p)

/-- The same, but at least one character. -/
def takeWhile₁ (p : Char → Bool) : Scan (List Char) := do
  match ← takeWhile p with
  | [] => fail
  | cs => return cs

/-- Takes exactly so many characters, all of which pass a test. -/
def exactly (n : Nat) (p : Char → Bool) : Scan (List Char) := fun cs =>
  let taken := cs.take n
  if taken.length = n ∧ taken.all p then some (taken, cs.drop n) else none

/-- The next character, which stays. -/
def peek : Scan (Option Char) := fun cs => some (cs.head?, cs)

/-- The text that a scanner takes. -/
def taken {α : Type} (s : Scan α) : Scan (List Char) := fun cs =>
  match s cs with
  | some (_, rest) => some (cs.take (cs.length - rest.length), rest)
  | none => none

end Scan

end Metering

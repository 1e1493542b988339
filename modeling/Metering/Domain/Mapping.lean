import Metering.Domain.Mapping.Barred
import Metering.Domain.Mapping.Runs
import Metering.Domain.Mapping.Several
import Metering.Domain.Mapping.Singles
import Metering.Text.Composition

/-!
# Characters of domain names

A domain name can be typed in many ways. Each character stands for itself, or for others (capital
letters for small ones, wide letters for narrow ones), or for nothing, or may not be typed at all.
-/

namespace Metering.Domain

/-- What a character of a run becomes. -/
def ofRun? (c : Char) : Option Char := do
  let (first, _, step, target) ← findRange? (fun run => (run.1, run.2.1)) runs c.toNat
  if (c.toNat - first) % step = 0 then some (.ofNat (target + (c.toNat - first))) else none

/-- The entry of a character in a table of blocks. -/
def ofBlock? {α β : Type} (entries : β → List α) (blocks : Array (Nat × β)) (c : Char) :
    Option α := do
  let bounds (block : Nat × β) : Nat × Nat := (block.1, block.1 + (entries block.2).length - 1)
  let (first, block) ← findRange? bounds blocks c.toNat
  (entries block)[c.toNat - first]?

/-- What a character becomes, if it does not stand for itself. -/
def replacement? (c : Char) : Option (List Char) :=
  if inRanges droppedRanges c then some []
  else
    match ofRun? c with
    | some d => some [d]
    | none =>
      match ofBlock? String.toList singles c with
      | some d => some [d]
      | none => (ofBlock? id several c).map String.toList

/-- What a character stands for in a domain name; nothing where it may not be typed. -/
def mapped? (c : Char) : Option (List Char) :=
  match replacement? c with
  | some cs => some cs
  | none => if inRanges barredRanges c then none else some [c]

/-- What a text stands for, in composed form. -/
def mappedText? (cs : List Char) : Option (List Char) :=
  (cs.mapM mapped?).map fun parts => composed parts.flatten

/-- Stands for itself. -/
def isPlain (c : Char) : Bool := (replacement? c).isNone && !inRanges barredRanges c

/-- Consists of characters that stand for themselves, in composed form. -/
def isPlainText (cs : List Char) : Bool := cs.all isPlain && composed cs = cs

end Metering.Domain

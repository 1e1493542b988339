import Metering.Domain.Mapping
import Metering.Domain.Punycode
import Metering.Text.Direction
import Metering.Text.Joining
import Metering.Text.Mark

/-!
# Labels of domain names

A label is shown in its own script and written in ASCII, where it begins with a mark of its own if its
own script is another one. What is shown must not be taken for something else: a label begins with no
mark, invisible joiners stand only where they change the letters around them, and no label looks the
same in another order of its characters.
-/

namespace Metering.Domain

/-- A part of a domain name. -/
structure Label where
  shown : List Char
  written : List Char

/-- Begins the written form of a label that is shown in another script. -/
def punycodeMark : List Char := ['x', 'n', '-', '-']

/-- A character of ASCII. -/
def isAscii (c : Char) : Bool := c.toNat < Punycode.firstCode

/-! ## Joiners -/

/-- Keeps two letters apart. -/
def nonJoiner : Char := '\u200c'

/-- Holds two letters together. -/
def joiner : Char := '\u200d'

/-- How the nearest letter joins, where some characters count as not there. -/
def nearestJoining? (cs : List Char) : Option Joining :=
  (cs.dropWhile fun c => joining? c = some .transparent).head?.bind joining?

/-- The combining class of the marks that take the vowel from a consonant. -/
def vowelKillerClass : Nat := 9

/-- A joiner may stand between two texts, of which the first is given backwards. -/
def mayJoin (before : List Char) (c : Char) (after : List Char) : Bool :=
  before.head?.any (Composition.combiningClass · = vowelKillerClass) ||
    (c = nonJoiner &&
      (nearestJoining? before = some .left || nearestJoining? before = some .dual) &&
      (nearestJoining? after = some .right || nearestJoining? after = some .dual))

/-- All joiners of a text stand where they may; `before` is what stands before it, backwards. -/
def joinersFit (before : List Char) : List Char → Bool
  | [] => true
  | c :: after =>
    (if c = joiner ∨ c = nonJoiner then mayJoin before c after else true) &&
      joinersFit (c :: before) after

/-! ## Directions -/

/-- A text is written from right to left in part. -/
def hasRightToLeft (cs : List Char) : Bool :=
  cs.any fun c => direction c = .right || direction c = .arabicNumber

/-- Directions that may stand in a label that begins with a given one. -/
def mayStandIn (first d : Direction) : Bool :=
  match d with
  | .europeanNumber | .neutral | .mark => true
  | .right | .arabicNumber => first = .right
  | .left => first = .left
  | .other => false

/-- Directions that may end a label that begins with a given one. -/
def mayEnd (first d : Direction) : Bool :=
  match d with
  | .europeanNumber => true
  | .right | .arabicNumber => first = .right
  | .left => first = .left
  | .neutral | .mark | .other => false

/-- The characters of a label keep their order where some text is written from right to left. -/
def keepsOrder (cs : List Char) : Bool :=
  match cs.map direction with
  | [] => true
  | first :: rest =>
    let all := first :: rest
    (first = .left || first = .right) && all.all (mayStandIn first) &&
      (all.reverse.dropWhile (· = .mark)).head?.any (mayEnd first) &&
      !(first = .right && all.contains .europeanNumber && all.contains .arabicNumber)

/-! ## Reading -/

/-- May not stand in a domain name, among the characters of ASCII. -/
def isDenied (c : Char) : Bool :=
  c ≤ ' ' || c = '\x7f' ||
    ['#', '%', '/', ':', '<', '>', '?', '@', '[', '\\', ']', '^', '|'].contains c

/-- May be shown as a label of another script. -/
def mayBeShown (cs : List Char) : Bool := !cs.head?.any isMark && joinersFit [] cs

/-- The greatest numbers of characters that are read from ASCII and written in ASCII. -/
def longestRead : Nat := 2000
@[inherit_doc longestRead] def longestWritten : Nat := 1000

/-- The label that is shown as the text in ASCII after the mark tells. -/
def ofPunycode? (cs : List Char) : Option Label := do
  if cs = [] ∨ cs.getLast? = some '-' ∨ longestRead < cs.length then none
  let shown ← Punycode.decode? cs
  if isPlainText shown ∧ mayBeShown shown then some ⟨shown, punycodeMark ++ cs⟩ else none

/-- The label that a text without dots denotes, whose characters stand for themselves. -/
def Label.ofText? (cs : List Char) : Option Label :=
  let isMarked := cs.take punycodeMark.length = punycodeMark
  if cs.all isAscii then
    if isMarked then ofPunycode? (cs.drop punycodeMark.length) else some ⟨cs, cs⟩
  else if isMarked ∨ !mayBeShown cs ∨ longestWritten < cs.length then none
  else some ⟨cs, punycodeMark ++ Punycode.encode cs⟩

end Metering.Domain

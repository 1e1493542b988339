import Metering.Text.Composition.Tables

/-!
# The composed form of a text

One text can be spelled in several ways: a letter with an accent is one character, or a letter and a
mark after it. The composed form of a text takes all its characters apart, puts the marks after each
letter in order of their classes, and then puts together what can be put together. Texts that are
spelled differently have the same composed form.
-/

namespace Metering.Composition

/-! ## Parts -/

/-- The first leading consonant, vowel, trailing consonant and syllable of Hangul. -/
def firstLead : Nat := 0x1100
@[inherit_doc firstLead] def firstVowel : Nat := 0x1161
@[inherit_doc firstLead] def firstTrail : Nat := 0x11a8
@[inherit_doc firstLead] def firstSyllable : Nat := 0xac00

/-- Number of leading consonants, vowels and trailing consonants of Hangul. -/
def leads : Nat := 19
@[inherit_doc leads] def vowels : Nat := 21
@[inherit_doc leads] def trails : Nat := 27

/-- Number `n` of some characters that begin with `first` and are `count` many. -/
def indexFrom? (first count : Nat) (c : Char) : Option Nat :=
  if first ≤ c.toNat ∧ c.toNat < first + count then some (c.toNat - first) else none

/-- The two parts of a syllable of Hangul: what stands before its last letter, and that letter. -/
def syllableParts? (c : Char) : Option (Char × Char) :=
  (indexFrom? firstSyllable (leads * vowels * (trails + 1)) c).map fun n =>
    match n % (trails + 1) with
    | 0 =>
      let pair := n / (trails + 1)
      (.ofNat (firstLead + pair / vowels), .ofNat (firstVowel + pair % vowels))
    | trail + 1 => (.ofNat (c.toNat - (trail + 1)), .ofNat (firstTrail + trail))

/-- The two parts of a composed character. -/
def parts? (c : Char) : Option (Char × Char) :=
  (syllableParts? c).orElse fun _ =>
    (findRange? (fun entry => (entry.1, entry.1)) composites c.toNat).map fun entry =>
      (.ofNat entry.2.1, .ofNat entry.2.2)

/-- Composed characters have parts that are composed, at most this deep. -/
def nesting : Nat := 3

/-- The parts of a character that are not composed themselves, up to a depth. -/
def takeApart : Nat → Char → List Char
  | 0, c => [c]
  | depth + 1, c =>
    match parts? c with
    | none => [c]
    | some (first, second) => takeApart depth first ++ [second]

/-! ## Order of marks -/

/-- The combining class of a character: zero where it begins something new. -/
def combiningClass (c : Char) : Nat := (rangeValue? classRanges c).getD 0

/-- Puts a character in front of a text whose marks are in order, and past the marks that come before
it. -/
def insertMark (c : Char) : List Char → List Char
  | [] => [c]
  | d :: rest =>
    if combiningClass d ≠ 0 ∧ combiningClass d < combiningClass c then d :: insertMark c rest
    else c :: d :: rest

/-- The text with the marks after each letter in order of their classes. -/
def orderMarks (cs : List Char) : List Char := cs.foldr insertMark []

/-! ## Putting together -/

/-- The syllable of Hangul that two characters make. -/
def syllable? (first second : Char) : Option Char :=
  match indexFrom? firstLead leads first, indexFrom? firstVowel vowels second with
  | some lead, some vowel => some (.ofNat (firstSyllable + (lead * vowels + vowel) * (trails + 1)))
  | _, _ =>
    match indexFrom? firstSyllable (leads * vowels * (trails + 1)) first,
        indexFrom? firstTrail trails second with
    | some n, some trail =>
      if n % (trails + 1) = 0 then some (.ofNat (first.toNat + trail + 1)) else none
    | _, _ => none

/-- The character that two characters make. -/
def pair? (first second : Char) : Option Char :=
  (syllable? first second).orElse fun _ =>
    (composites.find? fun entry => entry.2 = (first.toNat, second.toNat)).map fun entry =>
      .ofNat entry.1

/-- Puts the marks that follow a letter together with it where nothing stands between: `passed` are
the marks that did not combine with the letter. -/
def combine (letter : Char) (passed : List Char) : List Char → List Char
  | [] => letter :: passed
  | c :: rest =>
    let reaches := passed.getLast?.all fun mark => combiningClass mark < combiningClass c
    match if reaches then pair? letter c else none with
    | some composed => combine composed passed rest
    | none =>
      if combiningClass c = 0 then letter :: passed ++ combine c [] rest
      else combine letter (passed ++ [c]) rest

/-- Puts together the parts of a text. -/
def combineAll : List Char → List Char
  | [] => []
  | c :: rest => if combiningClass c = 0 then combine c [] rest else c :: combineAll rest

end Metering.Composition

namespace Metering

/-- The composed form of a text. -/
def composed (cs : List Char) : List Char :=
  let parts := cs.flatMap (Composition.takeApart Composition.nesting)
  Composition.combineAll (Composition.orderMarks parts)

end Metering

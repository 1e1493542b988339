/-!
# Punycode

A text in any script as a text in ASCII. The ASCII characters come first. The others follow
as numbers, which tell where each is inserted: all places for the first code point beyond ASCII are
counted, then all places for the next one, and so on; a number says how many places are skipped.

Numbers have digits with base 36, least digit first. A digit below a threshold ends a number; the
thresholds depend on a bias, which follows the size of the last number.
-/

namespace Metering.Punycode

/-! ## Digits and thresholds -/

/-- The first code point beyond ASCII. -/
def firstCode : Nat := 128

/-- The bias before the first number. -/
def firstBias : Nat := 72

/-- A digit as a letter or a digit of base ten. -/
def digitChar (n : Nat) : Char :=
  if n < 26 then .ofNat ('a'.toNat + n) else .ofNat ('0'.toNat + n - 26)

/-- The value of a digit. -/
def digitValue? (c : Char) : Option Nat :=
  if 'a' ≤ c ∧ c ≤ 'z' then some (c.toNat - 'a'.toNat)
  else if 'A' ≤ c ∧ c ≤ 'Z' then some (c.toNat - 'A'.toNat)
  else if c.isDigit then some (c.toNat - '0'.toNat + 26)
  else none

/-- The threshold of a digit: `place` is 36 for the first one, and grows by 36. -/
def threshold (bias place : Nat) : Nat := max 1 (min 26 (place - bias))

/-- The part of the bias that comes from the number of digits. -/
def biasOf (n : Nat) : Nat := if 455 < n then 36 + biasOf (n / 35) else 36 * n / (n + 38)
termination_by n

/-- The bias after a number, which was the first one or not, when the text has `length` characters. -/
def nextBias (isFirst : Bool) (number length : Nat) : Nat :=
  let n := if isFirst then number / 700 else number / 2
  biasOf (n + n / length)

/-! ## Writing -/

/-- The digits of a number. -/
def digits (bias place number : Nat) : List Char :=
  let t := threshold bias place
  if number < t then [digitChar number]
  else digitChar (t + (number - t) % (36 - t)) :: digits bias (place + 36) ((number - t) / (36 - t))
termination_by number
decreasing_by
  have := Nat.div_le_self (number - threshold bias place) (36 - threshold bias place)
  have : 1 ≤ threshold bias place := Nat.le_max_left 1 _
  omega

/-- How far the numbers of a text are written. -/
structure Progress where
  /-- Places skipped since the last number. -/
  skipped : Nat
  bias : Nat
  /-- Number of characters that are written. -/
  length : Nat
  /-- No number is written. -/
  isFirst : Bool
  written : List Char

/-- Goes past one character of the text while the places for `code` are counted. -/
def passOne (code : Nat) (p : Progress) (c : Char) : Progress :=
  if c.toNat < code then { p with skipped := p.skipped + 1 }
  else if c.toNat = code then
    { skipped := 0
      bias := nextBias p.isFirst p.skipped (p.length + 1)
      length := p.length + 1
      isFirst := false
      written := p.written ++ digits p.bias 36 p.skipped }
  else p

/-- Writes the numbers for some code points in ascending order; the places for those below `low` are
counted. -/
def writeCodes (text : List Char) (low : Nat) (p : Progress) : List Nat → Progress
  | [] => p
  | code :: rest =>
    let p := { p with skipped := p.skipped + (code - low) * (p.length + 1) }
    let p := text.foldl (passOne code) p
    writeCodes text (code + 1) { p with skipped := p.skipped + 1 } rest

/-- A text in ASCII. -/
def encode (text : List Char) : List Char :=
  let plain := text.filter (·.toNat < firstCode)
  let codes := ((text.map Char.toNat).filter (firstCode ≤ ·)).mergeSort.eraseDups
  let start : Progress := ⟨0, firstBias, plain.length, true, []⟩
  plain ++ (if plain = [] then [] else ['-']) ++ (writeCodes text firstCode start codes).written

/-! ## Reading -/

/-- Weights of digits lie below this. -/
def weightLimit : Nat := 4294967296

/-- Takes a number off the front of a text. -/
def readNumber? (bias place weight : Nat) : List Char → Option (Nat × List Char)
  | [] => none
  | c :: rest => do
    let digit ← digitValue? c
    let t := threshold bias place
    if digit < t then some (digit * weight, rest)
    else if weightLimit ≤ weight * (36 - t) then none
    else
      let (number, rest) ← readNumber? bias (place + 36) (weight * (36 - t)) rest
      some (digit * weight + number, rest)

theorem length_lt_of_readNumber? {bias place weight number : Nat} {cs rest : List Char}
    (h : readNumber? bias place weight cs = some (number, rest)) : rest.length < cs.length := by
  induction cs generalizing place weight number with
  | nil => simp [readNumber?] at h
  | cons c cs ih =>
    simp only [readNumber?] at h
    cases hd : digitValue? c with
    | none => simp [hd] at h
    | some digit =>
      simp only [hd, Option.bind_eq_bind, Option.bind_some] at h
      split at h
      · simp at h; simp [h.2]
      · split at h
        · simp at h
        · cases hr : readNumber? bias (place + 36) (weight * (36 - threshold bias place)) cs with
          | none => simp [hr] at h
          | some result =>
            simp only [hr, Option.bind_some, Option.some.injEq, Prod.mk.injEq] at h
            have hr : readNumber? bias (place + 36) (weight * (36 - threshold bias place)) cs =
                some (result.1, rest) := by rw [hr, ← h.2]
            have := ih hr
            simp; omega

/-- The character with a code point. -/
def character? (code : Nat) : Option Char := if code.isValidChar then some (.ofNat code) else none

/-- Inserts the characters that numbers tell into `text`. The places before place `place` of the code
point `code` are counted. -/
def insertAll? (text : List Char) (code place bias : Nat) (cs : List Char) : Option (List Char) :=
  match cs with
  | [] => some text
  | c :: cs =>
    match hr : readNumber? bias 36 1 (c :: cs) with
    | none => none
    | some (number, rest) =>
      let count := text.length + 1
      let code := code + (place + number) / count
      let position := (place + number) % count
      have := length_lt_of_readNumber? hr
      match character? code with
      | none => none
      | some inserted =>
        insertAll? (text.take position ++ inserted :: text.drop position) code (position + 1)
          (nextBias (place = 0) number count) rest
termination_by cs.length
decreasing_by simp_all

/-- The text that a text in ASCII stands for. -/
def decode? (cs : List Char) : Option (List Char) :=
  let tail := (cs.reverse.takeWhile (· ≠ '-')).reverse
  let plain := cs.take (cs.length - tail.length)
  if plain = ['-'] then none else insertAll? plain.dropLast firstCode 0 firstBias tail

end Metering.Punycode

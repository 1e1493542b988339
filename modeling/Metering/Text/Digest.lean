/-!
# Digests

The SHA-1 digest of a text, by which a script is named. The bytes of the text are padded to blocks of
64 bytes: a bit that is set, zeros, and the number of bits. Each block is stretched to eighty words,
which are worked into five words of state.
-/

namespace Metering.Digest

/-- The state between two blocks. -/
structure State where
  a : UInt32
  b : UInt32
  c : UInt32
  d : UInt32
  e : UInt32

/-- The state before the first block. -/
def State.start : State := ⟨0x67452301, 0xefcdab89, 0x98badcfe, 0x10325476, 0xc3d2e1f0⟩

/-- Rotates a word to the left. -/
def rotate (x : UInt32) (amount : UInt32) : UInt32 := (x <<< amount) ||| (x >>> (32 - amount))

/-- The big-endian bytes of a number. -/
def bytesOf (count n : Nat) : List UInt8 :=
  (List.range count).map fun i => UInt8.ofNat (n >>> (8 * (count - 1 - i)))

/-- The bytes with their padding. -/
def pad (bytes : List UInt8) : List UInt8 :=
  bytes ++ 0x80 :: List.replicate ((119 - bytes.length % 64) % 64) 0 ++ bytesOf 8 (8 * bytes.length)

/-- The big-endian words of some bytes. -/
def words : List UInt8 → List UInt32
  | a :: b :: c :: d :: rest =>
    (a.toUInt32 <<< 24 ||| b.toUInt32 <<< 16 ||| c.toUInt32 <<< 8 ||| d.toUInt32) :: words rest
  | _ => []

/-- Stretches words, the latest of which stands first, by so many. -/
def stretch : Nat → List UInt32 → List UInt32
  | 0, ws => ws
  | n + 1, ws =>
    let word (i : Nat) : UInt32 := ws.getD i 0
    stretch n (rotate (word 2 ^^^ word 7 ^^^ word 13 ^^^ word 15) 1 :: ws)

/-- The mixing function and the constant of a step. -/
def mixing (step : Nat) (b c d : UInt32) : UInt32 × UInt32 :=
  if step < 20 then ((b &&& c) ||| (~~~b &&& d), 0x5a827999)
  else if step < 40 then (b ^^^ c ^^^ d, 0x6ed9eba1)
  else if step < 60 then ((b &&& c) ||| (b &&& d) ||| (c &&& d), 0x8f1bbcdc)
  else (b ^^^ c ^^^ d, 0xca62c1d6)

/-- Works one word into the state. -/
def step (s : State) (i : Nat) (word : UInt32) : State :=
  let (mixed, constant) := mixing i s.b s.c s.d
  ⟨rotate s.a 5 + mixed + s.e + constant + word, s.a, rotate s.b 30, s.c, s.d⟩

/-- Works the words of a block into the state, from step `i` on. -/
def steps : Nat → List UInt32 → State → State
  | _, [], s => s
  | i, word :: rest, s => steps (i + 1) rest (step s i word)

/-- Works a block of sixteen words into the state. -/
def block (s : State) (ws : List UInt32) : State :=
  let t := steps 0 (stretch 64 ws.reverse).reverse s
  ⟨s.a + t.a, s.b + t.b, s.c + t.c, s.d + t.d, s.e + t.e⟩

/-- Works all words into the state, sixteen at a time. -/
def blocks (s : State) (ws : List UInt32) : State :=
  if ws.length < 16 then s else blocks (block s (ws.take 16)) (ws.drop 16)
termination_by ws.length
decreasing_by
  simp only [List.length_drop]
  omega

/-- Hexadecimal digits of a word. -/
def wordText (w : UInt32) : String :=
  let digits := Nat.toDigits 16 w.toNat
  String.ofList (List.replicate (8 - digits.length) '0' ++ digits)

/-- The digest of a text in forty hexadecimal digits. -/
def ofText (text : String) : String :=
  let s := blocks .start (words (pad text.toUTF8.toList))
  String.join ([s.a, s.b, s.c, s.d, s.e].map wordText)

end Metering.Digest

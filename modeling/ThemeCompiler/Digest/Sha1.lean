/-
**The SHA-1 digest.**

The message is padded to whole blocks of sixteen words; each block is stretched to eighty words and
mixed into five words of state, which begin at fixed values and are the digest at the end.

Main definitions:

* `ThemeCompiler.Digest.State` — the five words of state;
* `ThemeCompiler.Digest.pad`, `ThemeCompiler.Digest.schedule` — the padded message, the eighty
  words of a block;
* `ThemeCompiler.Digest.sha1` — the twenty bytes of the digest.
-/

set_option relaxedAutoImplicit false
set_option autoImplicit false

namespace ThemeCompiler

namespace Digest

/-! ### Words and bytes -/

/-- The word of four bytes, the most significant first. -/
def wordOfBytes (a b c d : UInt8) : UInt32 :=
  (a.toUInt32 <<< 24) ||| (b.toUInt32 <<< 16) ||| (c.toUInt32 <<< 8) ||| d.toUInt32

/-- The four bytes of a word, the most significant first. -/
def bytesOfWord (w : UInt32) : List UInt8 :=
  [(w >>> 24).toUInt8, (w >>> 16).toUInt8, (w >>> 8).toUInt8, w.toUInt8]

/-- The words of a list of bytes; up to three bytes at the end are left over. -/
def wordsOfBytes : List UInt8 → List UInt32
  | a :: b :: c :: d :: rest => wordOfBytes a b c d :: wordsOfBytes rest
  | _ => []

/-- A word with its bits turned `n` places to the left. -/
def rotate (w n : UInt32) : UInt32 := (w <<< n) ||| (w >>> (32 - n))

/-! ### The message -/

/-- The eight bytes of a length in bits. -/
def lengthBytes (bits : Nat) : List UInt8 :=
  bytesOfWord (UInt32.ofNat (bits / 0x100000000)) ++ bytesOfWord (UInt32.ofNat bits)

/-- **The padded message**: a one bit, zeros up to eight bytes before the end of a block, and the
length of the message in bits. -/
def pad (message : List UInt8) : List UInt8 :=
  message ++ 0x80 :: List.replicate ((119 - message.length % 64) % 64) 0
    ++ lengthBytes (8 * message.length)

/-- The blocks of sixteen words; `count` bounds their number. -/
def blocks : Nat → List UInt32 → List (List UInt32)
  | 0, _ => []
  | count + 1, ws => if ws.isEmpty then [] else ws.take 16 :: blocks count (ws.drop 16)

/-- The word that follows those given, last one first. -/
def nextWord (ws : List UInt32) : UInt32 :=
  rotate (ws.getD 2 0 ^^^ ws.getD 7 0 ^^^ ws.getD 13 0 ^^^ ws.getD 15 0) 1

/-- `n` more words before those given, last one first. -/
def extend : Nat → List UInt32 → List UInt32
  | 0, ws => ws
  | n + 1, ws => extend n (nextWord ws :: ws)

/-- **The eighty words of a block.** -/
def schedule (block : List UInt32) : List UInt32 := (extend 64 block.reverse).reverse

/-! ### Mixing -/

/-- The five words of state. -/
structure State where
  a : UInt32
  b : UInt32
  c : UInt32
  d : UInt32
  e : UInt32

/-- The state before the first block. -/
def State.initial : State :=
  ⟨0x67452301, 0xEFCDAB89, 0x98BADCFE, 0x10325476, 0xC3D2E1F0⟩

/-- The sum of two states, word by word. -/
def State.add (s t : State) : State :=
  ⟨s.a + t.a, s.b + t.b, s.c + t.c, s.d + t.d, s.e + t.e⟩

/-- The function of three state words and the constant that belong to a round. -/
def State.roundWord (s : State) (round : Nat) : UInt32 :=
  if round < 20 then ((s.b &&& s.c) ||| (~~~s.b &&& s.d)) + 0x5A827999
  else if round < 40 then (s.b ^^^ s.c ^^^ s.d) + 0x6ED9EBA1
  else if round < 60 then ((s.b &&& s.c) ||| (s.b &&& s.d) ||| (s.c &&& s.d)) + 0x8F1BBCDC
  else (s.b ^^^ s.c ^^^ s.d) + 0xCA62C1D6

/-- One round with the word that the schedule has for it. -/
def State.step (s : State) (round : Nat) (word : UInt32) : State :=
  ⟨rotate s.a 5 + s.roundWord round + s.e + word, s.a, rotate s.b 30, s.c, s.d⟩

/-- The rounds from number `round` on, one for each word. -/
def State.rounds : State → Nat → List UInt32 → State
  | s, _, [] => s
  | s, round, w :: ws => State.rounds (s.step round w) (round + 1) ws

/-- The state after a block. -/
def State.absorb (s : State) (block : List UInt32) : State :=
  s.add (s.rounds 0 (schedule block))

/-- The bytes of a state. -/
def State.bytes (s : State) : List UInt8 :=
  [s.a, s.b, s.c, s.d, s.e].flatMap bytesOfWord

/-- **The SHA-1 digest of a message.** -/
def sha1 (message : List UInt8) : List UInt8 :=
  let ws := wordsOfBytes (pad message)
  ((blocks ws.length ws).foldl State.absorb State.initial).bytes

end Digest

end ThemeCompiler

import SecurityToken.Bytes

/-!
The SHA-1 digest, which older forms of encryption padding still call for.
-/

namespace SecurityToken.Sha1

structure State where
  (a b c d e : UInt32)

def rotateLeft (word : UInt32) (count : UInt32) : UInt32 :=
  (word <<< count) ||| (word >>> (32 - count))

def mix (index : Nat) (b c d : UInt32) : UInt32 × UInt32 :=
  if index < 20 then ((b &&& c) ||| (~~~b &&& d), 0x5a827999)
  else if index < 40 then (b ^^^ c ^^^ d, 0x6ed9eba1)
  else if index < 60 then ((b &&& c) ||| (b &&& d) ||| (c &&& d), 0x8f1bbcdc)
  else (b ^^^ c ^^^ d, 0xca62c1d6)

def State.round (state : State) (index : Nat) (word : UInt32) : State :=
  let (mixed, constant) := mix index state.b state.c state.d
  ⟨rotateLeft state.a 5 + mixed + state.e + constant + word, state.a, rotateLeft state.b 30,
    state.c, state.d⟩

def schedule (block : List UInt32) : List UInt32 :=
  let extended := (List.range 64).foldl (fun words index =>
    words.push (rotateLeft (words.getD (index + 13) 0 ^^^ words.getD (index + 8) 0 ^^^
      words.getD (index + 2) 0 ^^^ words.getD index 0) 1)) block.toArray
  extended.toList

def compress (state : State) (block : Bytes) : State :=
  let words := (block.pieces 4).map fun piece => UInt32.ofNat (Bytes.toNat piece)
  let last := (schedule words).zipIdx.foldl (fun state pair => state.round pair.2 pair.1) state
  ⟨state.a + last.a, state.b + last.b, state.c + last.c, state.d + last.d, state.e + last.e⟩

/-- A message with a one bit, zeros and its length in bits behind it, up to whole blocks. -/
def pad (message : Bytes) : Bytes :=
  let zeros := (64 - (message.length + 9) % 64) % 64
  message ++ 0x80 :: List.replicate zeros 0 ++ Bytes.ofNat 8 (8 * message.length)

def sha1 (message : Bytes) : Bytes :=
  let start : State := ⟨0x67452301, 0xefcdab89, 0x98badcfe, 0x10325476, 0xc3d2e1f0⟩
  let last := ((pad message).pieces 64).foldl compress start
  [last.a, last.b, last.c, last.d, last.e].flatMap fun word => Bytes.ofNat 4 word.toNat

end SecurityToken.Sha1

import SecurityToken.Crypto.Block

/-!
Galois/counter mode with initialization vectors of twelve bytes and tags of sixteen.
-/

namespace SecurityToken.Gcm

/-- One step of a product: the sum so far and the factor doubled in the field, whose elements have
their lowest power on top. -/
def step (state : Nat × Nat) (bit : Bool) : Nat × Nat :=
  let (sum, factor) := state
  let sum := if bit then sum ^^^ factor else sum
  let factor :=
    if factor % 2 = 1 then (factor >>> 1) ^^^ (0xe1 <<< 120) else factor >>> 1
  (sum, factor)

/-- The product in the field of 2 ^ 128 elements. -/
def multiply (left right : Nat) : Nat :=
  ((List.range 128).foldl (fun state index => step state (left.testBit (127 - index)))
    (0, right)).1

def fill (bytes : Bytes) : Bytes :=
  bytes ++ List.replicate ((16 - bytes.length % 16) % 16) 0

/-- The keyed sum over associated data, sealed bytes and the lengths of both in bits. -/
def sum (key : Nat) (associated sealed : Bytes) : Nat :=
  let lengths := Bytes.ofNat 8 (8 * associated.length) ++ Bytes.ofNat 8 (8 * sealed.length)
  (Block.split (fill associated ++ fill sealed ++ lengths)).foldl
    (fun total block => multiply (total ^^^ block.toNat) key) 0

def counterBlock (iv : Bytes) (counter : Nat) : Block :=
  Block.filled (iv.take 12 ++ Bytes.ofNat 4 counter)

/-- The bytes that a message is combined with: the counter starts at two. -/
def keystream (cipher : BlockCipher) (iv : Bytes) (length : Nat) : Bytes :=
  ((List.range ((length + 15) / 16)).flatMap fun index =>
    (cipher.encrypt (counterBlock iv (index + 2))).bytes).take length

/-- Seals a message or opens a sealed one: the two are the same. -/
def combine (cipher : BlockCipher) (iv message : Bytes) : Bytes :=
  Bytes.xor message (keystream cipher iv message.length)

/-- The most bytes that a message may have, and that may be authenticated beside it. -/
def maximumLength : Nat := 0x1000000000

/-- Whether a message is short enough to be sealed. -/
def admits (associated message : Bytes) : Bool :=
  decide (message.length ≤ maximumLength) && decide (associated.length ≤ maximumLength)

/-- Whether a sealed message is short enough to be opened; a tag more is let pass. -/
def admitsSealed (associated sealed : Bytes) : Bool :=
  decide (sealed.length ≤ maximumLength + 16) && decide (associated.length ≤ maximumLength)

def tag (cipher : BlockCipher) (iv associated sealed : Bytes) : Bytes :=
  let key := (cipher.encrypt .zero).toNat
  let mask := (cipher.encrypt (counterBlock iv 1)).toNat
  Bytes.ofNat 16 (sum key associated sealed ^^^ mask)

end SecurityToken.Gcm

import SecurityToken.Crypto.Block

/-!
Cipher block chaining with padding: each block is combined with the sealed block before it, and the
last one is filled up with bytes that give their own number.
Main statements: chaining and padding are undone.
-/

namespace SecurityToken.Cbc

def encryptBlocks (cipher : BlockCipher) : Block → List Block → List Block
  | _, [] => []
  | previous, block :: rest =>
      let sealed := cipher.encrypt (block.xor previous)
      sealed :: encryptBlocks cipher sealed rest

def decryptBlocks (cipher : BlockCipher) : Block → List Block → List Block
  | _, [] => []
  | previous, block :: rest =>
      (cipher.decrypt block).xor previous :: decryptBlocks cipher block rest

theorem decryptBlocks_encryptBlocks (cipher : BlockCipher) (previous : Block)
    (blocks : List Block) :
    decryptBlocks cipher previous (encryptBlocks cipher previous blocks) = blocks := by
  induction blocks generalizing previous with
  | nil => rfl
  | cons block rest ih =>
      simp only [encryptBlocks, decryptBlocks, cipher.decrypt_encrypt, Block.xor_xor_cancel, ih]

/-- How many bytes fill up a message: one to sixteen. -/
def padLength (message : Bytes) : Nat :=
  16 - message.length % 16

def pad (message : Bytes) : Bytes :=
  message ++ List.replicate (padLength message) (UInt8.ofNat (padLength message))

def unpad? (padded : Bytes) : Option Bytes :=
  match padded.getLast? with
  | none => none
  | some last =>
      let count := last.toNat
      let kept := padded.take (padded.length - count)
      if 0 < count ∧ count ≤ 16 ∧ count ≤ padded.length ∧
          padded.drop (padded.length - count) = List.replicate count last then some kept
      else none

theorem unpad?_pad (message : Bytes) : unpad? (pad message) = some message := by
  have hpos : 0 < padLength message := by unfold padLength; omega
  have hle : padLength message ≤ 16 := by unfold padLength; omega
  have hlast : (pad message).getLast? = some (UInt8.ofNat (padLength message)) := by
    simp [pad, List.getLast?_append, List.getLast?_replicate, Nat.ne_of_gt hpos]
  have hcount : (UInt8.ofNat (padLength message)).toNat = padLength message := by
    rw [UInt8.toNat_ofNat']
    exact Nat.mod_eq_of_lt (by omega)
  have hlength : (pad message).length - padLength message = message.length := by
    simp [pad]
  simp only [unpad?, hlast, hcount, hlength]
  rw [if_pos ⟨hpos, hle, by simp [pad], by simp [pad]⟩]
  simp [pad]

theorem length_pad_mod (message : Bytes) : (pad message).length % 16 = 0 := by
  simp only [pad, padLength, List.length_append, List.length_replicate]
  omega

def encrypt (cipher : BlockCipher) (iv : Block) (message : Bytes) : Bytes :=
  (encryptBlocks cipher iv (Block.split (pad message))).flatMap Block.bytes

def decrypt? (cipher : BlockCipher) (iv : Block) (sealed : Bytes) : Option Bytes :=
  unpad? ((decryptBlocks cipher iv (Block.split sealed)).flatMap Block.bytes)

theorem decrypt?_encrypt (cipher : BlockCipher) (iv : Block) (message : Bytes) :
    decrypt? cipher iv (encrypt cipher iv message) = some message := by
  rw [decrypt?, encrypt, Block.split_flatMap_bytes, decryptBlocks_encryptBlocks,
    Block.flatMap_bytes_split _ (length_pad_mod message), unpad?_pad]

end SecurityToken.Cbc

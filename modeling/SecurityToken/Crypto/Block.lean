import SecurityToken.Bytes

/-!
Blocks of sixteen bytes, as four columns of four, and block ciphers as permutations of them.
Main statements: a block is read back from its bytes, and blocks from the bytes of a list of them.
-/

namespace SecurityToken

structure Column where
  (a b c d : UInt8)
  deriving DecidableEq

namespace Column

def zero : Column := ⟨0, 0, 0, 0⟩

def xor (left right : Column) : Column :=
  ⟨left.a ^^^ right.a, left.b ^^^ right.b, left.c ^^^ right.c, left.d ^^^ right.d⟩

def bytes (column : Column) : Bytes :=
  [column.a, column.b, column.c, column.d]

def ofNat (value : Nat) : Column :=
  ⟨UInt8.ofNat (value / 0x1000000), UInt8.ofNat (value / 0x10000), UInt8.ofNat (value / 0x100),
    UInt8.ofNat value⟩

theorem xor_xor_cancel (left right : Column) : (left.xor right).xor right = left := by
  simp only [xor, UInt8.xor_assoc, UInt8.xor_self, UInt8.xor_zero]

end Column

structure Block where
  (first second third fourth : Column)
  deriving DecidableEq

namespace Block

def zero : Block := ⟨.zero, .zero, .zero, .zero⟩

def xor (left right : Block) : Block :=
  ⟨left.first.xor right.first, left.second.xor right.second, left.third.xor right.third,
    left.fourth.xor right.fourth⟩

def map (change : Column → Column) (block : Block) : Block :=
  ⟨change block.first, change block.second, change block.third, change block.fourth⟩

def bytes (block : Block) : Bytes :=
  block.first.bytes ++ block.second.bytes ++ block.third.bytes ++ block.fourth.bytes

def toNat (block : Block) : Nat := Bytes.toNat block.bytes

/-- The block of the low 128 bits of a number. -/
def ofNat (value : Nat) : Block :=
  ⟨.ofNat (value / 0x1000000000000000000000000), .ofNat (value / 0x10000000000000000),
    .ofNat (value / 0x100000000), .ofNat value⟩

/-- The whole blocks at the front of a byte string; fewer than sixteen bytes after them are left
out. -/
def split : Bytes → List Block
  | a :: b :: c :: d :: e :: f :: g :: h :: i :: j :: k :: l :: m :: n :: o :: p :: rest =>
      ⟨⟨a, b, c, d⟩, ⟨e, f, g, h⟩, ⟨i, j, k, l⟩, ⟨m, n, o, p⟩⟩ :: split rest
  | _ => []

def filled (bytes : Bytes) : Block :=
  (split (bytes ++ List.replicate 16 0)).headD .zero

theorem xor_xor_cancel (left right : Block) : (left.xor right).xor right = left := by
  simp [xor, Column.xor_xor_cancel]

@[simp]
theorem length_bytes (block : Block) : block.bytes.length = 16 := rfl

theorem split_bytes_append (block : Block) (rest : Bytes) :
    split (block.bytes ++ rest) = block :: split rest := rfl

theorem split_flatMap_bytes (blocks : List Block) : split (blocks.flatMap bytes) = blocks := by
  induction blocks with
  | nil => rfl
  | cons block rest ih => rw [List.flatMap_cons, split_bytes_append, ih]

theorem flatMap_bytes_split (bytes : Bytes) (h : bytes.length % 16 = 0) :
    (split bytes).flatMap Block.bytes = bytes := by
  fun_induction split bytes with
  | case1 a b c d e f g h i j k l m n o p rest ih =>
      simp only [List.length_cons] at h
      rw [List.flatMap_cons, ih (by omega)]
      rfl
  | case2 bytes hshort =>
      match bytes, h, hshort with
      | [], _, _ => rfl
      | a :: b :: c :: d :: e :: f :: g :: h :: i :: j :: k :: l :: m :: n :: o :: p :: rest, _, hshort =>
          exact absurd rfl (hshort a b c d e f g h i j k l m n o p rest)

end Block

/-- A permutation of blocks, with its inverse. -/
structure BlockCipher where
  encrypt : Block → Block
  decrypt : Block → Block
  decrypt_encrypt : ∀ block, decrypt (encrypt block) = block
  encrypt_decrypt : ∀ block, encrypt (decrypt block) = block

end SecurityToken

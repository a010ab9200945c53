import SecurityToken.Crypto.Block

/-!
The block cipher AES, for keys of 128 and 256 bits.
Main statements: each step of a round is undone by its inverse, and so a cipher is a permutation of
blocks for every key.
-/

namespace SecurityToken.Aes

/-- A table of 256 bytes as one number, the first byte on top, from rows of 32 bytes. -/
def table (rows : List Nat) : Nat :=
  rows.foldl (fun value row => value * Nat.pow 2 256 + row) 0

def lookup (table : Nat) (byte : UInt8) : UInt8 :=
  UInt8.ofNat (table >>> (8 * (255 - byte.toNat)))

def substitution : Nat :=
  table [
    0x637c777bf26b6fc53001672bfed7ab76ca82c97dfa5947f0add4a2af9ca472c0,
    0xb7fd9326363ff7cc34a5e5f171d8311504c723c31896059a071280e2eb27b275,
    0x09832c1a1b6e5aa0523bd6b329e32f8453d100ed20fcb15b6acbbe394a4c58cf,
    0xd0efaafb434d338545f9027f503c9fa851a3408f929d38f5bcb6da2110fff3d2,
    0xcd0c13ec5f974417c4a77e3d645d197360814fdc222a908846eeb814de5e0bdb,
    0xe0323a0a4906245cc2d3ac629195e479e7c8376d8dd54ea96c56f4ea657aae08,
    0xba78252e1ca6b4c6e8dd741f4bbd8b8a703eb5664803f60e613557b986c11d9e,
    0xe1f8981169d98e949b1e87e9ce5528df8ca1890dbfe6426841992d0fb054bb16]

def inverseSubstitution : Nat :=
  table [
    0x52096ad53036a538bf40a39e81f3d7fb7ce339829b2fff87348e4344c4dee9cb,
    0x547b9432a6c2233dee4c950b42fac34e082ea16628d924b2765ba2496d8bd125,
    0x72f8f66486689816d4a45ccc5d65b6926c704850fdedb9da5e154657a78d9d84,
    0x90d8ab008cbcd30af7e45805b8b34506d02c1e8fca3f0f02c1afbd0301138a6b,
    0x3a9111414f67dcea97f2cfcef0b4e67396ac7422e7ad3585e2f937e81c75df6e,
    0x47f11a711d29c5896fb7620eaa18be1bfc563e4bc6d279209adbc0fe78cd5af4,
    0x1fdda8338807c731b11210592780ec5f60517fa919b54a0d2de57a9f93c99cef,
    0xa0e03b4dae2af5b0c8ebbb3c83539961172b047eba77d626e169146355210c7d]

def substitute (byte : UInt8) : UInt8 := lookup substitution byte

def unsubstitute (byte : UInt8) : UInt8 := lookup inverseSubstitution byte

theorem unsubstitute_substitute (byte : UInt8) : unsubstitute (substitute byte) = byte := by
  have hall : ∀ value : Fin 256,
      unsubstitute (substitute (UInt8.ofNat value)) = UInt8.ofNat value := by decide +kernel
  have := hall ⟨byte.toNat, byte.toNat_lt⟩
  simpa using this

theorem substitute_unsubstitute (byte : UInt8) : substitute (unsubstitute byte) = byte := by
  have hall : ∀ value : Fin 256,
      substitute (unsubstitute (UInt8.ofNat value)) = UInt8.ofNat value := by decide +kernel
  have := hall ⟨byte.toNat, byte.toNat_lt⟩
  simpa using this

def double (byte : UInt8) : UInt8 :=
  (byte <<< 1) ^^^ ((byte >>> 7) * 0x1b)

theorem highBit_cases (byte : UInt8) : byte >>> 7 = 0 ∨ byte >>> 7 = 1 := by
  have hall : ∀ value : Fin 256,
      UInt8.ofNat value >>> 7 = 0 ∨ UInt8.ofNat value >>> 7 = 1 := by decide +kernel
  have := hall ⟨byte.toNat, byte.toNat_lt⟩
  simpa using this

theorem xor_left_comm (first second third : UInt8) :
    first ^^^ (second ^^^ third) = second ^^^ (first ^^^ third) := by
  rw [← UInt8.xor_assoc, UInt8.xor_comm first second, UInt8.xor_assoc]

theorem double_xor (left right : UInt8) :
    double (left ^^^ right) = double left ^^^ double right := by
  unfold double
  rw [UInt8.shiftLeft_xor, UInt8.shiftRight_xor]
  rcases highBit_cases left with hleft | hleft <;> rcases highBit_cases right with hright | hright <;>
    rw [hleft, hright] <;>
    simp [UInt8.xor_comm, UInt8.xor_assoc, xor_left_comm]

def triple (byte : UInt8) : UInt8 := double byte ^^^ byte

def eightfold (byte : UInt8) : UInt8 := double (double (double byte))

/-- Mixes the bytes of a column with the factors 2, 3, 1, 1. -/
def mixColumn (column : Column) : Column :=
  ⟨double column.a ^^^ triple column.b ^^^ column.c ^^^ column.d,
    column.a ^^^ double column.b ^^^ triple column.c ^^^ column.d,
    column.a ^^^ column.b ^^^ double column.c ^^^ triple column.d,
    triple column.a ^^^ column.b ^^^ column.c ^^^ double column.d⟩

def times9 (byte : UInt8) : UInt8 := eightfold byte ^^^ byte

def times11 (byte : UInt8) : UInt8 := eightfold byte ^^^ double byte ^^^ byte

def times13 (byte : UInt8) : UInt8 := eightfold byte ^^^ double (double byte) ^^^ byte

def times14 (byte : UInt8) : UInt8 := eightfold byte ^^^ double (double byte) ^^^ double byte

/-- Mixes the bytes of a column with the factors 14, 11, 13, 9. -/
def unmixColumn (column : Column) : Column :=
  ⟨times14 column.a ^^^ times11 column.b ^^^ times13 column.c ^^^ times9 column.d,
    times9 column.a ^^^ times14 column.b ^^^ times11 column.c ^^^ times13 column.d,
    times13 column.a ^^^ times9 column.b ^^^ times14 column.c ^^^ times11 column.d,
    times11 column.a ^^^ times13 column.b ^^^ times9 column.c ^^^ times14 column.d⟩

theorem triple_xor (left right : UInt8) :
    triple (left ^^^ right) = triple left ^^^ triple right := by
  simp only [triple, double_xor, UInt8.xor_comm, UInt8.xor_assoc, xor_left_comm]

theorem times9_xor (left right : UInt8) :
    times9 (left ^^^ right) = times9 left ^^^ times9 right := by
  simp only [times9, eightfold, double_xor, UInt8.xor_comm, UInt8.xor_assoc, xor_left_comm]

theorem times11_xor (left right : UInt8) :
    times11 (left ^^^ right) = times11 left ^^^ times11 right := by
  simp only [times11, eightfold, double_xor, UInt8.xor_comm, UInt8.xor_assoc, xor_left_comm]

theorem times13_xor (left right : UInt8) :
    times13 (left ^^^ right) = times13 left ^^^ times13 right := by
  simp only [times13, eightfold, double_xor, UInt8.xor_comm, UInt8.xor_assoc, xor_left_comm]

theorem times14_xor (left right : UInt8) :
    times14 (left ^^^ right) = times14 left ^^^ times14 right := by
  simp only [times14, eightfold, double_xor, UInt8.xor_comm, UInt8.xor_assoc, xor_left_comm]

theorem mixColumn_xor (left right : Column) :
    mixColumn (left.xor right) = (mixColumn left).xor (mixColumn right) := by
  simp only [mixColumn, Column.xor, triple_xor, double_xor, UInt8.xor_comm, UInt8.xor_assoc,
    xor_left_comm]

theorem unmixColumn_xor (left right : Column) :
    unmixColumn (left.xor right) = (unmixColumn left).xor (unmixColumn right) := by
  simp only [unmixColumn, Column.xor, times9_xor, times11_xor, times13_xor, times14_xor,
    UInt8.xor_comm, UInt8.xor_assoc, xor_left_comm]

/-- Columns with one byte that may differ from zero. -/
def units (byte : UInt8) : List Column :=
  [⟨byte, 0, 0, 0⟩, ⟨0, byte, 0, 0⟩, ⟨0, 0, byte, 0⟩, ⟨0, 0, 0, byte⟩]

theorem xor_cancel_left (first second : UInt8) : first ^^^ (first ^^^ second) = second := by
  rw [← UInt8.xor_assoc, UInt8.xor_self, UInt8.zero_xor]

theorem double_zero : double 0 = 0 := by decide

theorem mix_units (byte : UInt8) :
    ∀ column ∈ units byte, unmixColumn (mixColumn column) = column ∧
      mixColumn (unmixColumn column) = column := by
  simp only [units, List.mem_cons, List.not_mem_nil, or_false, forall_eq_or_imp, forall_eq,
    unmixColumn, mixColumn, times9, times11, times13, times14, eightfold, triple, double_zero,
    double_xor, UInt8.xor_zero, UInt8.zero_xor, UInt8.xor_self, Column.mk.injEq]
  generalize double (double (double (double byte))) = fourth
  generalize double (double (double byte)) = third
  generalize double (double byte) = second
  generalize double byte = first
  refine ⟨⟨⟨?_, ?_, ?_, ?_⟩, ?_, ?_, ?_, ?_⟩, ⟨⟨?_, ?_, ?_, ?_⟩, ?_, ?_, ?_, ?_⟩,
    ⟨⟨?_, ?_, ?_, ?_⟩, ?_, ?_, ?_, ?_⟩, ⟨?_, ?_, ?_, ?_⟩, ?_, ?_, ?_, ?_⟩ <;>
    simp only [UInt8.xor_comm, xor_left_comm, xor_cancel_left, UInt8.xor_self, UInt8.xor_zero]

theorem eq_xor_units (column : Column) :
    column = (((⟨column.a, 0, 0, 0⟩ : Column).xor ⟨0, column.b, 0, 0⟩).xor
      ⟨0, 0, column.c, 0⟩).xor ⟨0, 0, 0, column.d⟩ := by
  simp [Column.xor]

theorem unmixColumn_mixColumn (column : Column) : unmixColumn (mixColumn column) = column := by
  rw [eq_xor_units column]
  simp only [mixColumn_xor, unmixColumn_xor]
  rw [(mix_units column.a _ (by simp [units])).1, (mix_units column.b _ (by simp [units])).1,
    (mix_units column.c _ (by simp [units])).1, (mix_units column.d _ (by simp [units])).1]

theorem mixColumn_unmixColumn (column : Column) : mixColumn (unmixColumn column) = column := by
  rw [eq_xor_units column]
  simp only [mixColumn_xor, unmixColumn_xor]
  rw [(mix_units column.a _ (by simp [units])).2, (mix_units column.b _ (by simp [units])).2,
    (mix_units column.c _ (by simp [units])).2, (mix_units column.d _ (by simp [units])).2]

def substituteColumn (column : Column) : Column :=
  ⟨substitute column.a, substitute column.b, substitute column.c, substitute column.d⟩

def unsubstituteColumn (column : Column) : Column :=
  ⟨unsubstitute column.a, unsubstitute column.b, unsubstitute column.c, unsubstitute column.d⟩

def shiftRows (block : Block) : Block :=
  ⟨⟨block.first.a, block.second.b, block.third.c, block.fourth.d⟩,
    ⟨block.second.a, block.third.b, block.fourth.c, block.first.d⟩,
    ⟨block.third.a, block.fourth.b, block.first.c, block.second.d⟩,
    ⟨block.fourth.a, block.first.b, block.second.c, block.third.d⟩⟩

def unshiftRows (block : Block) : Block :=
  ⟨⟨block.first.a, block.fourth.b, block.third.c, block.second.d⟩,
    ⟨block.second.a, block.first.b, block.fourth.c, block.third.d⟩,
    ⟨block.third.a, block.second.b, block.first.c, block.fourth.d⟩,
    ⟨block.fourth.a, block.third.b, block.second.c, block.first.d⟩⟩

/-- The keys of the rounds: before the first, after each but the last, and after the last. -/
structure Schedule where
  first : Block
  middle : List Block
  last : Block

/-- A round before its key is added, without the mixing of columns. -/
def confuse (block : Block) : Block :=
  shiftRows (block.map substituteColumn)

def unconfuse (block : Block) : Block :=
  (unshiftRows block).map unsubstituteColumn

theorem unconfuse_confuse (block : Block) : unconfuse (confuse block) = block := by
  simp [unconfuse, confuse, unshiftRows, shiftRows, Block.map, substituteColumn,
    unsubstituteColumn, unsubstitute_substitute]

theorem confuse_unconfuse (block : Block) : confuse (unconfuse block) = block := by
  simp [unconfuse, confuse, unshiftRows, shiftRows, Block.map, substituteColumn,
    unsubstituteColumn, substitute_unsubstitute]

def round (block key : Block) : Block :=
  ((confuse block).map mixColumn).xor key

def unround (key block : Block) : Block :=
  unconfuse ((block.xor key).map unmixColumn)

theorem map_unmixColumn_mixColumn (block : Block) :
    (block.map mixColumn).map unmixColumn = block := by
  simp [Block.map, unmixColumn_mixColumn]

theorem map_mixColumn_unmixColumn (block : Block) :
    (block.map unmixColumn).map mixColumn = block := by
  simp [Block.map, mixColumn_unmixColumn]

theorem unround_round (block key : Block) : unround key (round block key) = block := by
  rw [unround, round, Block.xor_xor_cancel, map_unmixColumn_mixColumn, unconfuse_confuse]

theorem round_unround (block key : Block) : round (unround key block) key = block := by
  rw [unround, round, confuse_unconfuse, map_mixColumn_unmixColumn, Block.xor_xor_cancel]

def encryptBlock (schedule : Schedule) (block : Block) : Block :=
  (confuse (schedule.middle.foldl round (block.xor schedule.first))).xor schedule.last

def decryptBlock (schedule : Schedule) (block : Block) : Block :=
  (schedule.middle.foldr unround (unconfuse (block.xor schedule.last))).xor schedule.first

theorem foldr_unround_foldl_round (keys : List Block) (block : Block) :
    keys.foldr unround (keys.foldl round block) = block := by
  induction keys generalizing block with
  | nil => rfl
  | cons key rest ih => rw [List.foldl_cons, List.foldr_cons, ih, unround_round]

theorem foldl_round_foldr_unround (keys : List Block) (block : Block) :
    keys.foldl round (keys.foldr unround block) = block := by
  induction keys with
  | nil => rfl
  | cons key rest ih => rw [List.foldl_cons, List.foldr_cons, round_unround, ih]

def nextWord (size index : Nat) (words : Array Column) : Column :=
  let previous := words.getD (index - 1) .zero
  let changed :=
    if index % size = 0 then
      let rotated : Column := ⟨previous.b, previous.c, previous.d, previous.a⟩
      let power := (List.range (index / size - 1)).foldl (fun value _ => double value) 1
      (substituteColumn rotated).xor ⟨power, 0, 0, 0⟩
    else if 6 < size ∧ index % size = 4 then substituteColumn previous
    else previous
  (words.getD (index - size) .zero).xor changed

def expand (key : Bytes) : Schedule :=
  let start := ((key.pieces 4).map fun piece => Column.ofNat (Bytes.toNat piece)).toArray
  let size := start.size
  let total := 4 * (size + 7)
  let words := (List.range (total - size)).foldl
    (fun words offset => words.push (nextWord size (size + offset) words)) start
  let keys := Block.split (words.toList.flatMap Column.bytes)
  ⟨keys.headD .zero, keys.tail.dropLast, keys.getLastD .zero⟩

def cipher (key : Bytes) : BlockCipher :=
  let schedule := expand key
  { encrypt := encryptBlock schedule
    decrypt := decryptBlock schedule
    decrypt_encrypt block := by
      simp [encryptBlock, decryptBlock, Block.xor_xor_cancel, unconfuse_confuse,
        foldr_unround_foldl_round]
    encrypt_decrypt block := by
      simp [encryptBlock, decryptBlock, Block.xor_xor_cancel, confuse_unconfuse,
        foldl_round_foldr_unround] }

end SecurityToken.Aes

import SecurityToken.Crypto.Block

/-!
The wrapping of keys with a block cipher, after RFC 3394. A key is a list of half blocks; each of
six passes enciphers every half block together with a check value that runs through all of them.
Main statement: a pass is undone by its inverse.
-/

namespace SecurityToken.KeyWrap

structure Half where
  (left right : Column)
  deriving DecidableEq

namespace Half

def xor (first second : Half) : Half :=
  ⟨first.left.xor second.left, first.right.xor second.right⟩

def bytes (half : Half) : Bytes :=
  half.left.bytes ++ half.right.bytes

def ofNat (value : Nat) : Half :=
  ⟨.ofNat (value / 0x100000000), .ofNat value⟩

def split : Bytes → List Half
  | a :: b :: c :: d :: e :: f :: g :: h :: rest => ⟨⟨a, b, c, d⟩, ⟨e, f, g, h⟩⟩ :: split rest
  | _ => []

theorem xor_xor_cancel (first second : Half) : (first.xor second).xor second = first := by
  simp [xor, Column.xor_xor_cancel]

theorem split_flatMap_bytes (halves : List Half) : split (halves.flatMap bytes) = halves := by
  induction halves with
  | nil => rfl
  | cons half rest ih =>
      have hcons : split (half.bytes ++ rest.flatMap bytes) = half :: split (rest.flatMap bytes) :=
        rfl
      rw [List.flatMap_cons, hcons, ih]

theorem flatMap_bytes_split (bytes : Bytes) (h : bytes.length % 8 = 0) :
    (split bytes).flatMap Half.bytes = bytes := by
  fun_induction split bytes with
  | case1 a b c d e f g h i ih =>
      simp only [List.length_cons] at h
      rw [List.flatMap_cons, ih (by omega)]
      rfl
  | case2 bytes hshort =>
      match bytes, h, hshort with
      | [], _, _ => rfl
      | a :: b :: c :: d :: e :: f :: g :: h :: rest, _, hshort =>
          exact absurd rfl (hshort a b c d e f g h rest)

end Half

def join (check half : Half) : Block :=
  ⟨check.left, check.right, half.left, half.right⟩

def upper (block : Block) : Half := ⟨block.first, block.second⟩

def lower (block : Block) : Half := ⟨block.third, block.fourth⟩

/-- One pass from the first half block to the last; the steps are numbered from `number` on. -/
def pass (cipher : BlockCipher) : Nat → Half → List Half → Half × List Half
  | _, check, [] => (check, [])
  | number, check, half :: rest =>
      let sealed := cipher.encrypt (join check half)
      let (check, rest) := pass cipher (number + 1) ((upper sealed).xor (.ofNat number)) rest
      (check, lower sealed :: rest)

def unpass (cipher : BlockCipher) : Nat → Half → List Half → Half × List Half
  | _, check, [] => (check, [])
  | number, check, half :: rest =>
      let (check, rest) := unpass cipher (number + 1) check rest
      let opened := cipher.decrypt (join (check.xor (.ofNat number)) half)
      (upper opened, lower opened :: rest)

theorem join_upper_lower (block : Block) : join (upper block) (lower block) = block := rfl

theorem unpass_pass (cipher : BlockCipher) (number : Nat) (check : Half) (halves : List Half) :
    unpass cipher number (pass cipher number check halves).1 (pass cipher number check halves).2 =
      (check, halves) := by
  induction halves generalizing number check with
  | nil => rfl
  | cons half rest ih =>
      simp only [pass, unpass, ih, Half.xor_xor_cancel, join_upper_lower, cipher.decrypt_encrypt]
      rfl

theorem pass_unpass (cipher : BlockCipher) (number : Nat) (check : Half) (halves : List Half) :
    pass cipher number (unpass cipher number check halves).1 (unpass cipher number check halves).2 =
      (check, halves) := by
  induction halves generalizing number check with
  | nil => rfl
  | cons half rest ih =>
      simp only [pass, unpass, join_upper_lower, cipher.encrypt_decrypt]
      have hupper : upper (join ((unpass cipher (number + 1) check rest).1.xor (.ofNat number)) half) =
          (unpass cipher (number + 1) check rest).1.xor (.ofNat number) := rfl
      have hlower : lower (join ((unpass cipher (number + 1) check rest).1.xor (.ofNat number)) half) =
          half := rfl
      rw [hupper, hlower, Half.xor_xor_cancel, ih]

def initial : Half := .ofNat 0xa6a6a6a6a6a6a6a6

/-- Whether a key can be wrapped: two half blocks or more, and nothing after them. -/
def fits (key : Bytes) : Bool :=
  decide (16 ≤ key.length) && key.length % 8 == 0

def wrap (cipher : BlockCipher) (key : Bytes) : Bytes :=
  let halves := Half.split key
  let (check, halves) := (List.range 6).foldl
    (fun (check, sealed) index => pass cipher (halves.length * index + 1) check sealed)
    (initial, halves)
  check.bytes ++ halves.flatMap Half.bytes

/-- Unwraps a key, if the check value comes out as it went in. -/
def unwrap? (cipher : BlockCipher) (wrapped : Bytes) : Option Bytes :=
  if 24 ≤ wrapped.length ∧ wrapped.length % 8 = 0 then
    match Half.split wrapped with
    | [] => none
    | check :: halves =>
        let (check, opened) := (List.range 6).foldr
          (fun index (check, opened) => unpass cipher (halves.length * index + 1) check opened)
          (check, halves)
        if check = initial then some (opened.flatMap Half.bytes) else none
  else none

end SecurityToken.KeyWrap

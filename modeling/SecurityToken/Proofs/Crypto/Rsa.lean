import Mathlib.Data.Nat.Log
import SecurityToken.Crypto.Rsa.Signature
import SecurityToken.Proofs.Crypto.Digest
import SecurityToken.Proofs.Crypto.Number

/-!
# An RSA signature verifies

The private operation gives only what the public one leads back from, so that an encoding is opened
again from its signature. What is left is that an encoding is as long as its key wants it, and that
the salt of a salted one can be taken out of it: the mask is put on and taken off, and the bits that
are cleared in between were not set before.
-/

namespace SecurityToken.Rsa

theorem PublicKey.modulus_lt (key : PublicKey) : key.modulus < 256 ^ key.size := by
  have hpos : key.modulus ≠ 0 := by
    have := key.modulus_odd
    omega
  have hbits : key.modulus < 2 ^ key.bits := by
    rw [bits, bitLength, if_neg hpos]
    exact Nat.lt_log2_self
  refine hbits.trans_le ?_
  rw [show (256 : Nat) = 2 ^ 8 by decide, ← pow_mul]
  refine Nat.pow_le_pow_right (by decide) ?_
  unfold size
  omega

theorem PublicKey.open?_nil (key : PublicKey) : key.open? [] = none := by
  have hsize : key.size ≠ 0 := by
    intro hzero
    have hlt := key.modulus_lt
    rw [hzero, pow_zero] at hlt
    have := key.modulus_odd
    omega
  exact if_neg hsize.symm

namespace PrivateKey

variable {key : PrivateKey} {encoded signature : Bytes}

theorem sealed_eq_ok : key.sealed encoded = .ok signature ↔
    ∃ root, key.root? (Bytes.toNat encoded) = some root ∧
      signature = Bytes.ofNat key.publicKey.size root := by
  unfold PrivateKey.sealed
  cases hroot : key.root? (Bytes.toNat encoded) with
  | none => simp
  | some root => simp [eq_comm]

theorem open?_of_sealed (hsealed : key.sealed encoded = .ok signature) :
    Bytes.toNat signature < key.publicKey.modulus ∧
      key.publicKey.open? signature = some (Bytes.toNat encoded) := by
  obtain ⟨root, hroot, rfl⟩ := sealed_eq_ok.1 hsealed
  have hlt := root?_lt hroot
  have hread := Bytes.toNat_ofNat_of_lt (hlt.trans key.publicKey.modulus_lt)
  constructor
  · rwa [hread]
  · unfold PublicKey.open?
    rw [if_pos (Bytes.length_ofNat _ _), hread, raise_of_root? hroot]

end PrivateKey

namespace Fixed

variable {digest : Digest} {message : Bytes}

theorem length_of_encode? {size : Nat} {encoded : Bytes}
    (hencode : encode? digest size message = some encoded) : encoded.length = size := by
  unfold encode? at hencode
  rw [Option.ite_none_left_eq_some] at hencode
  obtain ⟨hsize, hencode⟩ := hencode
  obtain rfl := Option.some.inj hencode
  simp only [List.length_append, List.length_cons, List.length_replicate] at hsize ⊢
  omega

theorem verify_of_sign {key : PrivateKey} {signature : Bytes}
    (hsign : sign digest key message = .ok signature) :
    verify digest key.publicKey message signature = true := by
  unfold sign at hsign
  unfold verify
  cases hencode : encode? digest key.publicKey.size message with
  | none =>
      rw [hencode] at hsign
      cases hsign
  | some encoded =>
      rw [hencode] at hsign
      obtain ⟨hlt, hopen⟩ := PrivateKey.open?_of_sealed hsign
      have hread := Bytes.ofNat_toNat encoded
      rw [length_of_encode? hencode] at hread
      simp only [hopen, hread, hlt, decide_true, beq_self_eq_true, Bool.and_self]

theorem verify_nil {key : PublicKey} : verify digest key message [] = false := by
  unfold verify
  rw [key.open?_nil]
  cases encode? digest key.size message with
  | none => rfl
  | some encoded => rfl

end Fixed

namespace Salted

variable {digest : Digest} {key : PublicKey} {message salt encoded : Bytes}

/-- How many bits of the first byte of an encoding count. -/
def topBits (key : PublicKey) : Nat := 8 - (8 * encodedSize key - (key.bits - 1))

theorem topBits_pos (key : PublicKey) : 0 < topBits key := by
  unfold topBits encodedSize
  omega

theorem encodedSize_le (key : PublicKey) : encodedSize key ≤ key.size := by
  unfold encodedSize PublicKey.size
  omega

theorem clearTop_cons (first : UInt8) (rest : Bytes) :
    clearTop key (first :: rest) = UInt8.ofNat (first.toNat % 2 ^ topBits key) :: rest :=
  rfl

@[simp]
theorem length_clearTop (bytes : Bytes) : (clearTop key bytes).length = bytes.length := by
  cases bytes with
  | nil => rfl
  | cons first rest => rfl

theorem toNat_clear (first : UInt8) :
    (UInt8.ofNat (first.toNat % 2 ^ topBits key)).toNat = first.toNat % 2 ^ topBits key := by
  rw [UInt8.toNat_ofNat', Nat.mod_eq_of_lt]
  exact (Nat.mod_le _ _).trans_lt first.toNat_lt

theorem clearTop_clearTop (bytes : Bytes) :
    clearTop key (clearTop key bytes) = clearTop key bytes := by
  cases bytes with
  | nil => rfl
  | cons first rest => rw [clearTop_cons, clearTop_cons, toNat_clear, Nat.mod_mod]

/-- Clearing before a mask is put on changes nothing if one clears after it too. -/
theorem clearTop_xor_clearTop (left right : Bytes) :
    clearTop key (Bytes.xor (clearTop key left) right) = clearTop key (Bytes.xor left right) := by
  cases left with
  | nil => rfl
  | cons first rest =>
      cases right with
      | nil => rfl
      | cons other others =>
          rw [clearTop_cons]
          refine congrArg₂ List.cons (congrArg UInt8.ofNat ?_) rfl
          change (_ ^^^ other).toNat % 2 ^ topBits key = (first ^^^ other).toNat % 2 ^ topBits key
          rw [UInt8.toNat_xor, UInt8.toNat_xor, Nat.xor_mod_two_pow, Nat.xor_mod_two_pow, toNat_clear,
            Nat.mod_mod]

theorem clearTop_of_le_one {first : UInt8} (hfirst : first.toNat ≤ 1) (rest : Bytes) :
    clearTop key (first :: rest) = first :: rest := by
  have hpow : 2 ^ 1 ≤ 2 ^ topBits key := Nat.pow_le_pow_right (by decide) (topBits_pos key)
  rw [clearTop_cons, Nat.mod_eq_of_lt (by omega), UInt8.ofNat_toNat]

/-- The salt behind a one, with zeros before it. -/
def block (zeros : Nat) (salt : Bytes) : Bytes :=
  List.replicate zeros 0 ++ 1 :: salt

@[simp]
theorem length_block (zeros : Nat) (salt : Bytes) :
    (block zeros salt).length = zeros + salt.length + 1 := by
  rw [block, List.length_append, List.length_replicate, List.length_cons, Nat.add_assoc]

theorem clearTop_block (zeros : Nat) (salt : Bytes) :
    clearTop key (block zeros salt) = block zeros salt := by
  cases zeros with
  | zero => exact clearTop_of_le_one (by decide) salt
  | succ zeros => exact clearTop_of_le_one (by decide) _

/-- The block under its mask. -/
def masked (digest : Digest) (key : PublicKey) (zeros : Nat) (message salt : Bytes) : Bytes :=
  clearTop key (Bytes.xor (block zeros salt)
    (digest.mask (check digest message salt) (block zeros salt).length))

theorem length_masked (zeros : Nat) :
    (masked digest key zeros message salt).length = zeros + salt.length + 1 := by
  rw [masked, length_clearTop, Bytes.xor, List.length_zipWith, Digest.length_mask, Nat.min_self,
    length_block]

theorem encode?_eq_some :
    encode? digest key message salt = some encoded ↔
      digest.size + salt.length + 2 ≤ encodedSize key ∧
        encoded = masked digest key (encodedSize key - salt.length - digest.size - 2) message salt ++
          check digest message salt ++ [0xbc] := by
  unfold encode?
  rw [Option.ite_none_left_eq_some, Nat.not_lt]
  exact and_congr Iff.rfl ⟨fun h => (Option.some.inj h).symm, fun h => congrArg some h.symm⟩

theorem salt?_of_encode? (hencode : encode? digest key message salt = some encoded)
    (hsalt : salt.length = digest.size) :
    salt? digest key encoded = some salt ∧
      (encoded.drop (encodedSize key - digest.size - 1)).take digest.size =
        check digest message salt := by
  obtain ⟨hsize, rfl⟩ := encode?_eq_some.1 hencode
  rw [hsalt] at hsize
  have hzeros : encodedSize key - 2 * digest.size - 2 =
      encodedSize key - salt.length - digest.size - 2 := by omega
  have hblock : encodedSize key - digest.size - 1 =
      (masked digest key (encodedSize key - salt.length - digest.size - 2) message salt).length := by
    rw [length_masked]
    omega
  generalize encodedSize key - salt.length - digest.size - 2 = zeros at *
  have htake : (masked digest key zeros message salt ++ check digest message salt ++ [0xbc]).take
      (encodedSize key - digest.size - 1) = masked digest key zeros message salt := by
    rw [List.append_assoc]
    exact List.take_left' hblock.symm
  have hdrop : ((masked digest key zeros message salt ++ check digest message salt ++ [0xbc]).drop
      (encodedSize key - digest.size - 1)).take digest.size = check digest message salt := by
    rw [List.append_assoc, List.drop_left' hblock.symm]
    exact List.take_left' (digest.length_hash _)
  -- The bits that were cleared under the mask are cleared again without it.
  have hunmasked : clearTop key (Bytes.xor (masked digest key zeros message salt)
      (digest.mask (check digest message salt) (encodedSize key - digest.size - 1))) =
        block zeros salt := by
    rw [hblock, length_masked, ← length_block, masked, clearTop_xor_clearTop,
      Bytes.xor_xor_cancel (digest.length_mask _ _).ge, clearTop_block]
  have hread : clearTop key (masked digest key zeros message salt) =
        masked digest key zeros message salt ∧
      (block zeros salt).take zeros = List.replicate zeros 0 ∧
      (block zeros salt)[zeros]? = some 1 := by
    refine ⟨clearTop_clearTop _, List.take_left' List.length_replicate, ?_⟩
    rw [block, List.getElem?_append_right (List.length_replicate).le, List.length_replicate,
      Nat.sub_self]
    rfl
  refine ⟨?_, hdrop⟩
  unfold salt?
  simp only [htake, hdrop, hunmasked, hzeros]
  rw [if_pos hread, block, List.append_cons]
  exact congrArg some (List.drop_left' (by simp))

theorem length_of_encode? (hencode : encode? digest key message salt = some encoded) :
    encoded.length = encodedSize key := by
  obtain ⟨hsize, rfl⟩ := encode?_eq_some.1 hencode
  rw [List.length_append, List.length_append, length_masked, check, Digest.length_hash,
    List.length_singleton]
  omega

theorem verify_of_sign {key : PrivateKey} {entropy : Entropy} {signature : Bytes}
    (hsign : sign digest key entropy message = .ok signature) :
    verify digest key.publicKey message signature = true := by
  unfold sign at hsign
  cases hencode : encode? digest key.publicKey message (entropy.bytes .salt digest.size) with
  | none =>
      rw [hencode] at hsign
      cases hsign
  | some encoded =>
      rw [hencode] at hsign
      obtain ⟨_, hopen⟩ := PrivateKey.open?_of_sealed hsign
      have hlength := length_of_encode? hencode
      obtain ⟨hsalt, hcheck⟩ := salt?_of_encode? hencode (entropy.length_bytes _ _)
      obtain ⟨hsize, hencoded⟩ := encode?_eq_some.1 hencode
      have hread : (Bytes.ofNat key.publicKey.size (Bytes.toNat encoded)).drop
          (key.publicKey.size - encodedSize key.publicKey) = encoded := by
        have hdrop := Bytes.drop_ofNat_toNat (hlength.le.trans (encodedSize_le key.publicKey))
        rwa [hlength] at hdrop
      have hlast : encoded.getLast? = some 0xbc := by
        rw [hencoded, List.getLast?_concat]
      rw [Entropy.length_bytes] at hsize
      unfold verify
      simp only [hopen, hread, hlast, hsalt, hcheck, beq_self_eq_true]
      rw [if_neg]
      rintro (h | h)
      · omega
      · exact h rfl

theorem verify_nil : verify digest key message [] = false := by
  unfold verify
  rw [key.open?_nil]

end Salted

end SecurityToken.Rsa

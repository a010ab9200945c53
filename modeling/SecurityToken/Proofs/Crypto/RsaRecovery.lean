import SecurityToken.Proofs.Crypto.Modular
import SecurityToken.Proofs.Crypto.Recovery
import SecurityToken.Proofs.Crypto.Rsa

/-!
# What RSA sealed is opened again

The private operation undoes the public one for a modulus of two different primes: so it does modulo
each of them by Fermat's little theorem, and the two remainders tell the number. The paddings are
taken off as they were put on, and what is padded is a number below the modulus, since its first
byte is zero. So a content key that was encrypted with such a key comes out again.
-/

namespace SecurityToken.Rsa

/-! ### Numbers -/

/-- Exponents that undo each other modulo a prime less one, one after the other. -/
theorem pow_pow_eq_self {prime : Nat} [hprime : Fact prime.Prime] {exponent inverse : Nat}
    (hinverse : inverse * exponent % (prime - 1) = 1) (value : ZMod prime) :
    (value ^ exponent) ^ (inverse % (prime - 1)) = value := by
  have hone : exponent * (inverse % (prime - 1)) % (prime - 1) = 1 := by
    rw [Nat.mul_mod_mod, Nat.mul_comm]
    exact hinverse
  have hexponent := Nat.div_add_mod (exponent * (inverse % (prime - 1))) (prime - 1)
  rw [hone] at hexponent
  generalize exponent * (inverse % (prime - 1)) / (prime - 1) = rounds at hexponent
  calc (value ^ exponent) ^ (inverse % (prime - 1))
    _ = value ^ ((prime - 1) * rounds + 1) := by rw [← pow_mul, hexponent]
    _ = (value ^ (prime - 1)) ^ rounds * value := by rw [pow_succ, pow_mul]
    _ = value := by
      by_cases hzero : value = 0
      · rw [hzero, mul_zero]
      · rw [ZMod.pow_card_sub_one_eq_one hzero, one_pow, one_mul]

theorem PublicKey.raise_lt (key : PublicKey) (value : Nat) : key.raise value < key.modulus := by
  rw [raise, Modular.power_eq]
  exact Nat.mod_lt _ (Nat.zero_lt_of_lt key.exponent_lt_modulus)

/-- The number of all bytes but the first is below the modulus. -/
theorem PublicKey.le_modulus (key : PublicKey) : 256 ^ (key.size - 1) ≤ key.modulus := by
  have hpos : key.modulus ≠ 0 := Nat.ne_zero_of_lt key.exponent_lt_modulus
  rw [show (256 : Nat) = 2 ^ 8 by decide, ← pow_mul]
  refine le_trans (Nat.pow_le_pow_right (by decide) ?_) (Nat.log2_self_le hpos)
  unfold size bits bitLength
  rw [if_neg hpos]
  omega

theorem PublicKey.length_lock (key : PublicKey) (padded : Bytes) :
    (key.lock padded).length = key.size :=
  Bytes.length_ofNat _ _

namespace PrivateKey

variable {key : PrivateKey}

/-- Whether the private operation undoes the public one. -/
def Inverts (key : PrivateKey) : Prop :=
  ∀ value < key.publicKey.modulus, key.root? (key.publicKey.raise value) = some value

theorem cast_combine_second (inverse first second : Nat) :
    (key.combine inverse first second : ZMod key.second) = second := by
  unfold combine
  rw [Nat.cast_add, Nat.cast_mul, ZMod.natCast_self, mul_zero, zero_add]

theorem cast_combine_first {inverse : Nat}
    (hinverse : Modular.coprimeInverse? key.first key.second = some inverse) (first second : Nat) :
    (key.combine inverse first second : ZMod key.first) = first := by
  have hpos : 0 < key.first := Nat.pos_of_mul_pos_right key.modulus_pos
  have hone : (inverse * key.second : ZMod key.first) = 1 := by
    have hspec := Modular.coprimeInverse?_spec hpos hinverse
    rw [← Nat.cast_mul, ← Nat.cast_one, ZMod.natCast_eq_natCast_iff']
    exact hspec
  unfold combine
  rw [Nat.cast_add, Nat.cast_mul, ZMod.natCast_mod, Nat.cast_mul, Modular.cast_subtract hpos,
    mul_assoc, hone, mul_one, sub_add_cancel]

theorem first_dvd_modulus (key : PrivateKey) : key.first ∣ key.publicKey.modulus :=
  ⟨key.second, key.first_mul_second.symm⟩

theorem second_dvd_modulus (key : PrivateKey) : key.second ∣ key.publicKey.modulus :=
  ⟨key.first, by rw [Nat.mul_comm, key.first_mul_second]⟩

/-- With two different primes the private operation undoes the public one. -/
theorem inverts_of_prime (hfirst : key.first.Prime) (hsecond : key.second.Prime)
    (hne : key.first ≠ key.second) : key.Inverts := by
  have hfact : Fact key.first.Prime := ⟨hfirst⟩
  have hfact' : Fact key.second.Prime := ⟨hsecond⟩
  have hcoprime : Nat.Coprime key.first key.second := (Nat.coprime_primes hfirst hsecond).2 hne
  obtain ⟨inverse, hinverse⟩ :=
    Option.isSome_iff_exists.1 (Modular.coprimeInverse?_isSome hcoprime.symm)
  intro value hvalue
  have hpower : key.power (key.publicKey.raise value) = value := by
    have hlt := key.power_lt (key.publicKey.raise value)
    unfold power at hlt ⊢
    rw [hinverse] at hlt ⊢
    refine Nat.ModEq.eq_of_lt_of_lt ?_ hlt hvalue
    rw [← key.first_mul_second, ← Nat.modEq_and_modEq_iff_modEq_mul hcoprime]
    constructor
    · rw [← ZMod.natCast_eq_natCast_iff, cast_combine_first hinverse, Modular.cast_power,
        PublicKey.raise, Modular.cast_power_of_dvd key.first_dvd_modulus]
      exact pow_pow_eq_self key.inverse_first _
    · rw [← ZMod.natCast_eq_natCast_iff, cast_combine_second, Modular.cast_power,
        PublicKey.raise, Modular.cast_power_of_dvd key.second_dvd_modulus]
      exact pow_pow_eq_self key.inverse_second _
  unfold root?
  rw [hpower]
  exact if_pos ⟨key.publicKey.raise_lt value, rfl⟩

/-! ### Bytes -/

/-- A padded message of the right length, the first byte of which is zero, is opened again. -/
theorem Inverts.unlock?_lock (hinverts : key.Inverts) {rest : Bytes}
    (hlength : (0 :: rest).length = key.publicKey.size) :
    key.unlock? (key.publicKey.lock (0 :: rest)) = some (0 :: rest) := by
  have hbelow : Bytes.toNat (0 :: rest) < key.publicKey.modulus := by
    refine lt_of_lt_of_le ?_ key.publicKey.le_modulus
    rw [← hlength, List.length_cons, Nat.add_sub_cancel]
    exact Bytes.toNat_lt rest
  have hread := Bytes.toNat_ofNat_of_lt
    ((key.publicKey.raise_lt (Bytes.toNat (0 :: rest))).trans key.publicKey.modulus_lt)
  unfold unlock? PublicKey.lock
  rw [hread, hinverts _ hbelow, Option.map_some, ← hlength, Bytes.ofNat_toNat]

end PrivateKey

namespace Masked

variable {digest : Digest} {size : Nat} {entropy : Entropy} {message padded : Bytes}

/-- A block under the mask of a seed. -/
def hidden (digest : Digest) (seed block : Bytes) : Bytes :=
  Bytes.xor block (digest.mask seed block.length)

@[simp]
theorem length_hidden (seed block : Bytes) : (hidden digest seed block).length = block.length := by
  rw [hidden, Bytes.xor, List.length_zipWith, Digest.length_mask, Nat.min_self]

theorem hidden_hidden (seed block : Bytes) :
    hidden digest seed (hidden digest seed block) = block := by
  rw [hidden, length_hidden, hidden, Bytes.xor_xor_cancel (digest.length_mask _ _).ge]

def block (digest : Digest) (zeros : Nat) (message : Bytes) : Bytes :=
  digest.hash [] ++ (List.replicate zeros 0 ++ 1 :: message)

@[simp]
theorem length_block (zeros : Nat) :
    (block digest zeros message).length = digest.size + zeros + message.length + 1 := by
  simp [block]
  omega

theorem pad?_eq_some :
    pad? digest size entropy message = some padded ↔
      message.length + 2 * digest.size + 2 ≤ size ∧
        padded = 0 :: (hidden digest (hidden digest (entropy.bytes .padding digest.size)
            (block digest (size - message.length - 2 * digest.size - 2) message))
              (entropy.bytes .padding digest.size) ++
          hidden digest (entropy.bytes .padding digest.size)
            (block digest (size - message.length - 2 * digest.size - 2) message)) := by
  unfold pad?
  rw [Option.ite_none_left_eq_some, Nat.not_lt]
  simp only [hidden, block, Entropy.length_bytes, List.append_assoc, Option.some.injEq, eq_comm,
    List.cons_append]

theorem dropWhile_zeros (zeros : Nat) :
    (List.replicate zeros (0 : UInt8) ++ 1 :: message).dropWhile (· == 0) = 1 :: message := by
  rw [List.dropWhile_append_of_pos fun byte hbyte => by simp [List.eq_of_mem_replicate hbyte]]
  exact List.dropWhile_cons_of_neg (by decide)

theorem unpad?_of_pad? (hpad : pad? digest size entropy message = some padded) :
    (∃ rest, padded = 0 :: rest) ∧ padded.length = size ∧ unpad? digest padded = some message := by
  obtain ⟨hlong, rfl⟩ := pad?_eq_some.1 hpad
  have hseed : (entropy.bytes .padding digest.size).length = digest.size := entropy.length_bytes _ _
  generalize entropy.bytes .padding digest.size = seed at hseed ⊢
  generalize hzeros : size - message.length - 2 * digest.size - 2 = zeros
  generalize hmasked : hidden digest seed (block digest zeros message) = masked
  have hlength : masked.length = digest.size + zeros + message.length + 1 := by
    rw [← hmasked, length_hidden, length_block]
  have hpadded : (0 :: (hidden digest masked seed ++ masked)).length = size := by
    simp [hseed, hlength]
    omega
  have hfilled : ¬(0 :: (hidden digest masked seed ++ masked)).length < 2 * digest.size + 2 := by
    omega
  have hseedLength : (hidden digest masked seed).length = digest.size :=
    (length_hidden masked seed).trans hseed
  have hunmaskedSeed :
      Bytes.xor (hidden digest masked seed) (digest.mask masked digest.size) = seed := by
    rw [← hseedLength]
    exact hidden_hidden masked seed
  have hunmasked :
      Bytes.xor masked (digest.mask seed masked.length) = block digest zeros message := by
    rw [← hmasked]
    exact hidden_hidden seed _
  have hhash : (block digest zeros message).take digest.size = digest.hash [] :=
    List.take_left' (digest.length_hash [])
  have hrest : (block digest zeros message).drop digest.size =
      List.replicate zeros 0 ++ 1 :: message :=
    List.drop_left' (digest.length_hash [])
  refine ⟨⟨_, rfl⟩, hpadded, ?_⟩
  unfold unpad?
  simp only [if_neg hfilled, List.drop_left' hseedLength, List.take_left' hseedLength,
    hunmaskedSeed, hunmasked, hhash, hrest, dropWhile_zeros, if_true]

end Masked

namespace Plain

variable {size : Nat} {entropy : Entropy} {message padded : Bytes}

theorem unpad?_of_pad? (hpad : pad? size entropy message = some padded) :
    (∃ rest, padded = 0 :: rest) ∧ padded.length = size ∧ unpad? padded = some message := by
  unfold pad? at hpad
  rw [Option.ite_none_left_eq_some, Nat.not_lt] at hpad
  obtain ⟨hlong, hpad⟩ := hpad
  obtain rfl := Option.some.inj hpad
  have hnonzero : ∀ byte ∈ entropy.nonzeroBytes .padding (size - message.length - 3),
      (byte != 0) = true :=
    fun byte hbyte => bne_iff_ne.2 (Entropy.ne_zero_of_mem_nonzeroBytes hbyte)
  have hlength := entropy.length_nonzeroBytes .padding (size - message.length - 3)
  generalize entropy.nonzeroBytes .padding (size - message.length - 3) = filling at hnonzero hlength
  have hbehind : (filling ++ 0 :: message).dropWhile (· != 0) = 0 :: message := by
    rw [List.dropWhile_append_of_pos hnonzero]
    exact List.dropWhile_cons_of_neg (by decide)
  have hfilled : ¬(filling ++ 0 :: message).length < message.length + 9 := by
    rw [List.length_append, List.length_cons]
    omega
  refine ⟨⟨_, rfl⟩, ?_, ?_⟩
  · simp [hlength]
    omega
  · unfold unpad?
    simp only [List.cons_append, hbehind, if_neg hfilled]

end Plain

/-! ### Content keys -/

namespace PrivateKey

variable {key : PrivateKey} {digest : Digest} {entropy : Entropy} {message wrapped : Bytes}

theorem Inverts.decrypt?_masked (hinverts : key.Inverts)
    (hencrypt : Masked.encrypt digest key.publicKey entropy message = .ok wrapped) :
    Masked.decrypt? digest key wrapped = some message := by
  unfold Masked.encrypt at hencrypt
  split at hencrypt
  next padded hpad =>
    obtain rfl := Except.ok.inj hencrypt
    obtain ⟨⟨rest, rfl⟩, hlength, hunpad⟩ := Masked.unpad?_of_pad? hpad
    unfold Masked.decrypt?
    rw [if_pos (key.publicKey.length_lock _), hinverts.unlock?_lock hlength]
    exact hunpad
  next => cases hencrypt

theorem Inverts.decrypt?_plain (hinverts : key.Inverts)
    (hencrypt : Plain.encrypt key.publicKey entropy message = .ok wrapped) :
    Plain.decrypt? key wrapped = some message := by
  unfold Plain.encrypt at hencrypt
  split at hencrypt
  next padded hpad =>
    obtain rfl := Except.ok.inj hencrypt
    obtain ⟨⟨rest, rfl⟩, hlength, hunpad⟩ := Plain.unpad?_of_pad? hpad
    unfold Plain.decrypt?
    rw [hinverts.unlock?_lock hlength]
    exact hunpad
  next => cases hencrypt

theorem Inverts.unwraps (hinverts : key.Inverts) : key.Unwraps := by
  intro algorithm entropy contentKey wrapped hwrap
  cases algorithm with
  | rsaOaep | rsaOaep256 => exact hinverts.decrypt?_masked hwrap
  | rsa15 | a128kw | a256kw | direct => exact hinverts.decrypt?_plain hwrap

/-- A content key that is wrapped for a modulus of two different primes comes out again. -/
theorem unwraps_of_prime (hfirst : key.first.Prime) (hsecond : key.second.Prime)
    (hne : key.first ≠ key.second) : key.Unwraps :=
  (inverts_of_prime hfirst hsecond hne).unwraps

end PrivateKey

end SecurityToken.Rsa

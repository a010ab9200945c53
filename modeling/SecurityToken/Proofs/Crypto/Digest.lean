import SecurityToken.Crypto.Digest.Basic

/-!
# The sizes of digests

A digest has its size whatever the message, and so has the keyed digest. A mask has the length that
was asked for.
-/

namespace SecurityToken

theorem Bytes.length_flatMap {α : Type} {write : α → Bytes} {size : Nat}
    (hwrite : ∀ item, (write item).length = size) (items : List α) :
    (items.flatMap write).length = items.length * size := by
  induction items with
  | nil => simp
  | cons item rest ih =>
      rw [List.flatMap_cons, List.length_append, hwrite, ih, List.length_cons, Nat.succ_mul,
        Nat.add_comm]

theorem Sha2.length_digest {W : Type} [Sha2.Word W] (start : Sha2.State W) (message : Bytes) :
    (Sha2.digest start message).length = 8 * Sha2.Word.bytes W :=
  Bytes.length_flatMap (fun _ => Bytes.length_ofNat _ _) _

namespace Digest

@[simp]
theorem length_hash (digest : Digest) (message : Bytes) :
    (digest.hash message).length = digest.size := by
  cases digest with
  | sha1 => exact Bytes.length_flatMap (fun _ => Bytes.length_ofNat 4 _) _
  | sha256 => exact Sha2.length_digest Sha2.start256 message
  | sha384 =>
      have hlength := Sha2.length_digest Sha2.start384 message
      change (List.take 48 (Sha2.digest Sha2.start384 message)).length = 48
      rw [List.length_take, hlength]
      rfl
  | sha512 => exact Sha2.length_digest Sha2.start512 message

@[simp]
theorem length_hmac (digest : Digest) (key message : Bytes) :
    (digest.hmac key message).length = digest.size :=
  digest.length_hash _

theorem size_pos (digest : Digest) : 0 < digest.size := by
  cases digest <;> decide

@[simp]
theorem length_mask (digest : Digest) (seed : Bytes) (length : Nat) :
    (digest.mask seed length).length = length := by
  have hblocks : length ≤ (length + digest.size - 1) / digest.size * digest.size := by
    have hnext := Nat.lt_mul_div_succ (length + digest.size - 1) digest.size_pos
    rw [Nat.mul_add, Nat.mul_comm] at hnext
    have := digest.size_pos
    omega
  rw [mask, List.length_take, Bytes.length_flatMap fun _ => digest.length_hash _, List.length_range,
    Nat.min_eq_left hblocks]

end Digest

end SecurityToken

import Mathlib.Algebra.Order.Ring.Nat
import Mathlib.Data.List.Induction
import Mathlib.Tactic.Ring
import SecurityToken.Bytes

/-!
# Numbers as bytes

A number below the bound of its bytes is read back from them, and bytes are read back from their
number. Both go by induction on the last byte, which is where a number is divided.
-/

namespace SecurityToken.Bytes

theorem toNat_concat (bytes : Bytes) (byte : UInt8) :
    toNat (bytes ++ [byte]) = toNat bytes * 256 + byte.toNat := by
  rw [toNat, List.foldl_append]
  rfl

/-- The last byte is the remainder, the others are those of the quotient. -/
theorem ofNat_succ (size value : Nat) :
    ofNat (size + 1) value = ofNat size (value / 256) ++ [UInt8.ofNat value] := by
  have hquotient : ∀ index ∈ List.range size,
      value >>> (8 * (size + 1 - 1 - index)) = (value / 256) >>> (8 * (size - 1 - index)) := by
    intro index hindex
    have hlt := List.mem_range.1 hindex
    rw [show (256 : Nat) = 2 ^ 8 by decide, ← Nat.shiftRight_eq_div_pow, ← Nat.shiftRight_add]
    congr 1
    omega
  rw [ofNat, List.range_succ, List.map_append, List.map_singleton, Nat.add_sub_cancel, Nat.sub_self]
  exact congrArg (· ++ [UInt8.ofNat value])
    (List.map_congr_left fun index hindex => congrArg UInt8.ofNat (hquotient index hindex))

theorem toNat_ofNat (size value : Nat) : toNat (ofNat size value) = value % 256 ^ size := by
  induction size generalizing value with
  | zero => rw [pow_zero, Nat.mod_one]; rfl
  | succ size ih =>
      have hbyte : (UInt8.ofNat value).toNat = value % 256 := UInt8.toNat_ofNat'
      rw [ofNat_succ, toNat_concat, ih, hbyte, pow_succ', Nat.mod_mul]
      ring

theorem toNat_ofNat_of_lt {size value : Nat} (hlt : value < 256 ^ size) :
    toNat (ofNat size value) = value := by
  rw [toNat_ofNat, Nat.mod_eq_of_lt hlt]

theorem ofNat_toNat (bytes : Bytes) : ofNat bytes.length (toNat bytes) = bytes := by
  induction bytes using List.reverseRecOn with
  | nil => rfl
  | append_singleton bytes byte ih =>
      have hbyte := byte.toNat_lt
      have hquotient : (toNat bytes * 256 + byte.toNat) / 256 = toNat bytes := by omega
      have hremainder : UInt8.ofNat (toNat bytes * 256 + byte.toNat) = byte := by
        rw [← UInt8.toNat_inj, UInt8.toNat_ofNat']
        omega
      rw [List.length_append, List.length_singleton, ofNat_succ, toNat_concat, hquotient, ih,
        hremainder]

theorem toNat_lt (bytes : Bytes) : toNat bytes < 256 ^ bytes.length := by
  rw [← ofNat_toNat bytes, toNat_ofNat, length_ofNat]
  exact Nat.mod_lt _ (Nat.pow_pos (by decide))

theorem toNat_replicate_zero_append (count : Nat) (bytes : Bytes) :
    toNat (List.replicate count 0 ++ bytes) = toNat bytes := by
  induction count with
  | zero => rfl
  | succ count ih => exact ih

theorem drop_ofNat_toNat {size : Nat} {bytes : Bytes} (hlength : bytes.length ≤ size) :
    (ofNat size (toNat bytes)).drop (size - bytes.length) = bytes := by
  have hsize : (List.replicate (size - bytes.length) (0 : UInt8) ++ bytes).length = size := by
    rw [List.length_append, List.length_replicate, Nat.sub_add_cancel hlength]
  have hpadded := ofNat_toNat (List.replicate (size - bytes.length) 0 ++ bytes)
  rw [hsize, toNat_replicate_zero_append] at hpadded
  rw [hpadded]
  exact List.drop_left' List.length_replicate

/-- A mask that is put on twice is off again. -/
theorem xor_xor_cancel {left right : Bytes} (hlength : left.length ≤ right.length) :
    xor (xor left right) right = left := by
  induction left generalizing right with
  | nil => rfl
  | cons first rest ih =>
      cases right with
      | nil => exact absurd hlength (Nat.not_succ_le_zero _)
      | cons other others =>
          have hfirst : first ^^^ other ^^^ other = first := by
            rw [UInt8.xor_assoc, UInt8.xor_self, UInt8.xor_zero]
          exact congrArg₂ List.cons hfirst (ih (Nat.le_of_succ_le_succ hlength))

end SecurityToken.Bytes

import SecurityToken.Bytes

/-!
The random bytes that an operation consumes. Each purpose has a stream of its own, so that what one
step draws never depends on another.
-/

namespace SecurityToken

inductive Draw where
  | contentKey
  | iv
  | salt
  | padding
  deriving DecidableEq, Repr

/-- A stream of bytes for each purpose. -/
structure Entropy where
  byte : Draw → Nat → UInt8

namespace Entropy

def bytes (entropy : Entropy) (draw : Draw) (size : Nat) : Bytes :=
  (List.range size).map (entropy.byte draw)

/-- The first bytes of a stream, with each zero replaced by a one. -/
def nonzeroBytes (entropy : Entropy) (draw : Draw) (size : Nat) : Bytes :=
  (entropy.bytes draw size).map fun byte => if byte = 0 then 1 else byte

@[simp]
theorem length_bytes (entropy : Entropy) (draw : Draw) (size : Nat) :
    (entropy.bytes draw size).length = size := by
  simp [bytes]

@[simp]
theorem length_nonzeroBytes (entropy : Entropy) (draw : Draw) (size : Nat) :
    (entropy.nonzeroBytes draw size).length = size := by
  simp [nonzeroBytes]

theorem ne_zero_of_mem_nonzeroBytes {entropy : Entropy} {draw : Draw} {size : Nat} {byte : UInt8}
    (h : byte ∈ entropy.nonzeroBytes draw size) : byte ≠ 0 := by
  obtain ⟨drawn, _, rfl⟩ := List.mem_map.1 h
  by_cases hzero : drawn = 0 <;> simp [hzero]

end Entropy

end SecurityToken

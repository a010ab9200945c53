import SecurityToken.Bytes

/-!
Base64url without padding. Three bytes become four symbols of six bits; one or two bytes left over
become two or three symbols, whose unused low bits are zero.
Main statements: `decode` reads back what `encode` writes, and accepts nothing else.
-/

namespace SecurityToken.Base64url

def symbol (value : Nat) : Char :=
  if value < 26 then Char.ofNat (65 + value)
  else if value < 52 then Char.ofNat (71 + value)
  else if value < 62 then Char.ofNat (value - 4)
  else if value = 62 then '-'
  else '_'

def value? (symbol : Char) : Option Nat :=
  if 'A' ≤ symbol ∧ symbol ≤ 'Z' then some (symbol.toNat - 65)
  else if 'a' ≤ symbol ∧ symbol ≤ 'z' then some (symbol.toNat - 71)
  else if '0' ≤ symbol ∧ symbol ≤ '9' then some (symbol.toNat + 4)
  else if symbol = '-' then some 62
  else if symbol = '_' then some 63
  else none

def isSymbol (character : Char) : Bool :=
  (value? character).isSome

def encode : Bytes → List Char
  | [] => []
  | [first] => [symbol (first.toNat / 4), symbol (first.toNat % 4 * 16)]
  | [first, second] =>
      [symbol (first.toNat / 4), symbol (first.toNat % 4 * 16 + second.toNat / 16),
        symbol (second.toNat % 16 * 4)]
  | first :: second :: third :: rest =>
      symbol (first.toNat / 4) :: symbol (first.toNat % 4 * 16 + second.toNat / 16) ::
        symbol (second.toNat % 16 * 4 + third.toNat / 64) :: symbol (third.toNat % 64) ::
        encode rest

/-- Refuses foreign characters, a single symbol left over, and unused bits that are not zero. -/
def decode : List Char → Option Bytes
  | [] => some []
  | [_] => none
  | [first, second] => do
      let first ← value? first
      let second ← value? second
      if second % 16 = 0 then some [UInt8.ofNat (first * 4 + second / 16)] else none
  | [first, second, third] => do
      let first ← value? first
      let second ← value? second
      let third ← value? third
      if third % 4 = 0 then
        some [UInt8.ofNat (first * 4 + second / 16), UInt8.ofNat (second % 16 * 16 + third / 4)]
      else none
  | first :: second :: third :: fourth :: rest => do
      let first ← value? first
      let second ← value? second
      let third ← value? third
      let fourth ← value? fourth
      let rest ← decode rest
      some (UInt8.ofNat (first * 4 + second / 16) :: UInt8.ofNat (second % 16 * 16 + third / 4) ::
        UInt8.ofNat (third % 4 * 64 + fourth) :: rest)

theorem value?_symbol {value : Nat} (h : value < 64) : value? (symbol value) = some value := by
  revert value
  decide

theorem le_iff_toNat_le {left right : Char} : left ≤ right ↔ left.toNat ≤ right.toNat :=
  Char.le_def.trans UInt32.le_iff_toNat_le

theorem eq_symbol_of_value? {character : Char} {value : Nat}
    (h : value? character = some value) : value < 64 ∧ symbol value = character := by
  have hA : 'A'.toNat = 65 := rfl
  have hZ : 'Z'.toNat = 90 := rfl
  have ha : 'a'.toNat = 97 := rfl
  have hz : 'z'.toNat = 122 := rfl
  have h0 : '0'.toNat = 48 := rfl
  have h9 : '9'.toNat = 57 := rfl
  unfold value? at h
  simp only [le_iff_toNat_le] at h
  split at h
  · simp only [Option.some.injEq] at h
    subst h
    refine ⟨by omega, ?_⟩
    rw [symbol, if_pos (by omega), show 65 + (character.toNat - 65) = character.toNat by omega,
      Char.ofNat_toNat]
  split at h
  · simp only [Option.some.injEq] at h
    subst h
    refine ⟨by omega, ?_⟩
    rw [symbol, if_neg (by omega), if_pos (by omega),
      show 71 + (character.toNat - 71) = character.toNat by omega, Char.ofNat_toNat]
  split at h
  · simp only [Option.some.injEq] at h
    subst h
    refine ⟨by omega, ?_⟩
    rw [symbol, if_neg (by omega), if_neg (by omega), if_pos (by omega),
      show character.toNat + 4 - 4 = character.toNat by omega, Char.ofNat_toNat]
  split at h
  next heq =>
    simp only [Option.some.injEq] at h
    subst h heq
    exact ⟨by decide, by decide⟩
  split at h
  next heq =>
    simp only [Option.some.injEq] at h
    subst h heq
    exact ⟨by decide, by decide⟩
  · simp at h

theorem ofNat_eq_of_toNat_eq (byte : UInt8) {value : Nat} (h : value = byte.toNat) :
    UInt8.ofNat value = byte := by
  rw [h, UInt8.ofNat_toNat]

theorem decode_encode (bytes : Bytes) : decode (encode bytes) = some bytes := by
  fun_induction encode bytes with
  | case1 => rfl
  | case2 first =>
      have := first.toNat_lt
      simp only [decode, value?_symbol (show first.toNat / 4 < 64 by omega),
        value?_symbol (show first.toNat % 4 * 16 < 64 by omega), Option.bind_eq_bind,
        Option.bind_some]
      rw [if_pos (by omega), ofNat_eq_of_toNat_eq first (by omega)]
  | case3 first second =>
      have := first.toNat_lt
      have := second.toNat_lt
      simp only [decode, value?_symbol (show first.toNat / 4 < 64 by omega),
        value?_symbol (show first.toNat % 4 * 16 + second.toNat / 16 < 64 by omega),
        value?_symbol (show second.toNat % 16 * 4 < 64 by omega), Option.bind_eq_bind,
        Option.bind_some]
      rw [if_pos (by omega), ofNat_eq_of_toNat_eq first (by omega),
        ofNat_eq_of_toNat_eq second (by omega)]
  | case4 first second third rest ih =>
      have := first.toNat_lt
      have := second.toNat_lt
      have := third.toNat_lt
      simp only [decode, value?_symbol (show first.toNat / 4 < 64 by omega),
        value?_symbol (show first.toNat % 4 * 16 + second.toNat / 16 < 64 by omega),
        value?_symbol (show second.toNat % 16 * 4 + third.toNat / 64 < 64 by omega),
        value?_symbol (show third.toNat % 64 < 64 by omega), ih, Option.bind_eq_bind,
        Option.bind_some]
      rw [ofNat_eq_of_toNat_eq first (by omega),
        ofNat_eq_of_toNat_eq second (by omega),
        ofNat_eq_of_toNat_eq third (by omega)]

theorem encode_of_decode {text : List Char} {bytes : Bytes} (h : decode text = some bytes) :
    encode bytes = text := by
  fun_induction decode text generalizing bytes with
  | case1 => simp_all [encode]
  | case2 => simp at h
  | case3 first second =>
      simp only [Option.bind_eq_bind, Option.bind_eq_some_iff] at h
      obtain ⟨high, hhigh, low, hlow, h⟩ := h
      split at h <;> simp only [Option.some.injEq, reduceCtorEq] at h
      subst h
      have := eq_symbol_of_value? hhigh
      have := eq_symbol_of_value? hlow
      simp only [encode, UInt8.toNat_ofNat']
      rw [show (high * 4 + low / 16) % 2 ^ 8 / 4 = high by omega,
        show (high * 4 + low / 16) % 2 ^ 8 % 4 * 16 = low by omega]
      simp_all
  | case4 first second third =>
      simp only [Option.bind_eq_bind, Option.bind_eq_some_iff] at h
      obtain ⟨high, hhigh, middle, hmiddle, low, hlow, h⟩ := h
      split at h <;> simp only [Option.some.injEq, reduceCtorEq] at h
      subst h
      have := eq_symbol_of_value? hhigh
      have := eq_symbol_of_value? hmiddle
      have := eq_symbol_of_value? hlow
      simp only [encode, UInt8.toNat_ofNat']
      rw [show (high * 4 + middle / 16) % 2 ^ 8 / 4 = high by omega,
        show (high * 4 + middle / 16) % 2 ^ 8 % 4 * 16 +
          (middle % 16 * 16 + low / 4) % 2 ^ 8 / 16 = middle by omega,
        show (middle % 16 * 16 + low / 4) % 2 ^ 8 % 16 * 4 = low by omega]
      simp_all
  | case5 first second third fourth rest ih =>
      simp only [Option.bind_eq_bind, Option.bind_eq_some_iff] at h
      obtain ⟨a, ha, b, hb, c, hc, d, hd, tail, htail, h⟩ := h
      simp only [Option.some.injEq] at h
      subst h
      have := eq_symbol_of_value? ha
      have := eq_symbol_of_value? hb
      have := eq_symbol_of_value? hc
      have := eq_symbol_of_value? hd
      simp only [encode, UInt8.toNat_ofNat', ih htail]
      rw [show (a * 4 + b / 16) % 2 ^ 8 / 4 = a by omega,
        show (a * 4 + b / 16) % 2 ^ 8 % 4 * 16 + (b % 16 * 16 + c / 4) % 2 ^ 8 / 16 = b by omega,
        show (b % 16 * 16 + c / 4) % 2 ^ 8 % 16 * 4 + (c % 4 * 64 + d) % 2 ^ 8 / 64 = c by omega,
        show (c % 4 * 64 + d) % 2 ^ 8 % 64 = d by omega]
      simp_all

end SecurityToken.Base64url

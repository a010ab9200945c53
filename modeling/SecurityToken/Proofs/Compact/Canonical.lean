import Mathlib.Algebra.Order.Ring.Nat
import SecurityToken.Proofs.Compact.Grammar

/-!
# One text for each string of bytes

Which texts are segments can be told without decoding them: the alphabet has 64 characters, no
length leaves one symbol over in four, and the bits of the last symbol that belong to no byte are
zero. The reader goes by groups of four symbols, and so does the proof. Such a text is the writing of
the bytes that are read from it, and of no others, so that bytes and segments give each other.
-/

namespace SecurityToken

namespace Base64url

/-- Whether a character is a letter, a digit, a hyphen or an underscore. -/
def IsUrlSafe (character : Char) : Prop :=
  character.isAlphanum = true ∨ character = '-' ∨ character = '_'

/-- How many bits of the last symbol belong to no byte, in a text of so many symbols of six bits. -/
def unusedBits (length : Nat) : Nat :=
  6 * length % 8

/-- What can be told of a segment without decoding it. -/
structure WellFormed (text : List Char) : Prop where
  urlSafe : ∀ character ∈ text, IsUrlSafe character
  noneLeft : text.length % 4 ≠ 1
  unused : ∀ last ∈ text.getLast?, ∀ value ∈ value? last, value % 2 ^ unusedBits text.length = 0

variable {character : Char} {text : List Char} {bytes : Bytes}

theorem isSymbol_iff : isSymbol character = true ↔ IsUrlSafe character := by
  have hrange : ∀ low high : Char, low ≤ character ∧ character ≤ high ↔
      (decide (low.val ≤ character.val) && decide (character.val ≤ high.val)) = true := by
    intro low high
    rw [Bool.and_eq_true, decide_eq_true_iff, decide_eq_true_iff]
    exact Iff.rfl
  have hupper : 'A' ≤ character ∧ character ≤ 'Z' ↔ character.isUpper = true :=
    decide_eq_true_iff.symm
  have hlower : 'a' ≤ character ∧ character ≤ 'z' ↔ character.isLower = true := hrange 'a' 'z'
  have hdigit : '0' ≤ character ∧ character ≤ '9' ↔ character.isDigit = true := hrange '0' '9'
  unfold isSymbol value? IsUrlSafe Char.isAlphanum Char.isAlpha
  simp only [hupper, hlower, hdigit, Bool.or_eq_true]
  split_ifs <;> simp [*]

theorem exists_value?_iff : (∃ value, value? character = some value) ↔ IsUrlSafe character := by
  rw [← isSymbol_iff, isSymbol, Option.isSome_iff_exists]

/-- What is asked of the value of a character, asked of the character. -/
theorem exists_value?_and_iff {holds : Nat → Prop} :
    (∃ value, value? character = some value ∧ holds value) ↔
      IsUrlSafe character ∧ ∀ value ∈ value? character, holds value := by
  rw [← exists_value?_iff]
  constructor
  · rintro ⟨value, hvalue, hholds⟩
    refine ⟨⟨value, hvalue⟩, fun other hother => ?_⟩
    obtain rfl := Option.some.inj (hvalue.symm.trans hother)
    exact hholds
  · rintro ⟨⟨value, hvalue⟩, hholds⟩
    exact ⟨value, hvalue, hholds value hvalue⟩

/-- Four symbols in front are three whole bytes, and leave the rest as it is. -/
theorem wellFormed_group {first second third fourth : Char} :
    WellFormed (first :: second :: third :: fourth :: text) ↔
      (IsUrlSafe first ∧ IsUrlSafe second ∧ IsUrlSafe third ∧ IsUrlSafe fourth) ∧
        WellFormed text := by
  have hlength : (first :: second :: third :: fourth :: text).length = text.length + 4 := rfl
  have hbits : unusedBits (text.length + 4) = unusedBits text.length := by
    unfold unusedBits
    omega
  constructor
  · rintro ⟨hsafe, hleft, hunused⟩
    simp only [List.forall_mem_cons] at hsafe
    obtain ⟨hfirst, hsecond, hthird, hfourth, hsafe⟩ := hsafe
    rw [hlength] at hleft hunused
    refine ⟨⟨hfirst, hsecond, hthird, hfourth⟩, hsafe, by omega, fun last hlast => ?_⟩
    rw [← hbits]
    apply hunused
    cases text with
    | nil => cases hlast
    | cons next rest => exact hlast
  · rintro ⟨⟨hfirst, hsecond, hthird, hfourth⟩, hsafe, hleft, hunused⟩
    refine ⟨?_, ?_, ?_⟩
    · simp only [List.forall_mem_cons]
      exact ⟨hfirst, hsecond, hthird, hfourth, hsafe⟩
    · rw [hlength]
      omega
    · rw [hlength, hbits]
      cases text with
      | nil => exact fun last _ value _ => Nat.mod_one value
      | cons next rest => exact hunused

theorem wellFormed_iff_of_getLast? {last : Char} (hlast : text.getLast? = some last)
    (hleft : text.length % 4 ≠ 1) :
    WellFormed text ↔ (∀ character ∈ text, IsUrlSafe character) ∧
      ∀ value ∈ value? last, value % 2 ^ unusedBits text.length = 0 := by
  constructor
  · rintro ⟨hsafe, -, hunused⟩
    exact ⟨hsafe, hunused last hlast⟩
  · rintro ⟨hsafe, hunused⟩
    refine ⟨hsafe, hleft, fun other hother => ?_⟩
    obtain rfl := Option.some.inj (hlast.symm.trans hother)
    exact hunused

/-- A text is no segment for one of three reasons. Padding is a character like any other that is not
of the alphabet. -/
theorem not_wellFormed_iff :
    ¬WellFormed text ↔ (∃ character ∈ text, ¬IsUrlSafe character) ∨ text.length % 4 = 1 ∨
      ∃ last ∈ text.getLast?, ∃ value ∈ value? last, value % 2 ^ unusedBits text.length ≠ 0 := by
  constructor
  · intro hill
    by_contra hsound
    simp only [not_or, not_exists, not_and, not_not] at hsound
    obtain ⟨hsafe, hleft, hunused⟩ := hsound
    exact hill ⟨hsafe, hleft, hunused⟩
  · rintro (⟨character, hmem, hforeign⟩ | hleft | ⟨last, hlast, value, hvalue, hbits⟩) hformed
    · exact hforeign (hformed.urlSafe character hmem)
    · exact hformed.noneLeft hleft
    · exact hbits (hformed.unused last hlast value hvalue)

theorem wellFormed_pair {first second : Char} :
    WellFormed [first, second] ↔
      IsUrlSafe first ∧ IsUrlSafe second ∧ ∀ value ∈ value? second, value % 16 = 0 := by
  have hlast : [first, second].getLast? = some second := rfl
  have hleft : [first, second].length % 4 ≠ 1 := by simp
  have hbits : 2 ^ unusedBits [first, second].length = 16 := by simp [unusedBits]
  rw [wellFormed_iff_of_getLast? hlast hleft, hbits]
  simp [and_assoc]

theorem wellFormed_triple {first second third : Char} :
    WellFormed [first, second, third] ↔
      IsUrlSafe first ∧ IsUrlSafe second ∧ IsUrlSafe third ∧
        ∀ value ∈ value? third, value % 4 = 0 := by
  have hlast : [first, second, third].getLast? = some third := rfl
  have hleft : [first, second, third].length % 4 ≠ 1 := by simp
  have hbits : 2 ^ unusedBits [first, second, third].length = 4 := by simp [unusedBits]
  rw [wellFormed_iff_of_getLast? hlast hleft, hbits]
  simp [and_assoc]

/-- The texts that are read are the well-formed ones. By induction on the groups of four. -/
theorem exists_decode_iff : (∃ bytes, decode text = some bytes) ↔ WellFormed text := by
  fun_induction decode text with
  | case1 => exact iff_of_true ⟨[], rfl⟩ ⟨by simp, by decide, by simp⟩
  | case2 => exact iff_of_false (by simp) fun hformed => hformed.noneLeft rfl
  | case3 first second =>
      rw [wellFormed_pair, ← exists_value?_and_iff, ← exists_value?_iff]
      simp only [Option.bind_eq_bind, Option.bind_eq_some_iff]
      constructor
      · rintro ⟨bytes, high, hhigh, low, hlow, hread⟩
        obtain ⟨hunused, -⟩ := Option.ite_none_right_eq_some.1 hread
        exact ⟨⟨high, hhigh⟩, low, hlow, hunused⟩
      · rintro ⟨⟨high, hhigh⟩, low, hlow, hunused⟩
        exact ⟨_, high, hhigh, low, hlow, if_pos hunused⟩
  | case4 first second third =>
      rw [wellFormed_triple, ← exists_value?_and_iff]
      simp only [← exists_value?_iff, Option.bind_eq_bind, Option.bind_eq_some_iff]
      constructor
      · rintro ⟨bytes, high, hhigh, middle, hmiddle, low, hlow, hread⟩
        obtain ⟨hunused, -⟩ := Option.ite_none_right_eq_some.1 hread
        exact ⟨⟨high, hhigh⟩, ⟨middle, hmiddle⟩, low, hlow, hunused⟩
      · rintro ⟨⟨high, hhigh⟩, ⟨middle, hmiddle⟩, low, hlow, hunused⟩
        exact ⟨_, high, hhigh, middle, hmiddle, low, hlow, if_pos hunused⟩
  | case5 first second third fourth rest ih =>
      rw [wellFormed_group, ← ih]
      simp only [← exists_value?_iff, Option.bind_eq_bind, Option.bind_eq_some_iff]
      constructor
      · rintro ⟨bytes, a, ha, b, hb, c, hc, d, hd, tail, htail, -⟩
        exact ⟨⟨⟨a, ha⟩, ⟨b, hb⟩, ⟨c, hc⟩, ⟨d, hd⟩⟩, tail, htail⟩
      · rintro ⟨⟨⟨a, ha⟩, ⟨b, hb⟩, ⟨c, hc⟩, ⟨d, hd⟩⟩, tail, htail⟩
        exact ⟨_, a, ha, b, hb, c, hc, d, hd, tail, htail, rfl⟩

end Base64url

namespace Compact

open Base64url

/-- Whether the segments that go by a name and the strings of bytes give each other, and every text
that is no segment is refused as malformed. -/
structure CanonicalSegments (name : String) : Prop where
  recovers : ∀ bytes, decodeSegment name (encodeSegment bytes) = .ok bytes
  urlSafe : ∀ bytes, ∀ character ∈ (encodeSegment bytes).toList, IsUrlSafe character
  unique : ∀ segment bytes, decodeSegment name segment = .ok bytes → encodeSegment bytes = segment
  injective : ∀ segment segment' bytes, decodeSegment name segment = .ok bytes →
    decodeSegment name segment' = .ok bytes → segment = segment'
  refuses : ∀ segment, (¬∃ bytes, decodeSegment name segment = .ok bytes) ↔
    (∃ character ∈ segment.toList, ¬IsUrlSafe character) ∨ segment.length % 4 = 1 ∨
      ∃ last ∈ segment.toList.getLast?, ∃ value ∈ value? last,
        value % 2 ^ unusedBits segment.length ≠ 0
  malformed : ∀ segment malformation, decodeSegment name segment = .error malformation →
    malformation.fault.kind = .malformedToken

theorem exists_decodeSegment_iff {name segment : String} :
    (∃ bytes, decodeSegment name segment = .ok bytes) ↔ WellFormed segment.toList := by
  rw [← exists_decode_iff, ← Option.isSome_iff_exists, isSome_decode_iff]
  exact exists_congr fun _ => decodeSegment_eq_ok

/-- A segment is the one text of its bytes, and no other text is taken for a segment. -/
theorem segments_canonical (name : String) : CanonicalSegments name where
  recovers _ := decodeSegment_eq_ok.2 rfl
  urlSafe bytes := by
    have hread : decodeSegment name (encodeSegment bytes) = .ok bytes := decodeSegment_eq_ok.2 rfl
    exact (exists_decodeSegment_iff.1 ⟨bytes, hread⟩).urlSafe
  unique _ _ hread := (decodeSegment_eq_ok.1 hread).symm
  injective _ _ _ hread hread' :=
    (decodeSegment_eq_ok.1 hread).trans (decodeSegment_eq_ok.1 hread').symm
  refuses segment := by
    rw [exists_decodeSegment_iff, not_wellFormed_iff, String.length_toList]
  malformed segment malformation hrefused := by
    unfold decodeSegment at hrefused
    split at hrefused
    · cases hrefused
    · obtain rfl := Except.error.inj hrefused
      rfl

/-- The last symbol is seventeen: it has a bit beyond the two that the byte still wants. -/
example : decodeSegment "signature" "QR" = .error (.notBase64url "signature") := rfl

end Compact

end SecurityToken

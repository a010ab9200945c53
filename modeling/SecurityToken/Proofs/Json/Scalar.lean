import SecurityToken.Json.Parser
import Mathlib.Data.Fintype.Basic
import Mathlib.Tactic.FinCases

/-!
# Numbers and strings read back

The reader meets a number or a string in front of other text. A string ends at its quote, whatever
follows. A number ends where no digit, point or exponent follows, which is the case before a comma,
before a closing bracket and at the end of a text. In front of such text the reader finds the integer
or the string that was written there, and nothing of what follows is used up.
-/

namespace SecurityToken.Json

/-- Whether a number in front of a text ends there. -/
def EndsNumber (rest : List Char) : Prop :=
  ∀ character ∈ rest.head?, character.isDigit = false ∧ character ≠ '.' ∧ character ≠ 'e' ∧
    character ≠ 'E'

theorem endsNumber_nil : EndsNumber [] := by
  intro character hcharacter
  cases hcharacter

theorem endsNumber_comma (rest : List Char) : EndsNumber (',' :: rest) := by
  intro character hcharacter
  obtain rfl := Option.some.inj hcharacter
  decide

theorem endsNumber_bracket (rest : List Char) : EndsNumber (']' :: rest) := by
  intro character hcharacter
  obtain rfl := Option.some.inj hcharacter
  decide

theorem endsNumber_brace (rest : List Char) : EndsNumber ('}' :: rest) := by
  intro character hcharacter
  obtain rfl := Option.some.inj hcharacter
  decide

/-! ### Integers -/

def digitValues (value : Nat) : List Nat :=
  (Nat.toDigits 10 value).map fun digit => digit.toNat - 48

theorem digits_append {written rest : List Char} (hdigits : ∀ digit ∈ written, digit.isDigit = true)
    (hrest : EndsNumber rest) :
    digits (written ++ rest) = (written.map fun digit => digit.toNat - 48, rest) := by
  unfold digits
  rw [List.takeWhile_append_of_pos hdigits, List.dropWhile_append_of_pos hdigits]
  cases rest with
  | nil => simp
  | cons first rest =>
      have hfirst : ¬first.isDigit = true := by simp [(hrest first rfl).1]
      rw [List.takeWhile_cons_of_neg hfirst, List.dropWhile_cons_of_neg hfirst, List.append_nil]

theorem foldl_digitValues (value : Nat) :
    (digitValues value).foldl (fun value digit => value * 10 + digit) 0 = value := by
  rw [digitValues, List.foldl_map]
  conv_rhs => rw [← @Nat.ofDigitChars_ten_toDigits value, Nat.ofDigitChars_eq_foldl]
  congr 1
  funext sum digit
  rw [Nat.mul_comm]
  rfl

/-- A number is written without a superfluous zero in front. -/
theorem head_toDigits_ne_zero {value : Nat} (hvalue : value ≠ 0) :
    (Nat.toDigits 10 value).head? ≠ some '0' := by
  induction value using Nat.strongRecOn with
  | ind value ih =>
      by_cases hsmall : value < 10
      · rw [Nat.toDigits_of_lt_base hsmall]
        simpa [Nat.digitChar_eq_zero] using hvalue
      · rw [Nat.toDigits_of_base_le (by decide) (by omega)]
        have hhead := ih (value / 10) (by omega) (by omega)
        rw [List.head?_append_of_ne_nil _ Nat.toDigits_ne_nil]
        exact hhead

theorem digitValues_ne_superfluous (value : Nat) (second : Nat) (others : List Nat) :
    digitValues value ≠ 0 :: second :: others := by
  intro heq
  by_cases hvalue : value = 0
  · subst hvalue
    cases heq
  · have hhead := head_toDigits_ne_zero hvalue
    unfold digitValues at heq
    cases hdigits : Nat.toDigits 10 value with
    | nil => exact Nat.toDigits_ne_nil hdigits
    | cons first tail =>
        rw [hdigits] at heq hhead
        have hdigit : first.isDigit = true :=
          Nat.isDigit_of_mem_toDigits (by decide) (by decide) (hdigits ▸ List.mem_cons_self)
        have hzero : first.toNat - 48 = 0 := (List.cons.inj heq).1
        have hbounds : 48 ≤ first.toNat ∧ first.toNat ≤ 57 := Char.isDigit_iff_toNat.1 hdigit
        have hfirst : first = '0' := by
          rw [← Char.ofNat_toNat first, show first.toNat = 48 by omega]
        exact hhead (congrArg some hfirst)

theorem whole?_toDigits (value : Nat) {rest : List Char} (hrest : EndsNumber rest) :
    whole? (Nat.toDigits 10 value ++ rest) = some (digitValues value, rest) := by
  have hdigits : digits (Nat.toDigits 10 value ++ rest) = (digitValues value, rest) :=
    digits_append (fun digit hdigit => Nat.isDigit_of_mem_toDigits (by decide) (by decide) hdigit)
      hrest
  unfold whole?
  rw [hdigits]
  split
  next heq =>
    have hnil : digitValues value = [] := (Prod.mk.inj heq).1
    simp [digitValues, Nat.toDigits_ne_nil] at hnil
  next heq => exact absurd (Prod.mk.inj heq).1 (digitValues_ne_superfluous value _ _)
  next => rfl

theorem fraction?_of_endsNumber {rest : List Char} (hrest : EndsNumber rest) :
    fraction? rest = some (none, rest) := by
  unfold fraction?
  split
  next tail => exact absurd rfl (hrest '.' rfl).2.1
  next => rfl

theorem exponent?_of_endsNumber {rest : List Char} (hrest : EndsNumber rest) :
    exponent? rest = some (none, rest) := by
  unfold exponent?
  split
  next tail => exact absurd rfl (hrest 'e' rfl).2.2.1
  next tail => exact absurd rfl (hrest 'E' rfl).2.2.2
  next => rfl

theorem unsigned?_toDigits (negative : Bool) (value : Nat) {rest : List Char}
    (hrest : EndsNumber rest) :
    unsigned? negative (Nat.toDigits 10 value ++ rest) =
      some (⟨negative, digitValues value, none, none⟩, rest) := by
  unfold unsigned?
  simp only [whole?_toDigits value hrest, fraction?_of_endsNumber hrest,
    exponent?_of_endsNumber hrest, Option.bind_eq_bind, Option.bind_some]

theorem literal?_integerText (value : Int) {rest : List Char} (hrest : EndsNumber rest) :
    literal? (integerText value ++ rest) =
      some (⟨decide (value < 0), digitValues value.natAbs, none, none⟩, rest) := by
  unfold integerText
  by_cases hnegative : value < 0
  · rw [if_pos hnegative, List.cons_append, literal?, unsigned?_toDigits true _ hrest,
      decide_eq_true hnegative]
  · rw [if_neg hnegative, decide_eq_false hnegative, literal?, unsigned?_toDigits false _ hrest]
    intro tail htail
    cases hdigits : Nat.toDigits 10 value.natAbs with
    | nil => exact Nat.toDigits_ne_nil hdigits
    | cons first others =>
        have hdigit : first.isDigit = true :=
          Nat.isDigit_of_mem_toDigits (by decide) (by decide) (hdigits ▸ List.mem_cons_self)
        rw [hdigits, List.cons_append] at htail
        rw [(List.cons.inj htail).1] at hdigit
        exact absurd hdigit (by decide)

theorem integer?_literal (value : WireInteger) :
    Literal.integer? ⟨decide (value.1 < 0), digitValues value.1.natAbs, none, none⟩ =
      some value := by
  have hread : ∀ {number : Int}, number = value.1 → WireInteger.ofInt? number = some value := by
    rintro number rfl
    exact dif_pos value.2
  unfold Literal.integer? Literal.wholeValue
  simp only [foldl_digitValues]
  by_cases hnegative : value.1 < 0
  · rw [decide_eq_true hnegative]
    simp only [Option.isNone_none, and_self, if_true]
    rw [if_neg (by omega), hread (by omega)]
  · rw [decide_eq_false hnegative]
    simp only [Option.isNone_none, and_self, if_true, Bool.false_eq_true, if_false]
    exact hread (by omega)

theorem number?_integerText (value : WireInteger) {rest : List Char} (hrest : EndsNumber rest) :
    number? (integerText value.1 ++ rest) = some (.integer value, rest) := by
  unfold number? Literal.value?
  simp only [literal?_integerText value.1 hrest, integer?_literal, Option.bind_eq_bind,
    Option.bind_some]

/-! ### Strings -/

theorem stringChar?_escape_control (code : Fin 32) (rest : List Char) :
    stringChar? (escape (Char.ofNat code) ++ rest) = some (some (Char.ofNat code), rest) := by
  fin_cases code <;> rfl

theorem stringChar?_escape (character : Char) (rest : List Char) :
    stringChar? (escape character ++ rest) = some (some character, rest) := by
  by_cases hcontrol : character.toNat < 0x20
  · have hread := stringChar?_escape_control ⟨character.toNat, hcontrol⟩ rest
    rwa [Char.ofNat_toNat] at hread
  · unfold escape
    split
    next hquote =>
      subst hquote
      rfl
    next hquote =>
      split
      next hbackslash =>
        subst hbackslash
        rfl
      next hbackslash =>
        rw [List.singleton_append]
        unfold stringChar?
        split
        next heq => exact absurd (List.cons.inj heq).1 hquote
        next heq => exact absurd (List.cons.inj heq).1 hbackslash
        next heq =>
          obtain ⟨rfl, rfl⟩ := List.cons.inj heq
          rw [if_neg hcontrol]
        next heq => cases heq

theorem escape_ne_nil (character : Char) : escape character ≠ [] := by
  intro hnil
  have hread := stringChar?_escape character []
  rw [hnil] at hread
  cases hread

theorem stringChars?_escape (text rest : List Char) {count : Nat} (hcount : text.length < count) :
    stringChars? count (text.flatMap escape ++ '"' :: rest) = some (text, rest) := by
  induction text generalizing count with
  | nil =>
      obtain ⟨count, rfl⟩ := Nat.exists_eq_add_one_of_ne_zero (Nat.ne_of_gt hcount)
      rfl
  | cons character text ih =>
      obtain ⟨count, rfl⟩ := Nat.exists_eq_add_one_of_ne_zero (Nat.ne_zero_of_lt hcount)
      rw [List.flatMap_cons, List.append_assoc, stringChars?]
      simp only [stringChar?_escape, Option.bind_eq_bind, Option.bind_some,
        ih (Nat.lt_of_succ_lt_succ hcount)]

theorem length_le_length_flatMap_escape (text : List Char) :
    text.length ≤ (text.flatMap escape).length := by
  induction text with
  | nil => simp
  | cons character text ih =>
      have := List.length_pos_iff.2 (escape_ne_nil character)
      rw [List.flatMap_cons, List.length_append, List.length_cons]
      omega

theorem stringBody?_quote (text : String) (rest : List Char) :
    stringBody? (text.toList.flatMap escape ++ '"' :: rest) = some (text, rest) := by
  have hlength := length_le_length_flatMap_escape text.toList
  unfold stringBody?
  rw [stringChars?_escape]
  · simp only [Option.bind_eq_bind, Option.bind_some, String.ofList_toList]
  · rw [List.length_append, List.length_cons]
    omega

end SecurityToken.Json

import SecurityToken.Json.Double

/-!
The numbers of JSON: their grammar, and the value that a number denotes. A whole number that fits
in 64 bits is an integer, every other number is a double.
-/

namespace SecurityToken.Json

def digits (input : List Char) : List Nat × List Char :=
  ((input.takeWhile Char.isDigit).map fun digit => digit.toNat - 48, input.dropWhile Char.isDigit)

structure Literal where
  negative : Bool
  whole : List Nat
  fraction : Option (List Nat)
  exponent : Option Int

def fraction? : List Char → Option (Option (List Nat) × List Char)
  | '.' :: rest =>
      match digits rest with
      | ([], _) => none
      | (places, rest) => some (some places, rest)
  | rest => some (none, rest)

def exponentSign : List Char → Bool × List Char
  | '-' :: rest => (true, rest)
  | '+' :: rest => (false, rest)
  | rest => (false, rest)

def exponentDigits? (input : List Char) : Option (Option Int × List Char) :=
  let (negative, rest) := exponentSign input
  match digits rest with
  | ([], _) => none
  | (places, rest) =>
      let value : Nat := places.foldl (fun value digit => value * 10 + digit) 0
      some (some (if negative then -(value : Int) else value), rest)

def exponent? : List Char → Option (Option Int × List Char)
  | 'e' :: rest => exponentDigits? rest
  | 'E' :: rest => exponentDigits? rest
  | rest => some (none, rest)

/-- Reads the whole part: digits without a superfluous zero in front. -/
def whole? (input : List Char) : Option (List Nat × List Char) :=
  match digits input with
  | ([], _) => none
  | (0 :: _ :: _, _) => none
  | found => some found

def unsigned? (negative : Bool) (input : List Char) : Option (Literal × List Char) := do
  let (whole, rest) ← whole? input
  let (fraction, rest) ← fraction? rest
  let (exponent, rest) ← exponent? rest
  some (⟨negative, whole, fraction, exponent⟩, rest)

def literal? : List Char → Option (Literal × List Char)
  | '-' :: rest => unsigned? true rest
  | rest => unsigned? false rest

namespace Literal

def wholeValue (literal : Literal) : Nat :=
  literal.whole.foldl (fun value digit => value * 10 + digit) 0

/-- The integer that a literal denotes: it has neither fraction nor exponent, fits in 64 bits, and
is not a negative zero. -/
def integer? (literal : Literal) : Option WireInteger :=
  if literal.fraction.isNone ∧ literal.exponent.isNone then
    let value := literal.wholeValue
    if literal.negative then
      if value = 0 then none else WireInteger.ofInt? (-value)
    else WireInteger.ofInt? value
  else none

/-- The double that a literal denotes. An exponent beyond the range of 32 bits makes it zero, or
too large. -/
def double? (literal : Literal) : Option Float := do
  let scaled := (Scaled.ofWhole 0 literal.whole).addFraction (literal.fraction.getD [])
  let exponent := literal.exponent.getD 0
  let magnitude ←
    if exponent.natAbs < 0x80000000 then
      Scaled.magnitude? ⟨scaled.significand, scaled.exponent + exponent⟩
    else if scaled.significand ≠ 0 ∧ 0 < exponent then none
    else some 0
  some (if literal.negative then -magnitude else magnitude)

def value? (literal : Literal) : Option Json :=
  match literal.integer? with
  | some value => some (.integer value)
  | none => literal.double?.map .double

end Literal

def number? (input : List Char) : Option (Json × List Char) := do
  let (literal, rest) ← literal? input
  let value ← literal.value?
  some (value, rest)

end SecurityToken.Json

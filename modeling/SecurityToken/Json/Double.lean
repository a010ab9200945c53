import SecurityToken.Decimal.Shortest
import SecurityToken.Json.Basic

/-!
Doubles as they are read from and written to JSON. Reading gathers the digits in a 64-bit
significand and scales it by one power of ten, so its result may be one unit off in the last place;
writing gives the fewest digits that denote the double.
-/

namespace SecurityToken.Json

/-- Digits gathered from the text of a number: `significand * 10 ^ exponent`. -/
structure Scaled where
  significand : Nat
  exponent : Int

/-- Gathers digits before the point. The first that the significand cannot hold and all after it
are dropped and counted. -/
def Scaled.ofWhole (significand : Nat) : List Nat → Scaled
  | [] => ⟨significand, 0⟩
  | digit :: rest =>
      if significand * 10 + digit < 0x10000000000000000 then ofWhole (significand * 10 + digit) rest
      else ⟨significand, rest.length + 1⟩

/-- Gathers digits after the point. From the first that the significand cannot hold on they are
ignored. -/
def Scaled.addFraction (scaled : Scaled) : List Nat → Scaled
  | [] => scaled
  | digit :: rest =>
      if scaled.significand * 10 + digit < 0x10000000000000000 then
        addFraction ⟨scaled.significand * 10 + digit, scaled.exponent - 1⟩ rest
      else scaled

def powerOfTen (exponent : Nat) : Float :=
  Float.ofScientific 1 false exponent

/-- Scales a double by a power of ten, in one step where the power is a double itself. A smaller
power is divided out in steps of `10 ^ 308`; three of them leave nothing of any 64-bit number. -/
def scale? (value : Float) (exponent : Int) : Nat → Option Float
  | 0 => some value
  | steps + 1 =>
      if exponent.natAbs ≤ 308 then
        if 0 ≤ exponent then
          let product := value * powerOfTen exponent.toNat
          if product.isInf then none else some product
        else some (value / powerOfTen exponent.natAbs)
      else if value == 0 then some value
      else if 0 ≤ exponent then none
      else scale? (value / powerOfTen 308) (exponent + 308) steps

def Scaled.magnitude? (scaled : Scaled) : Option Float :=
  scale? scaled.significand.toUInt64.toFloat scaled.exponent 4

def binaryOfBits (bits : UInt64) : Binary :=
  let fraction : Nat := bits.toNat % 0x10000000000000
  let field : Nat := bits.toNat / 0x10000000000000 % 0x800
  if field = 0 then ⟨fraction, -1074, false⟩
  else ⟨0x10000000000000 + fraction, (field : Int) - 1075, fraction = 0 ∧ 1 < field⟩

/-- Positional from the fifth place after the point up to sixteen places before it, with at least
one digit after the point; otherwise one digit before the point and a signed exponent. -/
def decimalText (decimal : Decimal) : List Char :=
  let digits := Nat.toDigits 10 decimal.digits
  let leading := decimal.exponent + digits.length - 1
  if -5 ≤ leading ∧ leading ≤ 15 then
    if 0 ≤ decimal.exponent then
      digits ++ List.replicate decimal.exponent.toNat '0' ++ ['.', '0']
    else if 0 ≤ leading then
      digits.take (leading.toNat + 1) ++ '.' :: digits.drop (leading.toNat + 1)
    else
      '0' :: '.' :: List.replicate (leading.natAbs - 1) '0' ++ digits
  else
    let fraction := if digits.length = 1 then [] else '.' :: digits.drop 1
    digits.take 1 ++ fraction ++ 'e' :: (if leading < 0 then '-' else '+') ::
      Nat.toDigits 10 leading.natAbs

def doubleText (value : Float) : List Char :=
  let bits := value.toBits
  let magnitude := bits &&& 0x7FFFFFFFFFFFFFFF
  let sign := if bits = magnitude then [] else ['-']
  sign ++ if magnitude = 0 then ['0', '.', '0'] else decimalText (binaryOfBits magnitude).shortest

end SecurityToken.Json

/-!
The shortest decimal that reads back as a given binary floating-point value.

A value `mantissa * 2 ^ exponent` stands for an interval of reals that round to it. Of the decimal
grids, from coarse to fine, the first with a point in that interval gives the fewest digits, and of
two such points the nearer is taken.
-/

namespace SecurityToken

/-- A positive binary floating-point value. A power of two stands closer to its lower neighbour
than to its upper one, which `narrowBelow` records. -/
structure Binary where
  mantissa : Nat
  exponent : Int
  narrowBelow : Bool

/-- A decimal number `digits * 10 ^ exponent`. -/
structure Decimal where
  digits : Nat
  exponent : Int

namespace Binary

/-- The ends of the interval, in quarters of the last place. -/
def low (value : Binary) : Nat :=
  if value.narrowBelow then 4 * value.mantissa - 1 else 4 * value.mantissa - 2

def high (value : Binary) : Nat :=
  4 * value.mantissa + 2

/-- The length of a quarter of the last place and of a step of the grid `10 ^ exponent`, both
multiplied by one number that makes them whole. -/
def scales (value : Binary) (exponent : Int) : Nat × Nat :=
  (Nat.pow 10 (-exponent).toNat * Nat.pow 2 (value.exponent - 2).toNat,
    Nat.pow 10 exponent.toNat * Nat.pow 2 (2 - value.exponent).toNat)

/-- Whether a point of a grid lies in the interval. The ends belong to it when the mantissa is
even. -/
def contains (value : Binary) (quarter step digits : Nat) : Bool :=
  let point := digits * step
  if value.mantissa % 2 = 0 then
    value.low * quarter ≤ point && point ≤ value.high * quarter
  else
    value.low * quarter < point && point < value.high * quarter

/-- The point of the grid `10 ^ exponent` in the interval that is nearest to the value, if there
is one. -/
def onGrid? (value : Binary) (exponent : Int) : Option Nat :=
  let (quarter, step) := value.scales exponent
  let centre := 4 * value.mantissa * quarter
  let below := centre / step
  let gapBelow := centre - below * step
  let gapAbove := (below + 1) * step - centre
  match value.contains quarter step below, value.contains quarter step (below + 1) with
  | true, true =>
      let isBelowNearer := gapBelow < gapAbove ∨ (gapBelow = gapAbove ∧ below % 2 = 0)
      some (if isBelowNearer then below else below + 1)
  | true, false => some below
  | false, true => some (below + 1)
  | false, false => none

def search (value : Binary) : Nat → Int → Decimal
  | 0, exponent => ⟨0, exponent⟩
  | grids + 1, exponent =>
      match value.onGrid? exponent with
      | some digits => ⟨digits, exponent⟩
      | none => search value grids (exponent - 1)

/-- The shortest decimal of a positive double: its grid lies between `10 ^ 308` and
`10 ^ (-324)`. -/
def shortest (value : Binary) : Decimal :=
  value.search 633 308

end Binary

end SecurityToken

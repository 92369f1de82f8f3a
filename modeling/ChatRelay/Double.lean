import ChatRelay.Text.Decimal

/-!
# Double precision

The finite numbers of double precision, each as a multiple of the least one above zero, and the
operations that round to them. A number of double precision has at most fifty-three significant
bits. Rounding goes to the nearest one, and in a tie to the one whose last bit is zero.

* `nearest n d` rounds a ratio to fifty-three significant bits.
* `Double.ofRatio`, `Double.mul` and `Double.div` are rounded once, at their end.
* `Double.decimal` is exact: every number of double precision has a finite decimal expansion.
-/

namespace ChatRelay

/-- A number of double precision, as a multiple of the least one above zero. -/
structure Double where
  units : Int
  deriving DecidableEq, Repr

namespace Double

/-! ## Rounding -/

/-- The natural number with at most fifty-three significant bits that is nearest to `n / d`. -/
def nearest (n d : Nat) : Nat :=
  let grid := 1 <<< ((n / d).log2 - 52)
  let below := n / (grid * d)
  let excess := 2 * (n % (grid * d))
  if grid * d < excess ∨ grid * d = excess ∧ below % 2 = 1 then (below + 1) * grid
  else below * grid

/-- How many units make one. -/
def one : Nat := 1 <<< 1074

/-- The number that is nearest to `n / d`. -/
def ofRatio (n : Int) (d : Nat) : Double := ⟨n.sign * nearest (n.natAbs * one) d⟩

/-- The number that is nearest to a natural number. -/
def ofNat (n : Nat) : Double := ofRatio n 1

/-- Whether a result is no more than the greatest number. -/
def isFinite (x : Double) : Bool := x.units.natAbs < 1 <<< 2098

/-! ## Arithmetic -/

/-- The product of two numbers. -/
def mul (x y : Double) : Double := ofRatio (x.units * y.units) (one * one)

/-- The quotient of two numbers, of which the second is above zero. -/
def div (x y : Double) : Double := ofRatio x.units y.units.toNat

/-- The number with the other sign. -/
def neg (x : Double) : Double := ⟨-x.units⟩

/-! ## Decimal expansion -/

/-- The decimal number `mantissa / 10 ^ places` without zeros at its end. -/
def shorten (mantissa : Int) : (places : Nat) → Int × Nat
  | 0 => (mantissa, 0)
  | places + 1 =>
    if mantissa % 10 = 0 then shorten (mantissa / 10) places else (mantissa, places + 1)

/-- The decimal expansion of a number: a mantissa and the number of its digits after the point,
of which the last is not zero. The number is whole if there are none. -/
def decimal (x : Double) : Int × Nat :=
  shorten (x.units * Decimal.power 1074 / one) 1074

end Double

end ChatRelay

import ChatRelay.Double

/-!
# Numerals

The numbers of JSON, by their literals. Only a literal without fraction and exponent that fits
sixty-four bits, with or without a sign, is an integer. Every other one is a real number of double
precision; one that would exceed double precision is no number.

A real number is found from the first digits, as many as fit sixty-four bits; digits of the integer
part beyond them count as powers of ten. The significand and the power of ten are rounded each, and
so is their product or their quotient.
-/

namespace ChatRelay.Json.Numeral

/-- The integer that a literal writes. A minus sign before zero makes a real number. -/
def integer? : List Char → Option Int
  | '-' :: digits => do
    let n ← Decimal.read? digits
    if n ≠ 0 ∧ Int64.minValue.toInt ≤ -(n : Int) then some (-n) else none
  | digits => do
    let n ← Decimal.read? digits
    if n < UInt64.size then some n else none

/-- The literal of an integer. -/
def ofInt (n : Int) : List Char := (toString n).toList

/-! ## Real numbers -/

/-- Extends a significand by digits while it fits sixty-four bits. Gives the significand and the
digits that are left. -/
def extend (significand : Nat) : List Char → Nat × List Char
  | [] => (significand, [])
  | c :: digits =>
    let next := 10 * significand + Decimal.digitValue c
    if next < UInt64.size then extend next digits else (significand, c :: digits)

/-- The digits at the head of a text, and what follows them. -/
def spanDigits (cs : List Char) : List Char × List Char :=
  (cs.takeWhile Char.isDigit, cs.dropWhile Char.isDigit)

/-- The exponent that a text starts with, zero if there is none. -/
def exponent : List Char → Int
  | e :: cs =>
    if e = 'e' ∨ e = 'E' then
      match cs with
      | '-' :: cs => -(Decimal.value 0 (spanDigits cs).1)
      | '+' :: cs => Decimal.value 0 (spanDigits cs).1
      | cs => Decimal.value 0 (spanDigits cs).1
    else 0
  | [] => 0

/-- The number that is nearest to the power of ten with an exponent. -/
def power (exponent : Nat) : Double := .ofNat (Decimal.power exponent)

/-- The number that `significand * 10 ^ exponent` is read as, if it does not exceed double
precision. A quotient by a power beyond the three hundred and eighth is taken in two steps, and
after the second of them nothing is left for a third. -/
def scaled? (significand : Nat) (exponent : Int) : Option Double :=
  let x := Double.ofNat significand
  if significand = 0 then some x
  else if 308 < exponent then none
  else if 0 ≤ exponent then
    let product := x.mul (power exponent.toNat)
    if product.isFinite then some product else none
  else if -308 ≤ exponent then some (x.div (power (-exponent).toNat))
  else if -616 ≤ exponent then some ((x.div (power 308)).div (power (-exponent - 308).toNat))
  else some (.ofNat 0)

/-- The number that a literal without a sign is read as. -/
def magnitude? (literal : List Char) : Option Double :=
  let (whole, rest) := spanDigits literal
  let (significand, dropped) := extend 0 whole
  match rest with
  | '.' :: rest =>
    let (fraction, rest) := spanDigits rest
    let (significand, unread) := extend significand fraction
    scaled? significand (dropped.length - (fraction.length - unread.length : Nat) + exponent rest)
  | rest => scaled? significand (dropped.length + exponent rest)

/-- The real number that a literal is read as, if it does not exceed double precision. -/
def real? : List Char → Option Double
  | '-' :: literal => (magnitude? literal).map Double.neg
  | literal => magnitude? literal

end ChatRelay.Json.Numeral

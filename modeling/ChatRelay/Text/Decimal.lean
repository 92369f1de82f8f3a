/-!
# Decimal numerals

Reading unsigned decimal numerals. A numeral is a non-empty sequence of ASCII digits; the readers
below differ in the sign and in the bound that they accept. Numbers are written with
`Nat.repr`, which gives the shortest numeral.
-/

namespace ChatRelay.Decimal

/-- The value of a digit. -/
def digitValue (c : Char) : Nat := c.toNat - '0'.toNat

/-- The number written by the digits `cs` after the digits that make up `acc`. -/
def value (acc : Nat) (cs : List Char) : Nat :=
  cs.foldl (fun n c => 10 * n + digitValue c) acc

/-- The number that a non-empty sequence of ASCII digits writes. Leading zeros are allowed. -/
def read? (cs : List Char) : Option Nat :=
  if cs ≠ [] ∧ cs.all Char.isDigit then some (value 0 cs) else none

/-- A numeral below `bound`, with an optional plus sign. -/
def readBounded? (bound : Nat) (cs : List Char) : Option Nat :=
  let digits := match cs with
    | '+' :: rest => rest
    | _ => cs
  match read? digits with
  | some n => if n < bound then some n else none
  | none => none

/-- The power of ten with an exponent. -/
def power : Nat → Nat
  | 0 => 1
  | exponent + 1 => 10 * power exponent

end ChatRelay.Decimal

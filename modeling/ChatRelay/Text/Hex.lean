/-!
# Hexadecimal digits

The sixteen digits, read in either letter case and written in lower case.
-/

namespace ChatRelay.Hex

/-- The value of a hexadecimal digit of either letter case. -/
def value? (c : Char) : Option Nat :=
  if '0' ≤ c ∧ c ≤ '9' then some (c.toNat - '0'.toNat)
  else if 'a' ≤ c ∧ c ≤ 'f' then some (c.toNat - 'a'.toNat + 10)
  else if 'A' ≤ c ∧ c ≤ 'F' then some (c.toNat - 'A'.toNat + 10)
  else none

/-- Whether a character is a hexadecimal digit. -/
def isDigit (c : Char) : Bool := (value? c).isSome

/-- The digit of value `n`, for `n` below sixteen. -/
def digit (n : Nat) : Char :=
  if n < 10 then Char.ofNat ('0'.toNat + n) else Char.ofNat ('a'.toNat + (n - 10))

/-- The number written by the digits `cs` after the digits that make up `acc`, or `none` if one of
`cs` is no digit. -/
def value (acc : Nat) : List Char → Option Nat
  | [] => some acc
  | c :: cs =>
    match value? c with
    | some v => value (16 * acc + v) cs
    | none => none

/-- The last `width` digits of `n`. -/
def digits : (width : Nat) → (n : Nat) → List Char
  | 0, _ => []
  | width + 1, n => digits width (n / 16) ++ [digit (n % 16)]

/-- The shortest numeral of `n`. -/
def numeral (n : Nat) : List Char :=
  if n < 16 then [digit n] else numeral (n / 16) ++ [digit (n % 16)]

end ChatRelay.Hex

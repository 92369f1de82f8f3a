import ChatRelay.Double
import ChatRelay.Text.Hex
import ChatRelay.Text.Scan

/-!
# Numbers

Integers have to fit sixty-four bits, with their sign; those in another base than ten have no sign.
Real numbers are only checked: none may exceed double precision upwards.
-/

namespace ChatRelay.Toml.Read

open Scan

/-- Digits, with an underscore allowed between two of them. -/
def digits (isDigit : Char → Bool) : Scan (List Char) := do
  let first ← satisfy isDigit
  let rest ← many (satisfy isDigit <|> (char '_' *> satisfy isDigit))
  return first :: rest

/-- Decimal digits that start with a zero only if that is all. -/
def wholeDigits : Scan (List Char) :=
  (do
    let c ← ahead (satisfy Char.isDigit)
    if c = '0' then failure else digits Char.isDigit) <|> (do return [← satisfy Char.isDigit])

/-- A sign; whether it is a minus. -/
def sign : Scan Bool :=
  (do char '-'; return true) <|> (do char '+'; return false) <|> pure false

/-- A number in a base that its letter names, without a sign. -/
def based (letter : Char) (base : Nat) : Scan Nat := do
  char '0'
  char letter
  let ds ← digits fun c => (Hex.value? c).any (· < base)
  return ds.foldl (fun n c => base * n + (Hex.value? c).getD 0) 0

/-- An integer. -/
def integer : Scan Int := do
  let n ← (do
      let n ← based 'x' 16 <|> based 'o' 8 <|> based 'b' 2
      return (n : Int)) <|> (do
      let negative ← sign
      let n := Decimal.value 0 (← wholeDigits)
      return if negative then -n else n)
  if Int64.minValue.toInt ≤ n ∧ n ≤ Int64.maxValue.toInt then return n else failure

/-- Whether `significand * 10 ^ exponent` rounds to more than the greatest double-precision
number. -/
def exceedsDouble (significand : Nat) (exponent : Int) : Bool :=
  let size : Int := (toString significand).length + exponent
  significand ≠ 0 && 309 ≤ size &&
    (309 < size ||
      !(Double.ofRatio (significand * Decimal.power exponent.toNat)
        (Decimal.power (-exponent).toNat)).isFinite)

/-- The exponent of a real number. -/
def exponent : Scan Int := do
  discard (satisfy fun c => c = 'e' || c = 'E')
  let negative ← sign
  let n := Decimal.value 0 (← digits Char.isDigit)
  return if negative then -n else n

/-- The fraction of a real number. -/
def fraction : Scan (List Char) := char '.' *> digits Char.isDigit

/-- A real number. -/
def real : Scan Unit := do
  let negative ← sign
  (word "inf" <|> word "nan") <|> do
    let whole ← wholeDigits
    let (fraction, exponent) ← (do return ([], ← exponent)) <|> (do
      let digits ← fraction
      return (digits, (← attempt exponent).getD 0))
    if !negative && exceedsDouble (Decimal.value 0 (whole ++ fraction)) (exponent - fraction.length)
    then failure

/-! ## Dates and times -/

/-- A number of exactly `count` digits within bounds. -/
def numberIn (count least greatest : Nat) : Scan Nat := do
  let n := Decimal.value 0 (← times count (satisfy Char.isDigit))
  if least ≤ n ∧ n ≤ greatest then return n else failure

/-- The number of days of a month. -/
def daysOfMonth (year month : Nat) : Nat :=
  if month = 2 then
    if year % 4 = 0 ∧ (year % 100 ≠ 0 ∨ year % 400 = 0) then 29 else 28
  else if month = 4 ∨ month = 6 ∨ month = 9 ∨ month = 11 then 30
  else 31

/-- A date. -/
def date : Scan Unit := do
  let year ← numberIn 4 0 9999
  char '-'
  let month ← numberIn 2 1 12
  char '-'
  discard (numberIn 2 1 (daysOfMonth year month))

/-- A time of day, with a leap second allowed everywhere. -/
def time : Scan Unit := do
  discard (numberIn 2 0 23)
  char ':'
  discard (numberIn 2 0 59)
  char ':'
  discard (numberIn 2 0 60)
  discard (attempt (char '.' *> many (satisfy Char.isDigit) >>= fun ds => guard (ds ≠ [])))

/-- The distance from universal time. -/
def offset : Scan Unit :=
  discard (satisfy fun c => c = 'Z' || c = 'z') <|> do
    discard (satisfy fun c => c = '+' || c = '-')
    discard (numberIn 2 0 23)
    char ':'
    discard (numberIn 2 0 59)

/-- A date, a time of day, or both, with an offset only then. -/
def dateTime : Scan Unit :=
  (do
    date
    discard (attempt do
      discard (satisfy fun c => c = 'T' || c = 't' || c = ' ')
      time
      discard (attempt offset))) <|> time

end ChatRelay.Toml.Read

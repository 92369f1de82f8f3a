/-!
# UTF-8

Decoding of octets, one at a time. `decode` yields a character for each well-formed sequence and
`none` for each maximal part of an ill-formed one, so that the strict and the lenient reader are
two views of the same list: `text?` refuses a `none`, and `lenient` writes U+FFFD for it.
-/

namespace ChatRelay.Utf8

/-- Where the decoder stands between octets. -/
inductive State where
  /-- Between characters. -/
  | start
  /-- Inside a character: `owed` more octets, of which the next lies in `low .. high`, and the bits
  read so far. -/
  | inside (owed low high code : Nat)
  deriving DecidableEq, Repr

/-- The first octet of a character: what it yields and the state after it. -/
def first (b : Nat) : List (Option Char) × State :=
  if b ≤ 0x7F then ([some (Char.ofNat b)], .start)
  else if 0xC2 ≤ b ∧ b ≤ 0xDF then ([], .inside 1 0x80 0xBF (b - 0xC0))
  else if b = 0xE0 then ([], .inside 2 0xA0 0xBF 0)
  else if b = 0xED then ([], .inside 2 0x80 0x9F (b - 0xE0))
  else if 0xE1 ≤ b ∧ b ≤ 0xEF then ([], .inside 2 0x80 0xBF (b - 0xE0))
  else if b = 0xF0 then ([], .inside 3 0x90 0xBF 0)
  else if 0xF1 ≤ b ∧ b ≤ 0xF3 then ([], .inside 3 0x80 0xBF (b - 0xF0))
  else if b = 0xF4 then ([], .inside 3 0x80 0x8F (b - 0xF0))
  else ([none], .start)

/-- One octet: what it yields and the state after it. An octet that cannot continue a character
ends the ill-formed part and is taken up as a first octet. -/
def step : State → Nat → List (Option Char) × State
  | .start, b => first b
  | .inside owed low high code, b =>
    if low ≤ b ∧ b ≤ high then
      if owed = 1 then ([some (Char.ofNat (code * 64 + (b - 0x80)))], .start)
      else ([], .inside (owed - 1) 0x80 0xBF (code * 64 + (b - 0x80)))
    else
      let (out, state) := first b
      (none :: out, state)

/-- What the octets yield from a state. -/
def decodeFrom : State → List UInt8 → List (Option Char)
  | .start, [] => []
  | .inside .., [] => [none]
  | state, b :: bytes =>
    let (out, state) := step state b.toNat
    out ++ decodeFrom state bytes

/-- A character for each well-formed sequence, `none` for each maximal ill-formed part. -/
def decode (bytes : List UInt8) : List (Option Char) :=
  decodeFrom .start bytes

/-- The text of well-formed octets. -/
def text? (bytes : List UInt8) : Option String :=
  ((decode bytes).mapM id).map String.ofList

/-- The text of any octets, with U+FFFD for each ill-formed part. -/
def lenient (bytes : List UInt8) : String :=
  String.ofList ((decode bytes).map (·.getD (Char.ofNat 0xFFFD)))

end ChatRelay.Utf8

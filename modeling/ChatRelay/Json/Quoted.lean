import ChatRelay.Text.Hex

/-!
# Quoted text

What stands between the quotes of a JSON string. `escape` writes it, `unescape` reads it, and
`escape` is the shortest of the many forms that `unescape` reads. A character outside the basic
plane may be written as two escaped surrogates; half a pair stands for nothing.
-/

namespace ChatRelay.Json.Quoted

/-! ## Writing -/

/-- The letter that follows the backslash in the short escape of a character. -/
def shortEscape? (c : Char) : Option Char :=
  if c = '"' then some '"'
  else if c = '\\' then some '\\'
  else if c = '\x08' then some 'b'
  else if c = '\t' then some 't'
  else if c = '\n' then some 'n'
  else if c = '\x0c' then some 'f'
  else if c = '\r' then some 'r'
  else none

/-- One character, escaped if it is a quote, a backslash or a control character below a blank. -/
def escapeChar (c : Char) : List Char :=
  match shortEscape? c with
  | some letter => ['\\', letter]
  | none => if c < ' ' then '\\' :: 'u' :: Hex.digits 4 c.toNat else [c]

/-- The quoted form of a text. -/
def escape (cs : List Char) : List Char := cs.flatMap escapeChar

/-! ## Reading -/

/-- The character that a letter after a backslash stands for. -/
def shortUnescape? (letter : Char) : Option Char :=
  if letter = '"' then some '"'
  else if letter = '\\' then some '\\'
  else if letter = '/' then some '/'
  else if letter = 'b' then some '\x08'
  else if letter = 't' then some '\t'
  else if letter = 'n' then some '\n'
  else if letter = 'f' then some '\x0c'
  else if letter = 'r' then some '\r'
  else none

/-- A piece of a quoted text: a character, or the sixteen bits of a numeric escape. -/
inductive Piece where
  | char (c : Char)
  | unit (code : Nat)
  deriving DecidableEq, Repr

/-- The pieces of a quoted text. -/
def pieces : List Char → Option (List Piece)
  | [] => some []
  | '\\' :: 'u' :: a :: b :: c :: d :: rest => do
    let code ← Hex.value 0 [a, b, c, d]
    return .unit code :: (← pieces rest)
  | '\\' :: letter :: rest => do
    let c ← shortUnescape? letter
    return .char c :: (← pieces rest)
  | c :: rest =>
    if c = '\\' ∨ c = '"' ∨ c < ' ' then none else (.char c :: ·) <$> pieces rest

/-- Whether sixteen bits are the first half of a pair. -/
def isHighSurrogate (code : Nat) : Bool := 0xD800 ≤ code && code ≤ 0xDBFF

/-- Whether sixteen bits are the second half of a pair. -/
def isLowSurrogate (code : Nat) : Bool := 0xDC00 ≤ code && code ≤ 0xDFFF

/-- The text of pieces, in which each half of a pair has to meet the other. -/
def joinPieces : List Piece → Option (List Char)
  | [] => some []
  | .char c :: rest => (c :: ·) <$> joinPieces rest
  | .unit high :: .unit low :: rest =>
    if isHighSurrogate high then
      if isLowSurrogate low then
        (Char.ofNat (0x10000 + (high - 0xD800) * 0x400 + (low - 0xDC00)) :: ·) <$> joinPieces rest
      else none
    else if isLowSurrogate high then none
    else (Char.ofNat high :: ·) <$> joinPieces (.unit low :: rest)
  | .unit code :: rest =>
    if isHighSurrogate code || isLowSurrogate code then none
    else (Char.ofNat code :: ·) <$> joinPieces rest

/-- The text of a quoted form. -/
def unescape (cs : List Char) : Option (List Char) :=
  (pieces cs).bind joinPieces

end ChatRelay.Json.Quoted

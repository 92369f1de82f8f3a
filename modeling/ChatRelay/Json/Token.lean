import ChatRelay.Text.Hex

/-!
# Tokens

The tokens of JSON text. Characters are taken one at a time, and what a token needs to remember
between them is its state, so that scanning is a fold. Strings and numbers keep their literals:
what they stand for is decided where they are used. The first character that fits nowhere yields
the token `bad`, and nothing follows it.
-/

namespace ChatRelay.Json

/-- A token. -/
inductive Token where
  | openBrace
  | closeBrace
  | openBracket
  | closeBracket
  | colon
  | comma
  | null
  | bool (value : Bool)
  | number (literal : List Char)
  | string (literal : List Char)
  | bad
  deriving DecidableEq, Repr

namespace Token

/-- What a numeral ends with so far. -/
inductive NumeralPart where
  | minus
  | zero
  | whole
  | point
  | fraction
  | exponentMark
  | exponentSign
  | exponent
  deriving DecidableEq, Repr

namespace NumeralPart

/-- Whether a numeral may end here. -/
def isComplete : NumeralPart → Bool
  | zero | whole | fraction | exponent => true
  | minus | point | exponentMark | exponentSign => false

/-- What a numeral ends with after one more character, if it can take it. -/
def next? (part : NumeralPart) (c : Char) : Option NumeralPart :=
  match part with
  | minus => if c = '0' then some zero else if c.isDigit then some whole else none
  | zero =>
    if c = '.' then some point else if c = 'e' ∨ c = 'E' then some exponentMark else none
  | whole =>
    if c.isDigit then some whole
    else if c = '.' then some point
    else if c = 'e' ∨ c = 'E' then some exponentMark
    else none
  | point => if c.isDigit then some fraction else none
  | fraction =>
    if c.isDigit then some fraction
    else if c = 'e' ∨ c = 'E' then some exponentMark
    else none
  | exponentMark =>
    if c.isDigit then some exponent
    else if c = '+' ∨ c = '-' then some exponentSign
    else none
  | exponentSign => if c.isDigit then some exponent else none
  | exponent => if c.isDigit then some exponent else none

/-- What a numeral starts with. -/
def first? (c : Char) : Option NumeralPart :=
  if c = '-' then some minus else minus.next? c

end NumeralPart

/-- Where a string stands. -/
inductive StringPart where
  /-- Between characters. -/
  | plain
  /-- After a backslash. -/
  | escape
  /-- Inside a numeric escape, with digits still to come. -/
  | digits (owed : Nat)
  deriving DecidableEq, Repr

/-- Where scanning stands. The characters of a literal are kept last first. -/
inductive State where
  | start
  /-- Inside a word, with characters still to come. -/
  | word (owed : List Char) (token : Token)
  | string (part : StringPart) (literal : List Char)
  | number (part : NumeralPart) (literal : List Char)
  /-- After a bad token. -/
  | stopped
  deriving DecidableEq, Repr

/-- White space between tokens. -/
def isSpace (c : Char) : Bool := c = ' ' || c = '\t' || c = '\n' || c = '\r'

/-- The token of a punctuation mark. -/
def mark? (c : Char) : Option Token :=
  if c = '{' then some openBrace
  else if c = '}' then some closeBrace
  else if c = '[' then some openBracket
  else if c = ']' then some closeBracket
  else if c = ':' then some colon
  else if c = ',' then some comma
  else none

/-- The word that starts with a character: what has to follow, and its token. -/
def word? (c : Char) : Option (List Char × Token) :=
  if c = 'n' then some (['u', 'l', 'l'], null)
  else if c = 't' then some (['r', 'u', 'e'], bool true)
  else if c = 'f' then some (['a', 'l', 's', 'e'], bool false)
  else none

/-- A character between tokens: the tokens that it completes, and the state after it. -/
def first (c : Char) : List Token × State :=
  if isSpace c then ([], .start)
  else if c = '"' then ([], .string .plain [])
  else
    match mark? c, word? c, NumeralPart.first? c with
    | some token, _, _ => ([token], .start)
    | none, some (owed, token), _ => ([], .word owed token)
    | none, none, some part => ([], .number part [c])
    | none, none, none => ([bad], .stopped)

/-- A character inside a string. -/
def stringStep (part : StringPart) (literal : List Char) (c : Char) : List Token × State :=
  match part with
  | .plain =>
    if c = '"' then ([string literal.reverse], .start)
    else if c < ' ' then ([bad], .stopped)
    else ([], .string (if c = '\\' then .escape else .plain) (c :: literal))
  | .escape =>
    if c = 'u' then ([], .string (.digits 4) (c :: literal))
    else if c ∈ ['"', '\\', '/', 'b', 'f', 'n', 'r', 't'] then ([], .string .plain (c :: literal))
    else ([bad], .stopped)
  | .digits owed =>
    if Hex.isDigit c then
      ([], .string (if owed ≤ 1 then .plain else .digits (owed - 1)) (c :: literal))
    else ([bad], .stopped)

/-- One character: the tokens that it completes, and the state after it. A numeral ends before the
first character that it cannot take; a zero cannot be followed by a digit. -/
def step : State → Char → List Token × State
  | .start, c => first c
  | .word [] token, c =>
    let (tokens, state) := first c
    (token :: tokens, state)
  | .word (d :: owed) token, c =>
    if c = d then
      if owed = [] then ([token], .start) else ([], .word owed token)
    else ([bad], .stopped)
  | .string part literal, c => stringStep part literal c
  | .number part literal, c =>
    match part.next? c with
    | some part => ([], .number part (c :: literal))
    | none =>
      if part.isComplete ∧ ¬(part = .zero ∧ c.isDigit) then
        let (tokens, state) := first c
        (number literal.reverse :: tokens, state)
      else ([bad], .stopped)
  | .stopped, _ => ([], .stopped)

/-- The tokens that the end of the text completes. -/
def finish : State → List Token
  | .start => []
  | .word .. => [bad]
  | .string .. => [bad]
  | .number part literal => if part.isComplete then [number literal.reverse] else [bad]
  | .stopped => []

/-- The tokens of a text from a state on. -/
def scanFrom : State → List Char → List Token
  | state, [] => finish state
  | state, c :: cs =>
    let (tokens, state) := step state c
    tokens ++ scanFrom state cs

/-- The tokens of a text. -/
def scan (cs : List Char) : List Token := scanFrom .start cs

end Token

end ChatRelay.Json

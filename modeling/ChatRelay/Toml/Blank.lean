import ChatRelay.Text.Scan

/-!
# Blanks, comments and ends of lines
-/

namespace ChatRelay.Toml.Read

open Scan

/-- A character that may stand in comments and, if it is not special there, in strings: a tab or
anything but a control character. -/
def isPlain (c : Char) : Bool := c = '\t' || (' ' ≤ c && c ≠ '\x7f')

/-- A blank within a line. -/
def isBlank (c : Char) : Bool := c = ' ' || c = '\t'

/-- Blanks within a line. -/
def blanks : Scan Unit := do discard (takeWhile isBlank)

/-- The end of a line. -/
def newline : Scan Unit := char '\n' <|> word "\r\n"

/-- A comment, up to the end of its line. -/
def comment : Scan Unit := do
  char '#'
  discard (takeWhile isPlain)

/-- The end of a line or of the text. -/
def lineEnd : Scan Unit := newline <|> atEnd

/-- What may follow in a line, with its end. -/
def lineRest : Scan Unit := do
  blanks
  discard (attempt comment)
  lineEnd

/-- Blanks, ends of lines and comments. -/
def gap : Scan Unit := do
  blanks
  discard (many ((do discard (attempt comment); newline; blanks) <|>
    discard (satisfy isBlank)))

end ChatRelay.Toml.Read

import ChatRelay.Text.Hex
import ChatRelay.Toml.Blank

/-!
# Strings

The four kinds of strings: with escapes or without, in one line or in several. A string of several
lines starts behind an end of line, if one follows its opening quotes, and one or two quotes may
stand in it anywhere.
-/

namespace ChatRelay.Toml.Read

open Scan

/-- A character by its code in exactly `count` hexadecimal digits. -/
def codePoint (count : Nat) : Scan Char := do
  let digits ← times count (satisfy Hex.isDigit)
  match Hex.value 0 digits with
  | some code => if code.isValidChar then return Char.ofNat code else failure
  | none => failure

/-- The character of an escape, behind its backslash. -/
def escaped : Scan Char := do
  match ← satisfy fun _ => true with
  | 'b' => return '\x08'
  | 't' => return '\t'
  | 'n' => return '\n'
  | 'f' => return '\x0c'
  | 'r' => return '\r'
  | '"' => return '"'
  | '\\' => return '\\'
  | 'u' => codePoint 4
  | 'U' => codePoint 8
  | _ => failure

/-- A character of a string with escapes. -/
def basicChar : Scan Char :=
  satisfy (fun c => isPlain c && c ≠ '"' && c ≠ '\\') <|> (char '\\' *> escaped)

/-- A string with escapes in one line. -/
def basic : Scan (List Char) := do
  char '"'
  let cs ← many basicChar
  char '"'
  return cs

/-- A string without escapes in one line. -/
def literal : Scan (List Char) := do
  char '\''
  let cs ← takeWhile fun c => isPlain c && c ≠ '\''
  char '\''
  return cs

/-- A part of a string with escapes in several lines. A backslash at the end of a line leaves out
the end and all white space up to the next visible character. -/
def basicPart : Scan (List Char) :=
  (do return [← basicChar]) <|> (do newline; return ['\n']) <|> do
    char '\\'
    blanks
    newline
    discard (many (discard (satisfy isBlank) <|> newline))
    return []

/-- A part of a string without escapes in several lines. -/
def literalPart : Scan (List Char) :=
  (do return [← satisfy fun c => isPlain c && c ≠ '\'']) <|> (do newline; return ['\n'])

/-- One or two quotes with something particular behind them, as many as possible. -/
def quotes (quote : Char) (behind : Scan Unit) : Scan (List Char) :=
  (do times 2 (char quote) *> ahead behind; return [quote, quote]) <|>
    (do char quote *> ahead behind; return [quote])

/-- A string in several lines. -/
def multiline (quote : Char) (part : Scan (List Char)) : Scan (List Char) := do
  let delimiter := discard (times 3 (char quote))
  delimiter
  discard (attempt newline)
  let parts ← many (part <|> quotes quote (discard part))
  let last ← attempt (quotes quote delimiter)
  delimiter
  return parts.flatten ++ last.getD []

/-- A string of any kind. -/
def quoted : Scan String := do
  let cs ← multiline '"' basicPart <|> basic <|> multiline '\'' literalPart <|> literal
  return String.ofList cs

end ChatRelay.Toml.Read

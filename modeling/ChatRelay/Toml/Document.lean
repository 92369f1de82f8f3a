import ChatRelay.Toml
import ChatRelay.Toml.Numeral
import ChatRelay.Toml.Quoted

/-!
# Documents

A document is a sequence of lines: headers of tables, keys with values, comments and empty lines.
The lines below a header belong to its table.
-/

namespace ChatRelay.Toml.Read

open Scan

/-! ## Keys -/

/-- Whether a character may stand in a key without quotes. -/
def isKeyChar (c : Char) : Bool := c.isAlphanum || c = '-' || c = '_'

/-- One part of a key. -/
def keyPart : Scan String := do
  let cs ← basic <|> literal <|> (do
    let cs ← takeWhile isKeyChar
    if cs = [] then failure else return cs)
  return String.ofList cs

/-- How deep keys and values may be nested. -/
def maxDepth : Nat := 79

/-- A key: all its parts but the last one, and the last one. -/
def key : Scan (List String × String) := do
  let parts ← separated (blanks *> keyPart <* blanks) (char '.')
  match parts.getLast? with
  | some last => if parts.length ≤ maxDepth then return (parts.dropLast, last) else failure
  | none => failure

/-! ## Values -/

/-- A value that holds no other values. -/
def scalar : Scan Toml :=
  (do return .text (← quoted)) <|>
  (do dateTime; return .dateTime) <|>
  (do real; return .real) <|>
  (do return .integer (← integer)) <|>
  (do word "true"; return .bool true) <|>
  (do word "false"; return .bool false)

/-- An array, over several lines if need be. -/
def array (item : Scan Toml) : Scan Toml := do
  char '['
  let items ← attempt do
    let items ← separated (gap *> item <* gap) (char ',')
    discard (attempt (char ','))
    return items
  gap
  char ']'
  return .array (items.getD [])

/-- A key with its value. -/
def keyValue (value : Scan Toml) : Scan (List String × String × Toml) := do
  let (path, last) ← key
  char '='
  blanks
  return (path, last, ← value)

/-- A table as a value. -/
def inlineTable (value : Scan Toml) : Scan Toml := do
  char '\x7b'
  let values ← attempt (separated (keyValue value <* blanks) (char ','))
  blanks
  char '\x7d'
  match Entries.addAll [] (values.getD []) with
  | some entries => return .inline entries
  | none => failure

/-- A value in which at most `depth` arrays and tables lie around each other. -/
def value : (depth : Nat) → Scan Toml
  | 0 => scalar
  | depth + 1 => scalar <|> array (value depth) <|> inlineTable (value depth)

/-! ## Lines -/

/-- What a line holds. -/
inductive Line where
  | nothing
  | header (path : List String) (key : String)
  | elementHeader (path : List String) (key : String)
  | entry (path : List String) (key : String) (value : Toml)
  deriving Repr

/-- One line, with its end. -/
def line : Scan Line :=
  (do comment; lineEnd; return .nothing) <|>
  (do newline; return .nothing) <|>
  (do
    word "[["
    let (path, last) ← key
    word "]]"
    lineRest
    return .elementHeader path last) <|>
  (do
    char '['
    let (path, last) ← key
    char ']'
    lineRest
    return .header path last) <|>
  (do
    let (path, last, v) ← keyValue (value maxDepth)
    lineRest
    return .entry path last v)

/-- The lines of a document. A byte order mark may stand before them. -/
def lines : Scan (List Line) := do
  discard (attempt (char '\ufeff'))
  blanks
  many (line <* blanks)

/-- A part of a document: a header, none for the first part, and the entries below it. -/
structure Part where
  header : Option (Bool × List String × String)
  entries : List (List String × String × Toml)

/-- The parts of a document. -/
def parts : List Line → List Part
  | [] => [{ header := none, entries := [] }]
  | .nothing :: rest => parts rest
  | .header path key :: rest => begin (some (false, path, key)) (parts rest)
  | .elementHeader path key :: rest => begin (some (true, path, key)) (parts rest)
  | .entry path key value :: rest =>
    match parts rest with
    | part :: rest => { part with entries := (path, key, value) :: part.entries } :: rest
    | [] => []
where
  /-- Gives the first part its header, and puts an empty part before it. -/
  begin (header : Option (Bool × List String × String)) : List Part → List Part
    | part :: rest => { header := none, entries := [] } :: { part with header } :: rest
    | [] => []

/-- Adds a part to a document. -/
def Part.addTo (entries : Entries) (part : Part) : Option Entries :=
  match part.header with
  | none => entries.addAll part.entries
  | some (false, path, key) => entries.addTable path key part.entries
  | some (true, path, key) => entries.addElement path key part.entries

end ChatRelay.Toml.Read

namespace ChatRelay.Toml

/-- The document of a text. -/
def ofText? (text : String) : Option Toml := do
  let lines ← Read.lines.whole text
  let entries ← (Read.parts lines).foldlM Read.Part.addTo []
  return .table .header entries

end ChatRelay.Toml

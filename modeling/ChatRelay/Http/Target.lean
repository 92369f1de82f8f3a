import ChatRelay.Http.Form

/-!
# Targets

What the first line of a request asks for. A target is written as a path with a query after it, as
an address with a scheme, as an authority alone, or as a star. An authority is checked, but no
server looks at it; a target that is only an authority has an empty path.
-/

namespace ChatRelay.Http

/-- What a request asks for: a path, and a query, which may be empty. -/
structure Target where
  path : List Char
  query : List Char
  deriving DecidableEq, Repr

/-- Why a request has no target. -/
inductive TargetError where
  /-- The target is not written as one of the forms of a target. -/
  | malformed
  /-- The target is longer than any that is read. -/
  | tooLong
  deriving DecidableEq, Repr

/-! ## Characters -/

/-- Whether a character can be a part of a line with blanks between its words. -/
def isVisible (c : Char) : Bool := ' ' < c && c ≠ '\x7f'

/-- Whether the name of a method can contain a character. -/
def isMethodChar (c : Char) : Bool :=
  c.isAlphanum || "!#$%&'*+-.^_`|~".toList.contains c

/-- Whether the name of a method is well-formed. -/
def isMethod (name : String) : Bool := name ≠ "" && name.toList.all isMethodChar

/-- Whether a path can contain a character. -/
def isPathChar (c : Char) : Bool := isVisible c && !"#<>?`".toList.contains c

/-- Whether a query can contain a character. -/
def isQueryChar (c : Char) : Bool := isVisible c && !"\"#<>".toList.contains c

/-- Whether a scheme can contain a character. -/
def isSchemeChar (c : Char) : Bool := c.isAlphanum || "+-.~".toList.contains c

/-- Whether an authority can contain a character that has no rule of its own. -/
def isAuthorityChar (c : Char) : Bool := c.isAlphanum || "!$&'()*+,-._;=~".toList.contains c

/-! ## Authorities -/

/-- What was seen of an authority. User information, which ends with `@`, and an address in brackets
may contain colons and percent signs; what follows them may contain one colon, before the port, and
no percent sign. -/
structure Authority where
  /-- The number of colons since the last `@` and the closing bracket. -/
  colons : Nat := 0
  /-- Whether there was a percent sign since the last `@` and the closing bracket. -/
  hasPercent : Bool := false
  isOpened : Bool := false
  isClosed : Bool := false
  deriving DecidableEq, Repr

namespace Authority

/-- Looks at the next character. -/
def next? (a : Authority) (c : Char) : Option Authority :=
  match c with
  | ':' => if a.colons < 8 then some { a with colons := a.colons + 1 } else none
  | '[' => if a.hasPercent || a.isOpened then none else some { a with isOpened := true }
  | ']' =>
    if a.isOpened && !a.isClosed then
      some { a with colons := 0, hasPercent := false, isClosed := true }
    else none
  | '@' => some { a with colons := 0, hasPercent := false }
  | '%' => some { a with hasPercent := true }
  | c => if isAuthorityChar c then some a else none

/-- Whether an authority can end here. -/
def isComplete (a : Authority) : Bool :=
  a.isOpened = a.isClosed && a.colons ≤ 1 && !a.hasPercent

/-- Whether a text is an authority: it is not empty, and a host follows the user information. -/
def isValid (text : List Char) : Bool :=
  text ≠ [] && text.getLast? ≠ some '@' && (text.foldlM next? {}).any isComplete

end Authority

/-! ## Reading -/

namespace Target

/-- Reads a path with a query, which starts after the first `?`. -/
def ofPath? (text : List Char) : Option Target :=
  let (path, query) := divide '?' text
  if path.all isPathChar && query.all isQueryChar then some { path, query } else none

/-- The text after a scheme of at most sixty-four characters and the mark `://` behind it. -/
def afterScheme? (text : List Char) : Option (List Char) :=
  let scheme := text.takeWhile isSchemeChar
  match text.drop scheme.length with
  | ':' :: '/' :: '/' :: rest => if scheme.length ≤ 64 then some rest else none
  | _ => none

/-- Reads an address without its scheme. The path of an address is at least a slash. -/
def ofAddress? (text : List Char) : Option Target :=
  let isEnd (c : Char) : Bool := c = '/' || c = '?'
  if Authority.isValid (text.takeWhile (!isEnd ·)) then
    (ofPath? (text.dropWhile (!isEnd ·))).map fun target =>
      { target with path := if target.path = [] then ['/'] else target.path }
  else none

/-- Reads a target in one of its forms. -/
def ofForm? (text : List Char) : Option Target :=
  if text.head? = some '/' then ofPath? text
  else if text = ['*'] then some { path := text, query := [] }
  else
    match afterScheme? text with
    | some rest => ofAddress? rest
    | none => if Authority.isValid text then some { path := [], query := [] } else none

/-- Reads a target. A part from `#` on does not count, and no more than 65534 octets are read. -/
def ofText (text : String) : Except TargetError Target :=
  let written := (divide '#' text.toList).1
  if !written.all isVisible then .error .malformed
  else if 65534 < (String.ofList written).utf8ByteSize then .error .tooLong
  else
    match ofForm? written with
    | some target => .ok target
    | none => .error .malformed

end Target

end ChatRelay.Http

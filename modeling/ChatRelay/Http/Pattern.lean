/-!
# Patterns of paths

A pattern stands for the paths that a resource is found on. `/chat/:room` stands for the paths with
one part after `/chat/`, and `/files/*path` for those with anything after `/files/`. All that is not
a parameter stands for itself.
-/

namespace ChatRelay.Http

/-- A piece of a pattern. -/
inductive Piece where
  /-- A character that stands for itself. -/
  | char (c : Char)
  /-- A parameter: the characters up to the next slash. -/
  | segment
  /-- A parameter for all that is left. -/
  | remainder
  deriving DecidableEq, Repr

/-- The pieces of a pattern, in their order. -/
abbrev Pattern := List Piece

namespace Pattern

/-- The pieces of a text, of which the first characters may belong to the name of a parameter. A
name goes up to the next slash. -/
def pieces (isNamed : Bool) : List Char → Pattern
  | [] => []
  | c :: rest =>
    if isNamed && c ≠ '/' then pieces true rest
    else if c = ':' then .segment :: pieces true rest
    else if c = '*' then [.remainder]
    else .char c :: pieces false rest

/-- The pattern that is written as a text. -/
def ofText (text : String) : Pattern := pieces false text.toList

/-- Whether a pattern stands for a path. A parameter at the end of it has to stand for something;
one in front of a slash may stand for nothing. -/
def admits : Pattern → List Char → Bool
  | [], path => path.isEmpty
  | .char _ :: _, [] => false
  | .char c :: pieces, d :: path => c = d && admits pieces path
  | .remainder :: _, path => !path.isEmpty
  | [.segment], path => !path.isEmpty && !path.contains '/'
  | .segment :: pieces, path => admits pieces (path.dropWhile (· ≠ '/'))

/-- Whether a pattern follows a text up to a parameter that starts before the end of the text. -/
def branchesWithin : Pattern → List Char → Bool
  | .char c :: pieces, d :: text => c = d && branchesWithin pieces text
  | .char _ :: _, [] => false
  | _ :: _, text => !text.isEmpty
  | [], _ => false

end Pattern

end ChatRelay.Http

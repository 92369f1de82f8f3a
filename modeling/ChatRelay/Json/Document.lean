import ChatRelay.Json
import ChatRelay.Json.Token

/-!
# Documents

A text with one value. The value is built from the tokens one at a time; the arrays and objects
that are still open wait on a stack. Where a token fits nowhere, or the tokens end too early, a
fault takes the place of what should have come, and everything that is open is closed over it.
-/

namespace ChatRelay.Json

/-- A text as one value, and whether anything but white space follows it. -/
structure Document where
  value : Json
  hasMore : Bool
  deriving Repr

namespace Document

/-- An array or object that waits for the value of one of its places, with what came before that
place, last first. -/
inductive Enclosing where
  | item (before : List Json)
  | member (before : List (List Char × Json)) (name : List Char)
  deriving Repr

/-- What may come next. -/
inductive State where
  /-- A value. -/
  | value (outer : List Enclosing)
  /-- The first item of an array, or its end. -/
  | firstItem (outer : List Enclosing)
  /-- A comma or the end of an array. -/
  | afterItem (items : List Json) (outer : List Enclosing)
  /-- The first name of an object, or its end. -/
  | firstName (outer : List Enclosing)
  /-- A name. -/
  | name (members : List (List Char × Json)) (outer : List Enclosing)
  /-- The colon after a name. -/
  | colon (members : List (List Char × Json)) (name : List Char) (outer : List Enclosing)
  /-- A comma or the end of an object. -/
  | afterMember (members : List (List Char × Json)) (outer : List Enclosing)
  /-- Nothing. -/
  | done (document : Document)
  deriving Repr

/-- Puts a value into its place. -/
def put (value : Json) : List Enclosing → State
  | [] => .done { value, hasMore := false }
  | .item before :: outer => .afterItem (value :: before) outer
  | .member before name :: outer => .afterMember ((name, value) :: before) outer

/-- Closes everything that is open over a value. -/
def enclose (value : Json) : List Enclosing → Json
  | [] => value
  | .item before :: outer => enclose (.array (value :: before).reverse) outer
  | .member before name :: outer => enclose (.object ((name, value) :: before).reverse) outer

/-- The document with a fault in the place of what may come next. -/
def finish : State → Document
  | .value outer => { value := enclose .fault outer, hasMore := false }
  | .firstItem outer => { value := enclose .fault (.item [] :: outer), hasMore := false }
  | .afterItem items outer => { value := enclose .fault (.item items :: outer), hasMore := false }
  | .firstName outer => { value := enclose .fault (.member [] [] :: outer), hasMore := false }
  | .name members outer | .afterMember members outer =>
    { value := enclose .fault (.member members [] :: outer), hasMore := false }
  | .colon members name outer =>
    { value := enclose .fault (.member members name :: outer), hasMore := false }
  | .done document => document

/-- A token where a value has to come. -/
def begin? (outer : List Enclosing) : Token → Option State
  | .openBrace => some (.firstName outer)
  | .openBracket => some (.firstItem outer)
  | .null => some (put .null outer)
  | .bool b => some (put (.bool b) outer)
  | .number literal => some (put (.number literal) outer)
  | .string literal => some (put (.string literal) outer)
  | .closeBrace | .closeBracket | .colon | .comma | .bad => none

/-- A token that fits what may come next. -/
def next? : State → Token → Option State
  | .value outer, token => begin? outer token
  | .firstItem outer, .closeBracket => some (put (.array []) outer)
  | .firstItem outer, token => begin? (.item [] :: outer) token
  | .afterItem items outer, .comma => some (.value (.item items :: outer))
  | .afterItem items outer, .closeBracket => some (put (.array items.reverse) outer)
  | .firstName outer, .closeBrace => some (put (.object []) outer)
  | .firstName outer, .string name => some (.colon [] name outer)
  | .name members outer, .string name => some (.colon members name outer)
  | .colon members name outer, .colon => some (.value (.member members name :: outer))
  | .afterMember members outer, .comma => some (.name members outer)
  | .afterMember members outer, .closeBrace => some (put (.object members.reverse) outer)
  | _, _ => none

/-- One token. -/
def step (state : State) (token : Token) : State :=
  match state with
  | .done document => .done { document with hasMore := true }
  | state => (next? state token).getD (.done (finish state))

/-- The document that tokens make up from a state on. -/
def ofTokensFrom (state : State) (tokens : List Token) : Document :=
  finish (tokens.foldl step state)

/-- The document of a text. -/
def ofChars (cs : List Char) : Document :=
  ofTokensFrom (.value []) (Token.scan cs)

/-- The document of a text. -/
def ofText (s : String) : Document := ofChars s.toList

end Document

end ChatRelay.Json

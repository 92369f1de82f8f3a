import ChatRelay.Json.Numeral
import ChatRelay.Json.Quoted

/-!
# JSON values

A value as it is written: numbers and strings keep their literals, an object its members in their
order, repeated names included. A text that breaks off or goes wrong still has a value: `fault`
stands where it stops being JSON, and nothing stands behind a fault. So a reader that goes through a
value in its order meets the faults of the text in their order.
-/

namespace ChatRelay

/-- A JSON value. -/
inductive Json where
  | null
  | bool (value : Bool)
  | number (literal : List Char)
  | string (literal : List Char)
  | array (items : List Json)
  | object (members : List (List Char × Json))
  | fault
  deriving Repr

namespace Json

/-! ## Building -/

/-- The string of a text. -/
def ofText (s : String) : Json := .string (Quoted.escape s.toList)

/-- The number of an integer. -/
def ofInt (n : Int) : Json := .number (Numeral.ofInt n)

/-- The object with given members. -/
def ofMembers (members : List (String × Json)) : Json :=
  .object (members.map fun (name, value) => (Quoted.escape name.toList, value))

/-- The array of the values of a list. -/
def ofList {α : Type} (f : α → Json) (values : List α) : Json := .array (values.map f)

/-- The value of an option; `null` for none. -/
def ofOption {α : Type} (f : α → Json) : Option α → Json
  | some a => f a
  | none => .null

/-- A member that is left out if there is no value. -/
def optionalMember {α : Type} (name : String) (f : α → Json) (value : Option α) :
    List (String × Json) :=
  (value.map fun a => (name, f a)).toList

/-! ## Soundness -/

mutual

/-- Whether a value that lies in at most `127 - room` arrays and objects can be read to its end: it
has no fault, all its strings stand for texts, its numbers fit double precision, and no part of it
lies in more than 127 arrays and objects. -/
def isSound (room : Nat) : Json → Bool
  | .null => true
  | .bool _ => true
  | .number literal => (Numeral.real? literal).isSome
  | .string literal => (Quoted.unescape literal).isSome
  | .array items => room ≠ 0 && areSound (room - 1) items
  | .object members => room ≠ 0 && membersSound (room - 1) members
  | .fault => false

/-- `isSound` for the items of an array. -/
def areSound (room : Nat) : List Json → Bool
  | [] => true
  | item :: items => isSound room item && areSound room items

/-- `isSound` for the members of an object. -/
def membersSound (room : Nat) : List (List Char × Json) → Bool
  | [] => true
  | (name, value) :: members =>
    (Quoted.unescape name).isSome && isSound room value && membersSound room members

end

mutual

/-- Whether a value has no fault in it. -/
def isComplete : Json → Bool
  | .array items => areComplete items
  | .object members => membersComplete members
  | .fault => false
  | _ => true

/-- `isComplete` for the items of an array. -/
def areComplete : List Json → Bool
  | [] => true
  | item :: items => isComplete item && areComplete items

/-- `isComplete` for the members of an object. -/
def membersComplete : List (List Char × Json) → Bool
  | [] => true
  | (_, value) :: members => isComplete value && membersComplete members

end

/-! ## Writing -/

/-- A string with its quotes. -/
def quoted (literal : List Char) : List Char := '"' :: literal ++ ['"']

mutual

/-- The text of a value, without white space. -/
def write : Json → List Char
  | .null => ['n', 'u', 'l', 'l']
  | .bool true => ['t', 'r', 'u', 'e']
  | .bool false => ['f', 'a', 'l', 's', 'e']
  | .number literal => literal
  | .string literal => quoted literal
  | .array items => '[' :: writeItems items ++ [']']
  | .object members => '{' :: writeMembers members ++ ['}']
  | .fault => []

/-- The items of an array, with commas between them. -/
def writeItems : List Json → List Char
  | [] => []
  | [item] => write item
  | item :: items => write item ++ ',' :: writeItems items

/-- The members of an object, with commas between them. -/
def writeMembers : List (List Char × Json) → List Char
  | [] => []
  | [(name, value)] => quoted name ++ ':' :: write value
  | (name, value) :: members => quoted name ++ ':' :: write value ++ ',' :: writeMembers members

end

/-- The text of a value. -/
def text (j : Json) : String := String.ofList j.write

end Json

end ChatRelay

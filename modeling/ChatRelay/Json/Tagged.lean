import ChatRelay.Json.Layout

/-!
# Tagged values

A value with a tag that tells what its other fields are. The tag is the member `type` of an object,
wherever it stands, or the first item of an array. The tag is read as soon as it comes; the rest is
read to its end before anything is made of it, so it has to be sound as a whole.
-/

namespace ChatRelay.Json

/-- A tag, with the object or array of what else there is. -/
structure Tagged where
  tag : String
  body : Json
  deriving Repr

namespace Tagged

/-- The name of the member that holds the tag. -/
def tagName : String := "type"

/-- How many more arrays and objects may lie around each other in the fields of a tagged value. -/
def room : Nat := 126

/-- The tag that a value is, if it is a known one. -/
def tagOf (known : List String) (j : Json) : Except DecodeError String :=
  match j.text? with
  | some tag => if tag ∈ known then .ok tag else .error .invalidData
  | none => .error j.refusal

/-- The tag and the other members of an object; `before` are the members that came before, last
first. -/
def ofMembers (known : List String) (tag : Option String) (before : List (List Char × Json)) :
    List (List Char × Json) → Except DecodeError Tagged
  | [] =>
    match tag with
    | some tag => .ok { tag, body := .object before.reverse }
    | none => .error .invalidData
  | (name, value) :: members =>
    match (Quoted.unescape name).map String.ofList with
    | none => .error .invalidJson
    | some text =>
      if text = tagName then
        if tag.isSome then .error .invalidData
        else
          match tagOf known value with
          | .ok tag => ofMembers known (some tag) before members
          | .error e => .error e
      else if value.isSound room then ofMembers known tag ((name, value) :: before) members
      else .error .invalidJson

/-- The tag and the other items of an array. -/
def ofItems (known : List String) : List Json → Except DecodeError Tagged
  | [] => .error .invalidData
  | tag :: items => do
    let tag ← tagOf known tag
    if areSound room items then .ok { tag, body := .array items } else .error .invalidJson

/-- The tag and the rest of a value. -/
def ofJson (known : List String) : Json → Except DecodeError Tagged
  | .object members => ofMembers known none [] members
  | .array items => ofItems known items
  | j => .error j.refusal

end Tagged

namespace Document

/-- Reads a document that is one tagged value. -/
def tagged {α : Type} (document : Document) (known : List String) (read : Tagged → Option α) :
    Except DecodeError α :=
  document.close do
    let tagged ← Tagged.ofJson known document.value
    match read tagged with
    | some a => .ok a
    | none => .error .invalidData

end Document

end ChatRelay.Json

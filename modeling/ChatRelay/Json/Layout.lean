import ChatRelay.Json.Document
import ChatRelay.Uuid

/-!
# Layouts

How records are written in JSON: as an object with a member for each field, in any order and among
members of other names, or as an array of the fields in their order.

A whole text that has to be one record is read in its order, and the first thing that is wrong
decides: it is no JSON, or it is JSON and no such record. Members of other names only have to be
well-formed.
-/

namespace ChatRelay

/-- Why a text is not read. -/
inductive DecodeError where
  /-- The text is no JSON. -/
  | invalidJson
  /-- The text is JSON, and what it says is not what was asked for. -/
  | invalidData
  deriving DecidableEq, Repr

/-- Words for an error. They stand for those of a JSON library, which say more, such as where in the
text the error is. -/
def DecodeError.message : DecodeError → String
  | invalidJson => "InvalidJson"
  | invalidData => "InvalidData"

namespace Json

/-! ## Values of one kind -/

/-- The text of a string. -/
def text? : Json → Option String
  | .string literal => (Quoted.unescape literal).map String.ofList
  | _ => none

/-- The value of a truth value. -/
def bool? : Json → Option Bool
  | .bool b => some b
  | _ => none

/-- The value of an integer that is at least `least` and at most `greatest`. -/
def integer? (least greatest : Int) : Json → Option Int
  | .number literal => do
    let n ← Numeral.integer? literal
    if least ≤ n ∧ n ≤ greatest then some n else none
  | _ => none

/-- An unsigned number of sixteen bits. -/
def uint16? (j : Json) : Option UInt16 :=
  (j.integer? 0 (UInt16.size - 1)).map fun n => n.toNat.toUInt16

/-- An unsigned number of sixty-four bits. -/
def uint64? (j : Json) : Option UInt64 :=
  (j.integer? 0 (UInt64.size - 1)).map fun n => n.toNat.toUInt64

/-- A signed number of sixty-four bits. -/
def int64? (j : Json) : Option Int64 :=
  (j.integer? Int64.minValue.toInt Int64.maxValue.toInt).map Int64.ofInt

/-- The identifier that a string writes. -/
def uuid? (j : Json) : Option Uuid := j.text?.bind Uuid.ofText?

/-- A value or `null`. -/
def nullable? {α : Type} (read : Json → Option α) : Json → Option (Option α)
  | .null => some none
  | j => some <$> read j

/-- An array of values. -/
def list? {α : Type} (read : Json → Option α) : Json → Option (List α)
  | .array items => items.mapM read
  | _ => none

/-- What is wrong with a value of the wrong kind. Arrays and objects are not looked into. -/
def refusal : Json → DecodeError
  | .fault => .invalidJson
  | .number literal => if (Numeral.real? literal).isSome then .invalidData else .invalidJson
  | .string literal => if (Quoted.unescape literal).isSome then .invalidData else .invalidJson
  | _ => .invalidData

/-! ## Fields -/

/-- The values of the fields that are there, by their names. -/
abbrev Slots := List (String × Json)

namespace Slots

/-- A field that has to be there. -/
def required {α : Type} (slots : Slots) (name : String) (read : Json → Option α) : Option α :=
  (slots.lookup name).bind read

/-- A field that may be missing or `null`. -/
def optional {α : Type} (slots : Slots) (name : String) (read : Json → Option α) :
    Option (Option α) :=
  match slots.lookup name with
  | some j => j.nullable? read
  | none => some none

end Slots

/-- The members of an object whose names are among the given ones. -/
def namedMembers (names : List String) (members : List (List Char × Json)) : Slots :=
  members.filterMap fun (name, value) => do
    let name := String.ofList (← Quoted.unescape name)
    if name ∈ names then some (name, value) else none

/-- The fields of an object, none of which may be there twice, or of an array, which has to hold the
first `needed` fields and may hold no more than all. -/
def slots? (names : List String) (needed : Nat) : Json → Option Slots
  | .object members =>
    let slots := namedMembers names members
    if (slots.map (·.1)).Nodup then some slots else none
  | .array items =>
    if needed ≤ items.length ∧ items.length ≤ names.length then some (names.zip items) else none
  | _ => none

/-! ## Records -/

/-- How a record is read: its fields in their order, with what their values may be, and the record
that fields make up. -/
structure Layout (α : Type) where
  fields : List (String × (Json → Bool))
  ofSlots : Slots → Option α

namespace Layout

variable {α : Type} (layout : Layout α)

/-- The names of the fields. -/
def names : List String := layout.fields.map (·.1)

/-- Reads a record that is part of a value. -/
def ofJson? (j : Json) : Option α :=
  (j.slots? layout.names layout.names.length).bind layout.ofSlots

/-- The first thing that is wrong with the members of an object, after members with the names
`seen`. -/
def memberError? (seen : List String) : List (List Char × Json) → Option DecodeError
  | [] => none
  | (name, value) :: members =>
    match (Quoted.unescape name).map String.ofList with
    | none => some .invalidJson
    | some name =>
      match layout.fields.lookup name with
      | none => if value.isComplete then memberError? seen members else some .invalidJson
      | some accepts =>
        if name ∈ seen then some .invalidData
        else if accepts value then memberError? (name :: seen) members
        else some value.refusal

/-- The first thing that is wrong with the items of an array. -/
def itemError? : List (String × (Json → Bool)) → List Json → Option DecodeError
  | [], [] => none
  | [], _ :: _ => some .invalidJson
  | _ :: _, [] => some .invalidData
  | (_, accepts) :: fields, item :: items =>
    if accepts item then itemError? fields items else some item.refusal

/-- The first thing that is wrong with a value. -/
def error? : Json → Option DecodeError
  | .object members => layout.memberError? [] members
  | .array items => itemError? layout.fields items
  | j => some j.refusal

end Layout

namespace Document

variable {α : Type}

/-- The outcome of reading the value of a document, behind which nothing may follow. -/
def close (document : Document) (outcome : Except DecodeError α) : Except DecodeError α := do
  let a ← outcome
  if document.hasMore then .error .invalidJson else .ok a

/-- Reads a document that is one record. -/
def record (document : Document) (layout : Layout α) : Except DecodeError α :=
  document.close <|
    match layout.error? document.value with
    | some e => .error e
    | none =>
      match layout.ofJson? document.value with
      | some a => .ok a
      | none => .error .invalidData

/-- Reads a document that is one value of a kind. -/
def scalar (document : Document) (read : Json → Option α) : Except DecodeError α :=
  document.close <|
    match read document.value with
    | some a => .ok a
    | none => .error document.value.refusal

end Document

end Json

end ChatRelay

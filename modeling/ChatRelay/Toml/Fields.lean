import ChatRelay.Toml

/-!
# Fields

How records with named fields are read from values. Each field has a default, so a field may be
missing, and names that are not known are ignored. An array gives the fields in their order, and
more items than fields are ignored. A date or time has no fields.
-/

namespace ChatRelay.Toml

/-- The fields that a value gives. -/
def fields? (names : List String) : Toml → Option Entries
  | .table _ entries => some entries
  | .inline entries => some entries
  | .array items => some (names.zip items)
  | .tables elements => some (names.zip (elements.map (.table .header)))
  | .dateTime => some []
  | _ => none

/-- A field, or its default. -/
def Entries.field {α : Type} (entries : Entries) (name : String) (default : α)
    (read : Toml → Option α) : Option α :=
  match entries.lookup name with
  | some value => read value
  | none => some default

/-- The text of a string. -/
def text? : Toml → Option String
  | .text s => some s
  | _ => none

/-- The value of a truth value. -/
def bool? : Toml → Option Bool
  | .bool b => some b
  | _ => none

/-- The value of an integer within bounds. -/
def integer? (least greatest : Int) : Toml → Option Int
  | .integer n => if least ≤ n ∧ n ≤ greatest then some n else none
  | _ => none

/-- An unsigned number of sixteen bits. -/
def uint16? (v : Toml) : Option UInt16 :=
  (v.integer? 0 (UInt16.size - 1)).map fun n => n.toNat.toUInt16

/-- An unsigned number of sixty-four bits. -/
def uint64? (v : Toml) : Option UInt64 :=
  (v.integer? 0 (UInt64.size - 1)).map fun n => n.toNat.toUInt64

/-- A signed number of sixty-four bits. -/
def int64? (v : Toml) : Option Int64 :=
  (v.integer? Int64.minValue.toInt Int64.maxValue.toInt).map Int64.ofInt

end ChatRelay.Toml

/-!
# TOML values

A document is a table of named values. A table can be brought about by its own header, by a header
of a table inside it, by a dotted key, or as a value within a line; this decides how it may be
extended later, and so each table remembers it.
-/

namespace ChatRelay

namespace Toml

/-- What brought a table about. -/
inductive Origin where
  /-- Its own header, or the document itself. -/
  | header
  /-- The header of a table inside it. -/
  | innerHeader
  /-- A dotted key. -/
  | dottedKey
  deriving DecidableEq, Repr

end Toml

/-- A value. -/
inductive Toml where
  | text (s : String)
  | integer (n : Int)
  | real
  | bool (b : Bool)
  | dateTime
  | array (items : List Toml)
  /-- A table that was written as a value. -/
  | inline (entries : List (String × Toml))
  | table (origin : Toml.Origin) (entries : List (String × Toml))
  /-- An array of tables that each have a header. -/
  | tables (elements : List (List (String × Toml)))
  deriving Repr, Inhabited

namespace Toml

/-- The entries of a table. -/
abbrev Entries := List (String × Toml)

namespace Entries

/-- Sets the value of a key. -/
def put (entries : Entries) (key : String) (value : Toml) : Entries :=
  (entries.filter (·.1 ≠ key)) ++ [(key, value)]

/-- Changes the table that a path leads to. A path may lead through tables of the origins
`passable`, and into the last element of an array of tables; a table that is missing is made with
the origin `missing`. The change gets the origin of the table that it applies to. -/
def modifyAt (missing : Origin) (passable : Origin → Bool)
    (change : Origin → Entries → Option Entries) (origin : Origin) :
    List String → Entries → Option Entries
  | [], entries => change origin entries
  | key :: path, entries =>
    match entries.lookup key with
    | none => do
      let inner ← modifyAt missing passable change missing path []
      return entries.put key (.table missing inner)
    | some (.table origin inner) =>
      if passable origin then do
        let inner ← modifyAt missing passable change origin path inner
        return entries.put key (.table origin inner)
      else none
    | some (.tables elements) => do
      let last ← modifyAt missing passable change .header path (← elements.getLast?)
      return entries.put key (.tables (elements.dropLast ++ [last]))
    | some _ => none

/-- Adds a value with a dotted key, of which `path` is all but the last part. A dotted key extends
no table that has a header. -/
def addDotted (entries : Entries) (path : List String) (key : String) (value : Toml) :
    Option Entries :=
  let add (origin : Origin) (table : Entries) : Option Entries :=
    if path ≠ [] ∧ origin ≠ .dottedKey then none
    else if (table.lookup key).isSome then none
    else some (table.put key value)
  modifyAt .dottedKey (· ≠ .header) add .header path entries

/-- Adds values with dotted keys. -/
def addAll (entries : Entries) (values : List (List String × String × Toml)) : Option Entries :=
  values.foldlM (fun entries (path, key, value) => entries.addDotted path key value) entries

/-- Adds a table with a header, of which `path` is all but the last part. A table that so far came
about only by the headers of tables inside it gets its own header; no other one does. -/
def addTable (entries : Entries) (path : List String) (key : String)
    (values : List (List String × String × Toml)) : Option Entries :=
  let add (_ : Origin) (parent : Entries) : Option Entries :=
    match parent.lookup key with
    | none => do return parent.put key (.table .header (← addAll [] values))
    | some (.table .innerHeader inner) => do
      return parent.put key (.table .header (← addAll inner values))
    | some _ => none
  modifyAt .innerHeader (fun _ => true) add .header path entries

/-- Adds an element to an array of tables. -/
def addElement (entries : Entries) (path : List String) (key : String)
    (values : List (List String × String × Toml)) : Option Entries :=
  let add (_ : Origin) (parent : Entries) : Option Entries := do
    let table ← addAll [] values
    match parent.lookup key with
    | none => return parent.put key (.tables [table])
    | some (.tables elements) => return parent.put key (.tables (elements ++ [table]))
    | some _ => none
  modifyAt .innerHeader (fun _ => true) add .header path entries

end Entries

end Toml

end ChatRelay

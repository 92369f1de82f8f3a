import ChatRelay.Proofs.Json.Spelling
import ChatRelay.Proofs.Json.Tagged
import ChatRelay.Proofs.Uuid

/-!
# Fields are read back

Values of a kind that are read back (`Codec`) may be the fields of an object, where they are found
under their names; fields without a value may be left out. An object whose first member is a known
tag is read as its tag with its other members (`Fields.tagged`).
-/

namespace ChatRelay.Json

/-- A kind of values that are read back from what is written of them, in which at most `depth`
arrays and objects lie around each other. -/
structure Codec {α : Type} (depth : Nat) (write : α → Json) (read : Json → Option α) : Prop where
  read_write : ∀ a, read (write a) = some a
  built : ∀ a, Built depth (write a)
  ne_null : ∀ a, write a ≠ .null

namespace Codec

variable {α : Type} {depth : Nat} {write : α → Json} {read : Json → Option α}

theorem text?_ofText (s : String) : (ofText s).text? = some s :=
  (SpellsText.string (Quoted.spells_escape s)).text?

/-! ## Kinds of values -/

theorem text : Codec 0 ofText text? where
  read_write := text?_ofText
  built := .text
  ne_null _ := nofun

theorem uuid : Codec 0 (fun id : Uuid => ofText id.text) uuid? where
  read_write id := by rw [uuid?, text?_ofText, Option.bind_some, Uuid.ofText?_text]
  built id := .text id.text
  ne_null _ := nofun

theorem bool : Codec 0 Json.bool bool? where
  read_write _ := rfl
  built := .bool
  ne_null _ := nofun

theorem integer {least greatest : Int} {toInt : α → Int} {ofInt' : Int → α}
    (hα : IsInteger least greatest toInt ofInt') :
    Codec 0 (fun a => ofInt (toInt a)) fun j => (j.integer? least greatest).map ofInt' where
  read_write a := (Spelled.integer hα).read_eq (.number (Numeral.writes_ofInt (toInt a)))
  built a := .integer (hα.le_toInt a) (hα.toInt_lt a)
  ne_null _ := nofun

theorem uint64 : Codec 0 (fun n : UInt64 => ofInt n.toNat) uint64? := integer .uint64

theorem uint16 : Codec 0 (fun n : UInt16 => ofInt n.toNat) uint16? := integer .uint16

theorem int64 : Codec 0 (fun n : Int64 => ofInt n.toInt) int64? := integer .int64

theorem list (h : Codec depth write read) : Codec (depth + 1) (ofList write) (list? read) where
  read_write values := by
    show (values.map write).mapM read = some values
    induction values with
    | nil => rfl
    | cons a values ih =>
      rw [List.map_cons, List.mapM_cons, h.read_write, Option.bind_eq_bind, Option.bind_some, ih]
      rfl
  built values := .array fun item hitem => by
    obtain ⟨a, -, rfl⟩ := List.mem_map.1 hitem
    exact h.built a
  ne_null _ := nofun

/-! ## Values of fields -/

variable {slots : Slots} {name : String} {a : α} {o : Option α}

theorem required (h : Codec depth write read) (hlookup : slots.lookup name = some (write a)) :
    slots.required name read = some a := by
  rw [Slots.required, hlookup, Option.bind_some, h.read_write]

theorem nullable?_write (h : Codec depth write read) (a : α) :
    (write a).nullable? read = some (some a) := by
  have hread := h.read_write a
  rw [nullable?, hread]
  · rfl
  · exact h.ne_null a

/-- A field that is left out if it has no value. -/
theorem optional (h : Codec depth write read) (hlookup : slots.lookup name = o.map write) :
    slots.optional name read = some o := by
  rw [Slots.optional, hlookup]
  cases o with
  | none => rfl
  | some a => exact h.nullable?_write a

/-- A field that is `null` if it has no value. -/
theorem nullable (h : Codec depth write read)
    (hlookup : slots.lookup name = some (ofOption write o)) :
    slots.optional name read = some o := by
  rw [Slots.optional, hlookup]
  cases o with
  | none => rfl
  | some a => exact h.nullable?_write a

end Codec

/-! ## Fields of an object -/

section Lookup

variable {α : Type} {name other : String} {write : α → Json} {o : Option α} {slots : Slots}

@[simp]
theorem lookup_cons_of_ne (hne : name ≠ other) (j : Json) :
    ((other, j) :: slots).lookup name = slots.lookup name := by
  rw [List.lookup_cons, beq_eq_false_iff_ne.2 hne]

@[simp]
theorem lookup_optionalMember_self : (optionalMember name write o).lookup name = o.map write := by
  cases o <;> simp [optionalMember]

@[simp]
theorem lookup_optionalMember_of_ne (hne : name ≠ other) :
    (optionalMember other write o).lookup name = none := by
  cases o <;> simp [optionalMember, hne]

@[simp]
theorem lookup_optionalMember_append : (optionalMember other write o ++ slots).lookup name =
    ((optionalMember other write o).lookup name).or (slots.lookup name) := List.lookup_append

end Lookup

/-- Fields with given names, some of which may be left out, and with values in which at most `depth`
arrays and objects lie around each other. -/
structure Fields (depth : Nat) (names : List String) (fields : List (String × Json)) : Prop where
  names : (fields.map (·.1)).Sublist names
  built : ∀ m ∈ fields, Built depth m.2

namespace Fields

variable {α : Type} {d depth : Nat} {names names' : List String}
variable {fields fields' : List (String × Json)} {write : α → Json} {read : Json → Option α}

theorem nil : Fields depth [] [] where
  names := .slnil
  built := by simp

theorem cons (name : String) {j : Json} (hj : Built depth j) (hfields : Fields depth names fields) :
    Fields depth (name :: names) ((name, j) :: fields) where
  names := hfields.names.cons_cons name
  built := List.forall_mem_cons.2 ⟨hj, hfields.built⟩

theorem required (name : String) (h : Codec d write read) (a : α)
    (hfields : Fields depth names fields) (hdepth : d ≤ depth := by decide) :
    Fields depth (name :: names) ((name, write a) :: fields) :=
  hfields.cons name ((h.built a).mono hdepth)

theorem nullable (name : String) (h : Codec d write read) (o : Option α)
    (hfields : Fields depth names fields) (hdepth : d ≤ depth := by decide) :
    Fields depth (name :: names) ((name, ofOption write o) :: fields) := by
  refine hfields.cons name ?_
  cases o with
  | none => exact .null
  | some a => exact (h.built a).mono hdepth

theorem optional (name : String) (h : Codec d write read) (o : Option α)
    (hdepth : d ≤ depth := by decide) : Fields depth [name] (optionalMember name write o) := by
  cases o with
  | none => exact ⟨List.nil_sublist _, by simp [optionalMember]⟩
  | some a => exact .required name h a .nil hdepth

theorem append (h : Fields depth names fields) (h' : Fields depth names' fields') :
    Fields depth (names ++ names') (fields ++ fields') where
  names := by
    rw [List.map_append]
    exact h.names.append h'.names
  built := List.forall_mem_append.2 ⟨h.built, h'.built⟩

theorem namedMembers_escaped (names : List String) (members : List (String × Json)) :
    namedMembers names (members.map fun (name, value) => (Quoted.escape name.toList, value)) =
      members.filter (·.1 ∈ names) := by
  induction members with
  | nil => rfl
  | cons m members ih =>
    have hname : name? (Quoted.escape m.1.toList, m.2) = some m.1 :=
      name?_of_spells (Quoted.spells_escape m.1)
    rw [List.map_cons, List.filter_cons, ← ih]
    by_cases hm : m.1 ∈ names
    · rw [if_pos (by simpa using hm), namedMembers_cons_of_mem hname hm]
    · rw [if_neg (by simpa using hm), namedMembers_cons_of_notMem hname hm]

/-- The fields that are there are found. -/
theorem slots? (h : Fields depth names fields) {needed : Nat}
    (hnodup : names.Nodup := by decide) :
    (ofMembers fields).slots? names needed = some fields := by
  have hall : ∀ m ∈ fields, decide (m.1 ∈ names) = true := fun m hm =>
    decide_eq_true (h.names.mem (List.mem_map_of_mem hm))
  rw [ofMembers, Json.slots?]
  simp only [namedMembers_escaped, List.filter_eq_self.2 hall, h.names.nodup hnodup, if_true]

end Fields

/-! ## Tagged values -/

namespace Tagged

variable {known : List String} {tag : String} {fields : List (String × Json)}

/-- A tag before fields is read with them. -/
theorem ofJson_ofMembers (hknown : tag ∈ known) (hnames : ∀ m ∈ fields, m.1 ≠ tagName)
    (hsound : ∀ m ∈ fields, m.2.isSound room = true) :
    ofJson known (.ofMembers ((tagName, .ofText tag) :: fields)) =
      .ok { tag, body := .ofMembers fields } := by
  refine ofJson_object_eq_ok_iff.2 ⟨[], _, _, rfl, name?_of_spells (Quoted.spells_escape tagName),
    tagOf_eq_ok_iff.2 ⟨Codec.text?_ofText tag, hknown⟩, fun m hm => ?_, rfl⟩
  obtain ⟨field, hfield, rfl⟩ := List.mem_map.1 hm
  exact ⟨⟨field.1, name?_of_spells (Quoted.spells_escape field.1), hnames field hfield⟩,
    hsound field hfield⟩

end Tagged

/-- **A tagged object is read back** if its fields are. -/
theorem Fields.tagged {α : Type} {names known : List String} {fields : List (String × Json)}
    {tag : String} {read : Tagged → Option α} {a : α} (h : Fields Tagged.room names fields)
    (hread : read { tag, body := .ofMembers fields } = some a)
    (htag : Tagged.tagName ∉ names := by decide) (hknown : tag ∈ known := by decide) :
    (Document.ofText (ofMembers ((Tagged.tagName, .ofText tag) :: fields)).text).tagged known read =
      .ok a := by
  have hnames : ∀ m ∈ fields, m.1 ≠ Tagged.tagName := fun m hm heq =>
    htag (heq ▸ h.names.mem (List.mem_map_of_mem hm))
  have hfields := h.cons Tagged.tagName (.text tag)
  rw [Document.ofText_text (.members hfields.built)]
  exact Document.tagged_eq_ok_iff.2
    ⟨_, Tagged.ofJson_ofMembers hknown hnames fun m hm => (h.built m hm).isSound, hread⟩

end ChatRelay.Json

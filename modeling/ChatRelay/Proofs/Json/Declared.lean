import ChatRelay.Proofs.Json.Spelling
import ChatRelay.Proofs.Json.Tagged

/-!
# Declared fields

What spells a record with declared fields and a tag (`SpellsRecord`): an object with the tag and the
fields in any order, among members of other names, or an array of the tag and the fields in their
order. A field that has no value may be `null` or missing, in an array at its end. Each of these
spellings is read, and the fields are found in it (`SpellsRecord.read`): by their names in an
object, by their places in an array.
-/

namespace ChatRelay.Json

/-! ## Declarations -/

/-- The declaration of a field. -/
structure Declaration where
  name : String
  isRequired : Bool
  /-- The least and the greatest value, if these are integers. -/
  range : Option (Int × Int)

/-- The names of declared fields. -/
def declaredNames (ds : List Declaration) : List String := ds.map (·.name)

/-- How many items an array of the fields has at least: the ones up to the last field that has to be
there. -/
def needed : List Declaration → Nat
  | [] => 0
  | d :: ds => if d.isRequired = true ∨ needed ds ≠ 0 then needed ds + 1 else 0

theorem needed_cons_le (d : Declaration) (ds : List Declaration) :
    needed (d :: ds) ≤ needed ds + 1 := by
  rw [needed]
  split <;> omega

theorem needed_eq_zero {ds : List Declaration} (h : ∀ d ∈ ds, d.isRequired = false) :
    needed ds = 0 := by
  induction ds with
  | nil => rfl
  | cons d ds ih =>
    obtain ⟨hd, hds⟩ := List.forall_mem_cons.1 h
    rw [needed, if_neg (by simp [hd, ih hds])]

/-- A declared field with the spellings of its value. -/
structure Filled extends Declaration where
  spells : Json → Prop

namespace Filled

/-- Whether a field may be left out: it is not required, and it has no value. -/
def MayBeMissing (field : Filled) : Prop := field.isRequired = false ∧ field.spells .null

end Filled

/-- The declarations of fields. -/
def declarations (fields : List Filled) : List Declaration := fields.map (·.toDeclaration)

/-- The names of fields. -/
def fieldNames (fields : List Filled) : List String := declaredNames (declarations fields)

theorem mem_fieldNames_iff {fields : List Filled} {name : String} :
    name ∈ fieldNames fields ↔ ∃ field ∈ fields, field.name = name := by
  simp [fieldNames, declaredNames, declarations]

/-! ## Spellings of a record -/

/-- The members of an object that are fields, in their order. -/
inductive Kept : List Filled → List (List Char × Json) → Prop
  | nil : Kept [] []
  | present {field : Filled} {fields : List Filled} {name : List Char} {value : Json}
      {members : List (List Char × Json)} (hname : Quoted.Spells name field.name)
      (hvalue : field.spells value) (h : Kept fields members) :
      Kept (field :: fields) ((name, value) :: members)
  | missing {field : Filled} {fields : List Filled} {members : List (List Char × Json)}
      (hfield : field.MayBeMissing) (h : Kept fields members) : Kept (field :: fields) members

/-- The items of an array that are fields. -/
inductive Row : List Filled → List Json → Prop
  | item {field : Filled} {fields : List Filled} {value : Json} {items : List Json}
      (hvalue : field.spells value) (h : Row fields items) : Row (field :: fields) (value :: items)
  | rest {fields : List Filled} (h : ∀ field ∈ fields, field.MayBeMissing) : Row fields []

/-- A member of an object that is neither the tag nor a field. -/
structure IsForeign (names : List String) (m : List Char × Json) : Prop where
  name : ∃ name, Quoted.Spells m.1 name ∧ name ≠ Tagged.tagName ∧ name ∉ names
  within : Within Tagged.room m.2

/-- The spellings of a record with a tag. -/
inductive SpellsRecord (tag : String) (fields : List Filled) : Json → Prop
  | object {name : List Char} {value : Json} {kept foreign members : List (List Char × Json)}
      (hname : Quoted.Spells name Tagged.tagName) (hvalue : SpellsText tag value)
      (hkept : Kept fields kept) (hforeign : ∀ m ∈ foreign, IsForeign (fieldNames fields) m)
      (hmembers : members.Perm ((name, value) :: (kept ++ foreign))) :
      SpellsRecord tag fields (.object members)
  | array {value : Json} {items : List Json} (hvalue : SpellsText tag value)
      (hrow : Row fields items) : SpellsRecord tag fields (.array (value :: items))

/-! ## Finding the fields -/

section Lookup

variable {slots : Slots} {name : String} {j : Json}

theorem mem_of_lookup (h : slots.lookup name = some j) : (name, j) ∈ slots := by
  obtain ⟨before, after, rfl, -⟩ := List.lookup_eq_some_iff.1 h
  exact List.mem_append_right before List.mem_cons_self

theorem lookup_eq_none (h : ∀ j, (name, j) ∉ slots) : slots.lookup name = none := by
  cases hlookup : slots.lookup name with
  | none => rfl
  | some j => exact absurd (mem_of_lookup hlookup) (h j)

theorem lookup_of_mem (hnodup : (slots.map (·.1)).Nodup) (h : (name, j) ∈ slots) :
    slots.lookup name = some j := by
  obtain ⟨before, after, rfl⟩ := List.append_of_mem h
  refine List.lookup_eq_some_iff.2 ⟨before, after, rfl, fun p hp => ?_⟩
  rw [List.map_append] at hnodup
  have hne : p.1 ≠ name :=
    (List.nodup_append.1 hnodup).2.2 p.1 (List.mem_map_of_mem hp) name List.mem_cons_self
  simpa using hne.symm

end Lookup

/-- Where the values of fields are found: a field is there once with a spelling of its value, or not
at all. -/
structure Held (fields : List Filled) (slots : Slots) : Prop where
  nodup : (slots.map (·.1)).Nodup
  field : ∀ field ∈ fields, (∃ j, (field.name, j) ∈ slots ∧ field.spells j) ∨
    field.MayBeMissing ∧ ∀ j, (field.name, j) ∉ slots

/-- Which of the fields are there, and their values. -/
inductive Filling : List Filled → Slots → Prop
  | nil : Filling [] []
  | present {field : Filled} {fields : List Filled} {value : Json} {slots : Slots}
      (hvalue : field.spells value) (h : Filling fields slots) :
      Filling (field :: fields) ((field.name, value) :: slots)
  | missing {field : Filled} {fields : List Filled} {slots : Slots}
      (hfield : field.MayBeMissing) (h : Filling fields slots) : Filling (field :: fields) slots

section Reading

variable {fields : List Filled} {names known : List String} {slots slots' : Slots}
variable {members : List (List Char × Json)} {items : List Json} {tag : String} {j : Json}

namespace Filling

theorem keys (h : Filling fields slots) : (slots.map (·.1)).Sublist (fieldNames fields) := by
  induction h with
  | nil => exact .slnil
  | present _ _ ih => exact ih.cons_cons _
  | missing _ _ ih => exact ih.cons _

/-- Fields of different names are found. -/
theorem held (h : Filling fields slots) (hnodup : (fieldNames fields).Nodup) :
    Held fields slots where
  nodup := h.keys.nodup hnodup
  field := by
    induction h with
    | nil => exact List.forall_mem_nil _
    | @present field fields value slots hvalue h ih =>
      obtain ⟨hfield, hnodup⟩ := List.nodup_cons.1 hnodup
      refine List.forall_mem_cons.2 ⟨.inl ⟨value, List.mem_cons_self, hvalue⟩, ?_⟩
      intro other hother
      obtain ⟨j, hj, hspells⟩ | ⟨hmissing, hnone⟩ := ih hnodup other hother
      · exact .inl ⟨j, List.mem_cons_of_mem _ hj, hspells⟩
      · refine .inr ⟨hmissing, fun j hj => ?_⟩
        rcases List.mem_cons.1 hj with heq | hj
        · exact hfield (mem_fieldNames_iff.2 ⟨other, hother, (Prod.mk.inj heq).1⟩)
        · exact hnone j hj
    | @missing field fields slots hfield h ih =>
      obtain ⟨hname, hnodup⟩ := List.nodup_cons.1 hnodup
      refine List.forall_mem_cons.2 ⟨.inr ⟨hfield, fun j hj => ?_⟩, ih hnodup⟩
      have hkey : field.name ∈ slots.map (·.1) := List.mem_map_of_mem hj
      exact hname (h.keys.mem hkey)

end Filling

theorem Held.perm (h : Held fields slots) (hslots : slots.Perm slots') : Held fields slots' where
  nodup := ((hslots.map _).nodup_iff).1 h.nodup
  field field hfield := by simpa only [hslots.mem_iff] using h.field field hfield

section Values

variable {α : Type} {depth : Nat} {spells : α → Json → Prop} {read : Json → Option α}
variable {name : String} {range : Option (Int × Int)}

/-- A field that has to be there is read. -/
theorem Held.required {i : Nat} {a : α} (h : Held fields slots) (hread : Spelled depth spells read)
    (hfield : fields[i]? = some ⟨⟨name, true, range⟩, spells a⟩) :
    slots.required name read = some a := by
  obtain ⟨j, hj, hspells⟩ | ⟨⟨hoptional, -⟩, -⟩ := h.field _ (List.mem_of_getElem? hfield)
  · rw [Slots.required, lookup_of_mem h.nodup hj, Option.bind_some, hread.read_eq hspells]
  · cases hoptional

/-- A field that may be missing is read. -/
theorem Held.optional {i : Nat} {o : Option α} (h : Held fields slots)
    (hread : Spelled depth spells read)
    (hfield : fields[i]? = some ⟨⟨name, false, range⟩, SpellsOption spells o⟩) :
    slots.optional name read = some o := by
  rw [Slots.optional]
  obtain ⟨j, hj, hspells⟩ | ⟨⟨-, hnull⟩, hnone⟩ := h.field _ (List.mem_of_getElem? hfield)
  · rw [lookup_of_mem h.nodup hj]
    cases o with
    | none =>
      obtain rfl : j = .null := hspells
      rfl
    | some a =>
      show j.nullable? read = _
      rw [nullable?, hread.read_eq hspells]
      · rfl
      · exact hread.ne_null hspells
  · rw [lookup_eq_none hnone]
    cases o with
    | none => rfl
    | some a => exact absurd rfl (hread.ne_null hnull)

end Values

/-- The members that are fields are found by their names. -/
theorem Kept.filling (h : Kept fields members) (hnames : ∀ name ∈ fieldNames fields, name ∈ names) :
    Filling fields (namedMembers names members) := by
  induction h with
  | nil => exact .nil
  | present hname hvalue _ ih =>
    obtain ⟨hmem, hnames⟩ := List.forall_mem_cons.1 hnames
    rw [namedMembers_cons_of_mem (name?_of_spells hname) hmem]
    exact .present hvalue (ih hnames)
  | missing hfield _ ih => exact .missing hfield (ih (List.forall_mem_cons.1 hnames).2)

/-- The items of an array are found by their places. -/
theorem Row.filling (h : Row fields items) : Filling fields ((fieldNames fields).zip items) := by
  induction h with
  | item hvalue _ ih => exact .present hvalue ih
  | @rest fields h =>
    rw [List.zip_nil_right]
    induction fields with
    | nil => exact .nil
    | cons field fields ih =>
      obtain ⟨hfield, h⟩ := List.forall_mem_cons.1 h
      exact .missing hfield (ih h)

theorem Row.length (h : Row fields items) :
    needed (declarations fields) ≤ items.length ∧ items.length ≤ (fieldNames fields).length := by
  induction h with
  | @item field fields value items hvalue h ih =>
    have hneeded := needed_cons_le field.toDeclaration (declarations fields)
    simp only [fieldNames, declaredNames, declarations, List.length_map, List.length_cons,
      List.map_cons] at ih hneeded ⊢
    omega
  | rest h =>
    refine ⟨?_, Nat.zero_le _⟩
    rw [needed_eq_zero]
    · exact Nat.le_refl 0
    · intro d hd
      obtain ⟨field, hfield, rfl⟩ := List.mem_map.1 hd
      exact (h field hfield).1

theorem Kept.exists_field (h : Kept fields members) :
    ∀ m ∈ members, ∃ field ∈ fields, Quoted.Spells m.1 field.name ∧ field.spells m.2 := by
  induction h with
  | nil => exact List.forall_mem_nil _
  | @present field _ _ _ _ hname hvalue _ ih =>
    refine List.forall_mem_cons.2 ⟨⟨field, List.mem_cons_self, hname, hvalue⟩, fun m hm => ?_⟩
    obtain ⟨other, hother, h⟩ := ih m hm
    exact ⟨other, List.mem_cons_of_mem _ hother, h⟩
  | missing _ _ ih =>
    intro m hm
    obtain ⟨other, hother, h⟩ := ih m hm
    exact ⟨other, List.mem_cons_of_mem _ hother, h⟩

theorem Row.exists_field (h : Row fields items) :
    ∀ item ∈ items, ∃ field ∈ fields, field.spells item := by
  induction h with
  | rest => exact List.forall_mem_nil _
  | @item field _ _ _ hvalue _ ih =>
    refine List.forall_mem_cons.2 ⟨⟨field, List.mem_cons_self, hvalue⟩, fun item hitem => ?_⟩
    obtain ⟨other, hother, h⟩ := ih item hitem
    exact ⟨other, List.mem_cons_of_mem _ hother, h⟩

/-- Fields of different names, none of which is that of the tag, with values within the limits. -/
structure IsRecord (fields : List Filled) : Prop where
  nodup : (fieldNames fields).Nodup
  tag : Tagged.tagName ∉ fieldNames fields
  within : ∀ field ∈ fields, KeepsWithin Tagged.room field.spells

section Object

variable {kept foreign : List (List Char × Json)}

/-- Fields and foreign members can be read to their ends. -/
theorem isBody_of_mem (hfields : IsRecord fields) (hkept : Kept fields kept)
    (hforeign : ∀ m ∈ foreign, IsForeign (fieldNames fields) m) :
    ∀ m ∈ kept ++ foreign, Tagged.IsBody m := by
  intro m hm
  rcases List.mem_append.1 hm with hm | hm
  · obtain ⟨field, hfield, hname, hspells⟩ := hkept.exists_field m hm
    have hne : field.name ≠ Tagged.tagName := fun heq =>
      hfields.tag (mem_fieldNames_iff.2 ⟨field, hfield, heq⟩)
    exact ⟨⟨field.name, name?_of_spells hname, hne⟩,
      (hfields.within field hfield _ hspells).isSound⟩
  · obtain ⟨⟨name, hname, hne, -⟩, hwithin⟩ := hforeign m hm
    exact ⟨⟨name, name?_of_spells hname, hne⟩, hwithin.isSound⟩

/-- No foreign member is taken for a field. -/
theorem namedMembers_foreign (hforeign : ∀ m ∈ foreign, IsForeign (fieldNames fields) m) :
    namedMembers (fieldNames fields) foreign = [] := by
  refine List.eq_nil_iff_forall_not_mem.2 fun (name, j) h => ?_
  obtain ⟨hmem, m, hm, hname, -⟩ := mem_namedMembers_iff.1 h
  obtain ⟨⟨name', hname', -, hnotMem⟩, -⟩ := hforeign m hm
  rw [name?_of_spells hname', Option.some.injEq] at hname
  exact hnotMem (hname ▸ hmem)

/-- Fields are found among foreign members, in any order. -/
theorem held_of_perm (hnodup : (fieldNames fields).Nodup) (hkept : Kept fields kept)
    (hforeign : ∀ m ∈ foreign, IsForeign (fieldNames fields) m)
    (hmembers : members.Perm (kept ++ foreign)) :
    Held fields (namedMembers (fieldNames fields) members) := by
  have hperm := (namedMembers_perm (fieldNames fields) hmembers).symm
  rw [namedMembers_append, namedMembers_foreign hforeign, List.append_nil] at hperm
  exact ((hkept.filling fun _ h => h).held hnodup).perm hperm

end Object

theorem SpellsText.tagOf (h : SpellsText tag j) (hknown : tag ∈ known) :
    Tagged.tagOf known j = .ok tag := Tagged.tagOf_eq_ok_iff.2 ⟨h.text?, hknown⟩

/-- **Every spelling of a record is read**, and the fields are found in it. -/
theorem SpellsRecord.read (h : SpellsRecord tag fields j) (hfields : IsRecord fields)
    (hknown : tag ∈ known) :
    ∃ body slots, Tagged.ofJson known j = .ok { tag, body } ∧
      body.slots? (fieldNames fields) (needed (declarations fields)) = some slots ∧
      Held fields slots := by
  cases h with
  | @object name value kept foreign members hname hvalue hkept hforeign hmembers =>
    -- the tag is taken out, wherever it is
    obtain ⟨pre, post, rfl⟩ := List.append_of_mem (hmembers.mem_iff.2 List.mem_cons_self)
    have hbody : (pre ++ post).Perm (kept ++ foreign) :=
      (List.perm_middle.symm.trans hmembers).cons_inv
    have hheld := held_of_perm hfields.nodup hkept hforeign hbody
    have hisBody : ∀ m ∈ pre ++ post, Tagged.IsBody m := fun m hm =>
      isBody_of_mem hfields hkept hforeign m (hbody.mem_iff.1 hm)
    have hread : Tagged.ofJson known (.object (pre ++ (name, value) :: post)) =
        .ok { tag, body := .object (pre ++ post) } :=
      Tagged.ofJson_object_eq_ok_iff.2 ⟨pre, (name, value), post, rfl, name?_of_spells hname,
        hvalue.tagOf hknown, hisBody, rfl⟩
    exact ⟨.object (pre ++ post), _, hread, if_pos hheld.nodup, hheld⟩
  | @array value items hvalue hrow =>
    have hsound : areSound Tagged.room items = true := by
      refine areSound_iff.2 fun item hitem => ?_
      obtain ⟨field, hfield, hspells⟩ := hrow.exists_field item hitem
      exact (hfields.within field hfield item hspells).isSound
    refine ⟨.array items, _, ?_, if_pos hrow.length, hrow.filling.held hfields.nodup⟩
    rw [Tagged.ofJson, Tagged.ofItems, hvalue.tagOf hknown]
    exact if_pos hsound

end Reading

end ChatRelay.Json

import ChatRelay.Proofs.Json.Declared

/-!
# Objects that are no records

An object is no record if it has the tag or a declared field twice, if the tag or a field that is
required is missing, or if the number in a field of integers is none or out of range (`Faulty`).
Whatever else there is in it, it is not read (`Faulty.rejected`).
-/

namespace ChatRelay.Json

/-- Whether the tag of an object is among its members. -/
def HasTag (tag : String) (members : List (List Char × Json)) : Prop :=
  ∃ m ∈ members, Quoted.Spells m.1 Tagged.tagName ∧ SpellsText tag m.2

/-- What makes members no record. -/
inductive Faulty (declared : String → List Declaration) (members : List (List Char × Json)) : Prop
  | tagTwice {m m' : List Char × Json} (h : [m, m'].Sublist members)
      (hm : Quoted.Spells m.1 Tagged.tagName) (hm' : Quoted.Spells m'.1 Tagged.tagName)
  | tagMissing (h : ∀ m ∈ members, ¬Quoted.Spells m.1 Tagged.tagName)
  | fieldTwice {tag : String} {d : Declaration} {m m' : List Char × Json}
      (htag : HasTag tag members) (hd : d ∈ declared tag) (h : [m, m'].Sublist members)
      (hm : Quoted.Spells m.1 d.name) (hm' : Quoted.Spells m'.1 d.name)
  | fieldMissing {tag : String} {d : Declaration} (htag : HasTag tag members)
      (hd : d ∈ declared tag) (hrequired : d.isRequired = true)
      (h : ∀ m ∈ members, ¬Quoted.Spells m.1 d.name)
  | noInteger {tag : String} {d : Declaration} {least greatest : Int} {m : List Char × Json}
      {literal : List Char} (htag : HasTag tag members) (hd : d ∈ declared tag)
      (hrange : d.range = some (least, greatest)) (hm : m ∈ members)
      (hname : Quoted.Spells m.1 d.name) (hvalue : m.2 = .number literal)
      (h : ∀ z, Numeral.Writes literal z → ¬(least ≤ z ∧ z ≤ greatest))

/-! ## What is checked -/

/-- What is checked of a field before a record is read. -/
structure Declaration.Accepts (d : Declaration) (slots : Slots) : Prop where
  present : d.isRequired = true → ∃ j, (d.name, j) ∈ slots
  inRange : ∀ least greatest, d.range = some (least, greatest) →
    ∀ j, slots.lookup d.name = some j → j = .null ∨ (j.integer? least greatest).isSome = true

/-- Whether values are read only within the range of a field. -/
def Checks {α : Type} (range : Option (Int × Int)) (read : Json → Option α) : Prop :=
  ∀ least greatest, range = some (least, greatest) →
    ∀ j, (read j).isSome = true → (j.integer? least greatest).isSome = true

section Checks

variable {α : Type} {slots : Slots} {name : String} {range : Option (Int × Int)} {isRequired : Bool}
variable {read : Json → Option α}

theorem checks_none : Checks none read := fun _ _ h => nomatch h

theorem checks_integer {least greatest : Int} (f : Int → α) :
    Checks (some (least, greatest)) fun j => (j.integer? least greatest).map f := by
  rintro _ _ ⟨⟩ j hj
  rwa [Option.isSome_map] at hj

/-- Only a number that writes an integer in the range is read as one. -/
theorem exists_writes_of_integer? {least greatest : Int} {literal : List Char}
    (hliteral : Numeral.Literal literal)
    (h : ((number literal).integer? least greatest).isSome = true) :
    ∃ z, Numeral.Writes literal z ∧ least ≤ z ∧ z ≤ greatest := by
  obtain ⟨z, hz⟩ := Option.isSome_iff_exists.1 h
  obtain ⟨z', hz', hz⟩ := Option.bind_eq_some_iff.1 hz
  split at hz
  next hbounds => exact ⟨z', Numeral.writes_of_integer? hliteral hz', hbounds⟩
  next => cases hz

theorem accepts_of_required {a : α} (hread : Checks range read)
    (h : slots.required name read = some a) :
    Declaration.Accepts ⟨name, isRequired, range⟩ slots := by
  obtain ⟨j, hlookup, hj⟩ := Option.bind_eq_some_iff.1 h
  refine ⟨fun _ => ⟨j, mem_of_lookup hlookup⟩, fun least greatest hrange j' hj' => ?_⟩
  obtain rfl := Option.some.inj (hlookup.symm.trans hj')
  exact .inr (hread least greatest hrange j (Option.isSome_of_eq_some hj))

theorem accepts_of_optional {o : Option α} (hread : Checks range read)
    (h : slots.optional name read = some o) : Declaration.Accepts ⟨name, false, range⟩ slots := by
  refine ⟨nofun, fun least greatest hrange j hj => ?_⟩
  rw [Slots.optional, hj] at h
  by_cases hnull : j = .null
  · exact .inl hnull
  · have h : j.nullable? read = some o := h
    rw [nullable?] at h
    · obtain ⟨a, ha, -⟩ := Option.map_eq_some_iff.1 h
      exact .inr (hread least greatest hrange j (Option.isSome_of_eq_some ha))
    · exact hnull

end Checks

/-- Whether all the fields are accepted in the body of a tagged value. -/
def Accepted (ds : List Declaration) (body : Json) : Prop :=
  ∃ count slots, body.slots? (declaredNames ds) count = some slots ∧ ∀ d ∈ ds, d.Accepts slots

/-! ## Rejection -/

section Rejection

variable {declared : String → List Declaration} {known : List String} {t : Tagged}
variable {members : List (List Char × Json)} {m : List Char × Json}

/-- What is so of the members of an object that is read. -/
structure Admitted (ds : List Declaration) (tag : String) (members : List (List Char × Json)) :
    Prop where
  one_tag : members.countP (fun m => name? m = some Tagged.tagName) = 1
  tag_eq : ∀ m ∈ members, name? m = some Tagged.tagName → m.2.text? = some tag
  nodup : ((namedMembers (declaredNames ds) members).map (·.1)).Nodup
  accepts : ∀ d ∈ ds, d.Accepts (namedMembers (declaredNames ds) members)

theorem admitted_of_ofJson (h : Tagged.ofJson known (.object members) = .ok t)
    (hbody : Accepted (declared t.tag) t.body)
    (hnames : Tagged.tagName ∉ declaredNames (declared t.tag)) :
    Admitted (declared t.tag) t.tag members := by
  obtain ⟨pre, m, post, rfl, hname, htag, hisBody, hvalue⟩ := Tagged.ofJson_object_eq_ok_iff.1 h
  obtain ⟨count, slots, hslots, haccepts⟩ := hbody
  -- the tag is no field, so the fields are the same with it and without it
  have hnamed : namedMembers (declaredNames (declared t.tag)) (pre ++ m :: post) =
      namedMembers (declaredNames (declared t.tag)) (pre ++ post) := by
    rw [namedMembers_append, namedMembers_cons_of_notMem hname hnames, ← namedMembers_append]
  have hother : ∀ m' ∈ pre ++ post, ¬name? m' = some Tagged.tagName := by
    intro m' hm' heq
    obtain ⟨⟨name, hname, hne⟩, -⟩ := hisBody m' hm'
    exact hne (Option.some.inj (hname.symm.trans heq))
  rw [hvalue, slots?] at hslots
  split at hslots
  next hnodup =>
    obtain rfl := Option.some.inj hslots
    refine ⟨?_, fun m' hm' hname' => ?_, by rwa [hnamed], by rwa [hnamed]⟩
    · have hzero : (pre ++ post).countP (fun m => name? m = some Tagged.tagName) = 0 :=
        List.countP_eq_zero.2 fun m' hm' => by simpa using hother m' hm'
      rw [List.perm_middle.countP_eq, List.countP_cons_of_pos (by simpa using hname), hzero]
    · rcases List.mem_cons.1 (List.perm_middle.mem_iff.1 hm') with rfl | hm'
      · exact (Tagged.tagOf_eq_ok_iff.1 htag).1
      · exact absurd hname' (hother m' hm')
  next => cases hslots

theorem Admitted.eq_of_hasTag {ds : List Declaration} {tag tag' : String}
    (h : Admitted ds tag members) (htag : HasTag tag' members) : tag' = tag := by
  obtain ⟨m, hm, hname, hvalue⟩ := htag
  exact Option.some.inj (hvalue.text?.symm.trans (h.tag_eq m hm (name?_of_spells hname)))

/-- Of members with literals for their names, none that are read are faulty. -/
theorem Admitted.not_faulty {tag : String} (h : Admitted (declared tag) tag members)
    (hmembers : ∀ m ∈ members, (∃ ps, Quoted.Literal m.1 ps) ∧ ∃ text, Written m.2 text) :
    ¬Faulty declared members := by
  have hspells : ∀ m ∈ members, ∀ name, name? m = some name → Quoted.Spells m.1 name := by
    intro m hm name hname
    obtain ⟨⟨ps, hliteral⟩, -⟩ := hmembers m hm
    exact spells_of_name? hliteral hname
  have hmem : ∀ d ∈ declared tag, d.name ∈ declaredNames (declared tag) := fun d =>
    List.mem_map_of_mem
  intro hfaulty
  cases hfaulty with
  | @tagTwice m m' hsub hm hm' =>
    have hcount := hsub.countP_le (p := fun m => name? m = some Tagged.tagName)
    rw [h.one_tag] at hcount
    simp [name?_of_spells hm, name?_of_spells hm'] at hcount
  | tagMissing hnone =>
    obtain ⟨m, hm, hname⟩ := List.countP_pos_iff.1 (h.one_tag ▸ Nat.one_pos)
    exact hnone m hm (hspells m hm _ (by simpa using hname))
  | @fieldTwice tag' d m m' htag hd hsub hm hm' =>
    obtain rfl := h.eq_of_hasTag htag
    have hnamed := (namedMembers_sublist (declaredNames (declared tag')) hsub).map (·.1)
    rw [namedMembers_cons_of_mem (name?_of_spells hm) (hmem d hd),
      namedMembers_cons_of_mem (name?_of_spells hm') (hmem d hd)] at hnamed
    exact absurd (hnamed.nodup h.nodup) (by simp)
  | @fieldMissing tag' d htag hd hrequired hnone =>
    obtain rfl := h.eq_of_hasTag htag
    obtain ⟨j, hj⟩ := (h.accepts d hd).present hrequired
    obtain ⟨-, m, hm, hname, -⟩ := mem_namedMembers_iff.1 hj
    exact hnone m hm (hspells m hm _ hname)
  | @noInteger tag' d least greatest m literal htag hd hrange hm hname hvalue hnone =>
    obtain rfl := h.eq_of_hasTag htag
    have hj := mem_namedMembers_iff.2 ⟨hmem d hd, m, hm, name?_of_spells hname, rfl⟩
    have hread := (h.accepts d hd).inRange least greatest hrange m.2 (lookup_of_mem h.nodup hj)
    obtain ⟨-, text, hwritten⟩ := hmembers m hm
    rw [hvalue] at hread hwritten
    obtain hnull | hread := hread
    · cases hnull
    · obtain ⟨z, hz, hbounds⟩ := exists_writes_of_integer? hwritten.isLiteral hread
      exact hnone z hz hbounds

/-- **A faulty object is not read**, however it is written. -/
theorem Faulty.rejected {α : Type} {read : Tagged → Option α} {text : String}
    (h : Faulty declared members) (hwritten : Written (.object members) text.toList)
    (hread : ∀ t a, read t = some a → Accepted (declared t.tag) t.body)
    (hnames : ∀ tag, Tagged.tagName ∉ declaredNames (declared tag)) :
    ∃ e, (Document.ofText text).tagged known read = .error e := by
  rw [Document.ofText, Document.ofChars_written hwritten]
  cases hresult : Document.tagged { value := .object members, hasMore := false } known read with
  | error e => exact ⟨e, rfl⟩
  | ok a =>
    obtain ⟨t, ht, ha⟩ := Document.tagged_eq_ok_iff.1 hresult
    have hadmitted := admitted_of_ofJson ht (hread t a ha) (hnames t.tag)
    exact absurd h (hadmitted.not_faulty hwritten.forall_members)

end Rejection

end ChatRelay.Json

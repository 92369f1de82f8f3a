import ChatRelay.Json.Tagged
import ChatRelay.Proofs.Json.Document

/-!
# Where the tag is

An object is a tagged value if exactly one of its members is a tag, a known one, and all the other
members can be read to their ends. These are its body, in their order
(`Tagged.ofJson_object_eq_ok_iff`). The named members of an object are told by the names that its
members spell, so they are the same in every order (`namedMembers_perm`).
-/

namespace ChatRelay.Json

/-- The text that the name of a member stands for. -/
def name? (m : List Char × Json) : Option String := (Quoted.unescape m.1).map String.ofList

variable {m : List Char × Json} {members members' : List (List Char × Json)} {name : String}

theorem name?_of_spells (h : Quoted.Spells m.1 name) : name? m = some name := by
  rw [name?, h.unescape, Option.map_some, String.ofList_toList]

theorem spells_of_name? {ps : List Quoted.Piece} (hliteral : Quoted.Literal m.1 ps)
    (h : name? m = some name) : Quoted.Spells m.1 name := by
  obtain ⟨cs, hcs, rfl⟩ := Option.map_eq_some_iff.1 h
  exact Quoted.spells_of_unescape hliteral hcs

/-! ## Named members -/

section Named

variable {names : List String} {j : Json}

/-- A member under its name, if that is among the given ones. -/
def namedMember? (names : List String) (m : List Char × Json) : Option (String × Json) :=
  ((name? m).filter (· ∈ names)).map fun name => (name, m.2)

theorem namedMembers_eq (names : List String) (members : List (List Char × Json)) :
    namedMembers names members = members.filterMap (namedMember? names) := by
  refine congrArg (List.filterMap · members) (funext fun m => ?_)
  cases hname : Quoted.unescape m.1 with
  | none => simp [namedMember?, name?, hname]
  | some cs => by_cases h : String.ofList cs ∈ names <;> simp [namedMember?, name?, hname, h]

theorem namedMember?_eq_some_iff {field : String × Json} :
    namedMember? names m = some field ↔
      name? m = some field.1 ∧ field.1 ∈ names ∧ m.2 = field.2 := by
  simp only [namedMember?, Option.map_eq_some_iff, Option.filter_eq_some_iff, decide_eq_true_eq]
  constructor
  · rintro ⟨name, ⟨hname, hmem⟩, rfl⟩
    exact ⟨hname, hmem, rfl⟩
  · rintro ⟨hname, hmem, hvalue⟩
    exact ⟨field.1, ⟨hname, hmem⟩, Prod.ext rfl hvalue⟩

theorem mem_namedMembers_iff : (name, j) ∈ namedMembers names members ↔
    name ∈ names ∧ ∃ m ∈ members, name? m = some name ∧ m.2 = j := by
  simp only [namedMembers_eq, List.mem_filterMap, namedMember?_eq_some_iff]
  constructor
  · rintro ⟨m, hm, hname, hmem, hvalue⟩
    exact ⟨hmem, m, hm, hname, hvalue⟩
  · rintro ⟨hmem, m, hm, hname, hvalue⟩
    exact ⟨m, hm, hname, hmem, hvalue⟩

theorem namedMembers_append (members members' : List (List Char × Json)) :
    namedMembers names (members ++ members') =
      namedMembers names members ++ namedMembers names members' := List.filterMap_append

theorem namedMembers_perm (names : List String) (h : members.Perm members') :
    (namedMembers names members).Perm (namedMembers names members') := h.filterMap _

theorem namedMembers_sublist (names : List String) (h : members.Sublist members') :
    (namedMembers names members).Sublist (namedMembers names members') := h.filterMap _

theorem namedMembers_cons_of_mem (hm : name? m = some name) (hname : name ∈ names) :
    namedMembers names (m :: members) = (name, m.2) :: namedMembers names members := by
  have hsome : namedMember? names m = some (name, m.2) :=
    namedMember?_eq_some_iff.2 ⟨hm, hname, rfl⟩
  rw [namedMembers_eq, namedMembers_eq, List.filterMap_cons_some hsome]

/-- A member of another name is passed over. -/
theorem namedMembers_cons_of_notMem (hm : name? m = some name) (hname : name ∉ names) :
    namedMembers names (m :: members) = namedMembers names members := by
  have hnone : namedMember? names m = none := by simp [namedMember?, hm, hname]
  rw [namedMembers_eq, namedMembers_eq, List.filterMap_cons_none hnone]

end Named

/-! ## Tagged objects -/

namespace Tagged

variable {known : List String} {tag : String} {t : Tagged} {before : List (List Char × Json)}

/-- Whether a member of a tagged object is one of its fields, or of the members besides. -/
structure IsBody (m : List Char × Json) : Prop where
  name : ∃ name, name? m = some name ∧ name ≠ tagName
  isSound : m.2.isSound room = true

theorem ofMembers_cons_of_isBody (tag : Option String) (hm : IsBody m) :
    ofMembers known tag before (m :: members) = ofMembers known tag (m :: before) members := by
  obtain ⟨⟨name, hname, hne⟩, hsound⟩ := hm
  obtain ⟨cs, hcs, rfl⟩ := Option.map_eq_some_iff.1 hname
  rw [ofMembers, hcs]
  simp only [Option.map_some, if_neg hne, hsound, if_true]

/-- What a member is that is read: a tag, if there has been none, or a part of the body. -/
theorem cases_of_ofMembers_cons {tag : Option String}
    (h : ofMembers known tag before (m :: members) = .ok t) :
    (tag = none ∧ name? m = some tagName ∧ ∃ tag', tagOf known m.2 = .ok tag' ∧
      ofMembers known (some tag') before members = .ok t) ∨
    IsBody m ∧ ofMembers known tag (m :: before) members = .ok t := by
  rw [ofMembers, ← name?] at h
  cases hname : name? m with
  | none =>
    rw [hname] at h
    cases h
  | some name =>
    simp only [hname] at h
    split at h
    next heq =>
      left
      split at h
      next => cases h
      next hnone =>
        split at h
        next tag' htag' =>
          exact ⟨by simpa using hnone, by rw [heq], tag', htag', h⟩
        next => cases h
    next hne =>
      right
      split at h
      next hsound => exact ⟨⟨⟨name, hname, hne⟩, hsound⟩, h⟩
      next => cases h

/-- After the tag, everything is the body. -/
theorem ofMembers_some_iff : ofMembers known (some tag) before members = .ok t ↔
    (∀ m ∈ members, IsBody m) ∧ t = { tag, body := .object (before.reverse ++ members) } := by
  induction members generalizing before with
  | nil => simp [ofMembers, eq_comm]
  | cons m members ih =>
    have hmove : (m :: before).reverse ++ members = before.reverse ++ m :: members := by simp
    rw [List.forall_mem_cons]
    constructor
    · intro h
      obtain ⟨hnone, -⟩ | ⟨hm, h⟩ := cases_of_ofMembers_cons h
      · cases hnone
      · obtain ⟨hmembers, rfl⟩ := ih.1 h
        exact ⟨⟨hm, hmembers⟩, by rw [hmove]⟩
    · rintro ⟨⟨hm, hmembers⟩, rfl⟩
      rw [ofMembers_cons_of_isBody _ hm]
      exact ih.2 ⟨hmembers, by rw [hmove]⟩

theorem ofMembers_none_iff : ofMembers known none before members = .ok t ↔
    ∃ pre m post, members = pre ++ m :: post ∧ name? m = some tagName ∧
      tagOf known m.2 = .ok t.tag ∧ (∀ m' ∈ pre ++ post, IsBody m') ∧
      t.body = .object (before.reverse ++ (pre ++ post)) := by
  induction members generalizing before with
  | nil => simp [ofMembers]
  | cons m members ih =>
    constructor
    · intro h
      obtain ⟨-, hname, tag, htag, h⟩ | ⟨hm, h⟩ := cases_of_ofMembers_cons h
      · obtain ⟨hmembers, rfl⟩ := ofMembers_some_iff.1 h
        exact ⟨[], m, members, rfl, hname, htag, hmembers, rfl⟩
      · obtain ⟨pre, m', post, rfl, hname, htag, hbody, hvalue⟩ := ih.1 h
        exact ⟨m :: pre, m', post, rfl, hname, htag, List.forall_mem_cons.2 ⟨hm, hbody⟩,
          by simpa using hvalue⟩
    · rintro ⟨pre, m', post, hsplit, hname, htag, hbody, hvalue⟩
      cases pre with
      | nil =>
        obtain ⟨rfl, rfl⟩ := List.cons.inj hsplit
        obtain ⟨cs, hcs, heq⟩ := Option.map_eq_some_iff.1 hname
        rw [ofMembers, hcs]
        simp only [Option.map_some, heq, if_true, Option.isSome_none, Bool.false_eq_true, if_false,
          htag]
        exact ofMembers_some_iff.2 ⟨hbody, congrArg (Tagged.mk t.tag) hvalue⟩
      | cons m'' pre =>
        obtain ⟨rfl, rfl⟩ := List.cons.inj hsplit
        obtain ⟨hm, hbody⟩ := List.forall_mem_cons.1 hbody
        rw [ofMembers_cons_of_isBody _ hm]
        exact ih.2 ⟨pre, m', post, rfl, hname, htag, hbody, by simpa using hvalue⟩

/-- **One member of a tagged object is the tag, and the others are the body.** -/
theorem ofJson_object_eq_ok_iff : ofJson known (.object members) = .ok t ↔
    ∃ pre m post, members = pre ++ m :: post ∧ name? m = some tagName ∧
      tagOf known m.2 = .ok t.tag ∧ (∀ m' ∈ pre ++ post, IsBody m') ∧
      t.body = .object (pre ++ post) := ofMembers_none_iff

theorem tagOf_eq_ok_iff {j : Json} :
    tagOf known j = .ok tag ↔ j.text? = some tag ∧ tag ∈ known := by
  rw [tagOf]
  cases j.text? with
  | none => simp
  | some tag' =>
    by_cases h : tag' ∈ known
    · simp only [if_pos h, Except.ok.injEq, Option.some.injEq]
      exact ⟨fun heq => ⟨heq, heq ▸ h⟩, And.left⟩
    · simp only [if_neg h, Option.some.injEq]
      exact ⟨fun heq => (nomatch heq), fun ⟨heq, hmem⟩ => absurd (heq ▸ hmem) h⟩

end Tagged

/-- A document of one value is a tagged value if that is one. -/
theorem Document.tagged_eq_ok_iff {α : Type} {j : Json} {known : List String}
    {read : Tagged → Option α} {a : α} :
    Document.tagged { value := j, hasMore := false } known read = .ok a ↔
      ∃ t, Tagged.ofJson known j = .ok t ∧ read t = some a := by
  rw [Document.tagged, Document.close]
  cases Tagged.ofJson known j with
  | error e => simp [bind, Except.bind]
  | ok t => cases hread : read t <;> simp [bind, Except.bind, hread]

end ChatRelay.Json

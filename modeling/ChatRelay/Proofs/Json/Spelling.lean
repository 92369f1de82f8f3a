import ChatRelay.Json.Layout
import ChatRelay.Proofs.Json.Document

/-!
# How values are spelled

A text can be spelled by many strings, an integer by its numeral, an identifier by every text that
is read as it, and a list by an array of spellings. Each of these kinds of values is read from all
of its spellings (`Spelled`), which keep within the limits of what is read at all.
-/

namespace ChatRelay.Json

/-! ## Spellings -/

/-- The strings that spell a text. -/
inductive SpellsText (s : String) : Json → Prop
  | string {literal : List Char} (h : Quoted.Spells literal s) : SpellsText s (.string literal)

/-- The numbers that write an integer. -/
inductive SpellsInteger (z : Int) : Json → Prop
  | number {literal : List Char} (h : Numeral.Writes literal z) : SpellsInteger z (.number literal)

/-- The strings that spell an identifier. -/
def SpellsUuid (id : Uuid) (j : Json) : Prop := ∃ s, SpellsText s j ∧ Uuid.ofText? s = some id

/-- The arrays that spell a list. -/
inductive SpellsList {α : Type} (spells : α → Json → Prop) (values : List α) : Json → Prop
  | array {items : List Json} (h : List.Forall₂ spells values items) :
      SpellsList spells values (.array items)

/-- The spellings of a value that there may not be. -/
def SpellsOption {α : Type} (spells : α → Json → Prop) : Option α → Json → Prop
  | some a, j => spells a j
  | none, j => j = .null

theorem SpellsText.text? {s : String} {j : Json} (h : SpellsText s j) : j.text? = some s := by
  obtain ⟨h⟩ := h
  rw [Json.text?, h.unescape, Option.map_some, String.ofList_toList]

/-! ## Kinds of values -/

/-- A kind of values that are read from their spellings, in which at most `depth` arrays and objects
lie around each other. -/
structure Spelled {α : Type} (depth : Nat) (spells : α → Json → Prop) (read : Json → Option α) :
    Prop where
  read_eq : ∀ {a j}, spells a j → read j = some a
  within : ∀ {a j room}, spells a j → depth ≤ room → Within room j
  ne_null : ∀ {a j}, spells a j → j ≠ .null

/-- A type of integers that lie between two bounds of sixty-four bits and are told by their
values. -/
structure IsInteger {α : Type} (least greatest : Int) (toInt : α → Int) (ofInt' : Int → α) :
    Prop where
  le_least : Int64.minValue.toInt ≤ least
  greatest_lt : greatest < UInt64.size
  bounds : ∀ a, least ≤ toInt a ∧ toInt a ≤ greatest
  value : ∀ a, ofInt' (toInt a) = a

namespace IsInteger

variable {α : Type} {least greatest : Int} {toInt : α → Int} {ofInt' : Int → α}

theorem le_toInt (h : IsInteger least greatest toInt ofInt') (a : α) :
    Int64.minValue.toInt ≤ toInt a := Int.le_trans h.le_least (h.bounds a).1

theorem toInt_lt (h : IsInteger least greatest toInt ofInt') (a : α) : toInt a < UInt64.size :=
  Int.lt_of_le_of_lt (h.bounds a).2 h.greatest_lt

theorem uint64 : IsInteger 0 (UInt64.size - 1) (fun n : UInt64 => n.toNat)
    fun n => n.toNat.toUInt64 where
  le_least := by decide
  greatest_lt := by decide
  bounds n := ⟨Int.natCast_nonneg _, Int.le_sub_one_of_lt (Int.ofNat_lt.2 n.toNat_lt_size)⟩
  value n := by simp

theorem uint16 : IsInteger 0 (UInt16.size - 1) (fun n : UInt16 => n.toNat)
    fun n => n.toNat.toUInt16 where
  le_least := by decide
  greatest_lt := by decide
  bounds n := ⟨Int.natCast_nonneg _, Int.le_sub_one_of_lt (Int.ofNat_lt.2 n.toNat_lt_size)⟩
  value n := by simp

theorem int64 : IsInteger Int64.minValue.toInt Int64.maxValue.toInt Int64.toInt Int64.ofInt where
  le_least := by decide
  greatest_lt := by decide
  bounds n := ⟨n.minValue_le_toInt, n.toInt_le⟩
  value := Int64.ofInt_toInt

end IsInteger

/-- Whether all spellings are within limits. -/
def KeepsWithin (room : Nat) (spells : Json → Prop) : Prop := ∀ j, spells j → Within room j

namespace Spelled

variable {α : Type} {depth : Nat} {spells : α → Json → Prop} {read : Json → Option α}

theorem keepsWithin (h : Spelled depth spells read) (a : α) {room : Nat}
    (hdepth : depth ≤ room := by decide) : KeepsWithin room (spells a) :=
  fun _ hj => h.within hj hdepth

theorem keepsWithin_option (h : Spelled depth spells read) (o : Option α) {room : Nat}
    (hdepth : depth ≤ room := by decide) : KeepsWithin room (SpellsOption spells o) := by
  intro j hj
  cases o with
  | none =>
    obtain rfl : j = .null := hj
    exact .null
  | some a => exact h.within hj hdepth

theorem text : Spelled 0 SpellsText text? where
  read_eq := SpellsText.text?
  within h _ := by
    obtain ⟨h⟩ := h
    exact .string h
  ne_null h := by
    obtain ⟨h⟩ := h
    exact nofun

theorem uuid : Spelled 0 SpellsUuid uuid? where
  read_eq h := by
    obtain ⟨s, htext, hid⟩ := h
    rw [uuid?, htext.text?, Option.bind_some, hid]
  within h hroom := by
    obtain ⟨s, htext, -⟩ := h
    exact text.within htext hroom
  ne_null h := by
    obtain ⟨s, htext, -⟩ := h
    exact text.ne_null htext

theorem integer {least greatest : Int} {toInt : α → Int} {ofInt' : Int → α}
    (hα : IsInteger least greatest toInt ofInt') :
    Spelled 0 (fun a => SpellsInteger (toInt a)) fun j =>
      (j.integer? least greatest).map ofInt' where
  read_eq {a j} h := by
    obtain ⟨h⟩ := h
    rw [Json.integer?, Numeral.integer?_of_writes h (hα.le_toInt a) (hα.toInt_lt a),
      Option.bind_eq_bind, Option.bind_some, if_pos (hα.bounds a), Option.map_some, hα.value]
  within {a j room} h _ := by
    obtain ⟨h⟩ := h
    exact .number (Numeral.isSome_real?_of_writes h (hα.le_toInt a) (hα.toInt_lt a))
  ne_null h := by
    obtain ⟨h⟩ := h
    exact nofun

theorem uint64 : Spelled 0 (fun n : UInt64 => SpellsInteger n.toNat) uint64? := integer .uint64

theorem int64 : Spelled 0 (fun n : Int64 => SpellsInteger n.toInt) int64? := integer .int64

theorem list (h : Spelled depth spells read) :
    Spelled (depth + 1) (SpellsList spells) (list? read) where
  read_eq hlist := by
    obtain ⟨hitems⟩ := hlist
    show List.mapM read _ = some _
    induction hitems with
    | nil => rfl
    | cons hitem _ ih =>
      rw [List.mapM_cons, h.read_eq hitem, Option.bind_eq_bind, Option.bind_some, ih]
      rfl
  within {values j room} hlist hroom := by
    obtain ⟨hitems⟩ := hlist
    obtain ⟨room, rfl⟩ := Nat.exists_eq_add_one_of_ne_zero (Nat.ne_zero_of_lt hroom)
    refine .array ?_
    induction hitems with
    | nil => exact List.forall_mem_nil _
    | cons hitem _ ih =>
      exact List.forall_mem_cons.2 ⟨h.within hitem (Nat.le_of_succ_le_succ hroom), ih⟩
  ne_null hlist := by
    obtain ⟨hitems⟩ := hlist
    exact nofun

end Spelled

end ChatRelay.Json

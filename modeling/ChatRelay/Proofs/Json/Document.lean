import ChatRelay.Json.Document
import ChatRelay.Proofs.Json.Token

/-!
# Documents are read

The grammar of values (`Written`): a value can be written with white space around every part of it,
in as many ways as its members and items can be. The document of such a text is the value and
nothing else (`Document.ofChars_written`). Reading goes through the text once: whatever is open
around a value, the tokens of its text put it into its place.

A value within limits of nesting and of numbers (`Within`) is sound (`Within.isSound`). What is
built from texts, truth values and integers of sixty-four bits (`Built`) is written by `Json.text`
and within the limits, so it is read back (`Document.ofText_text`).
-/

namespace ChatRelay.Json

open Token

/-! ## The grammar -/

/-- A member of an object as it is written: its name and its value, the white space before and after
the name, and the text of the value. -/
structure MemberText where
  before : List Char
  name : List Char
  between : List Char
  value : Json
  text : List Char

namespace MemberText

/-- The name and the value. -/
def member (m : MemberText) : List Char × Json := (m.name, m.value)

/-- What is written. -/
def chars (m : MemberText) : List Char :=
  m.before ++ (quoted m.name ++ (m.between ++ ':' :: m.text))

/-- Whether there is a literal between the quotes, and white space around them. -/
structure IsLexed (m : MemberText) : Prop where
  before : Blank m.before
  name : ∃ ps, Quoted.Literal m.name ps
  between : Blank m.between

end MemberText

/-- The texts of a value. -/
inductive Written : Json → List Char → Prop
  | null : Written .null ['n', 'u', 'l', 'l']
  | bool (b : Bool) : Written (.bool b) (toString b).toList
  | number {literal : List Char} (h : Numeral.Literal literal) : Written (.number literal) literal
  | string {literal : List Char} {ps : List Quoted.Piece} (h : Quoted.Literal literal ps) :
      Written (.string literal) (quoted literal)
  | array {blank : List Char} {items : List (Json × List Char)} (hblank : Blank blank)
      (hitems : ∀ item ∈ items, Written item.1 item.2) :
      Written (.array (items.map (·.1)))
        ('[' :: (blank ++ ([','].intercalate (items.map (·.2)) ++ [']'])))
  | object {blank : List Char} {members : List MemberText} (hblank : Blank blank)
      (hlexed : ∀ m ∈ members, m.IsLexed) (hvalues : ∀ m ∈ members, Written m.value m.text) :
      Written (.object (members.map (·.member)))
        ('{' :: (blank ++ ([','].intercalate (members.map (·.chars)) ++ ['}'])))
  | spaced {j : Json} {before after cs : List Char} (hbefore : Blank before) (hafter : Blank after)
      (h : Written j cs) : Written j (before ++ (cs ++ after))

variable {room room' : Nat} {j : Json} {cs literal : List Char}

/-- A number is written by its literal. -/
theorem Written.isLiteral (h : Written (.number literal) cs) : Numeral.Literal literal := by
  generalize hj : Json.number literal = j at h
  induction h with
  | number h =>
    obtain rfl := Json.number.inj hj
    exact h
  | spaced _ _ _ ih => exact ih hj
  | _ => cases hj

/-- The members of an object are written. -/
theorem Written.forall_members {members : List (List Char × Json)}
    (h : Written (.object members) cs) :
    ∀ m ∈ members, (∃ ps, Quoted.Literal m.1 ps) ∧ ∃ text, Written m.2 text := by
  generalize hj : Json.object members = j at h
  induction h with
  | object _ hlexed hvalues _ =>
    obtain rfl := Json.object.inj hj
    intro m hm
    obtain ⟨text, htext, rfl⟩ := List.mem_map.1 hm
    exact ⟨(hlexed text htext).name, text.text, hvalues text htext⟩
  | spaced _ _ _ ih => exact ih hj
  | _ => cases hj

/-! ## Limits -/

/-- A value in which no part lies in more than `room` arrays and objects, all numbers fit double
precision and all strings spell texts. -/
inductive Within : Nat → Json → Prop
  | null {room : Nat} : Within room .null
  | bool {room : Nat} (b : Bool) : Within room (.bool b)
  | number {room : Nat} {literal : List Char} (h : (Numeral.real? literal).isSome = true) :
      Within room (.number literal)
  | string {room : Nat} {literal : List Char} {text : String} (h : Quoted.Spells literal text) :
      Within room (.string literal)
  | array {room : Nat} {items : List Json} (hitems : ∀ item ∈ items, Within room item) :
      Within (room + 1) (.array items)
  | object {room : Nat} {members : List (List Char × Json)}
      (hnames : ∀ m ∈ members, ∃ text, Quoted.Spells m.1 text)
      (hvalues : ∀ m ∈ members, Within room m.2) : Within (room + 1) (.object members)

theorem areSound_iff {items : List Json} :
    areSound room items = true ↔ ∀ item ∈ items, item.isSound room = true := by
  induction items with
  | nil => simp [areSound]
  | cons item items ih => simp [areSound, ih]

theorem membersSound_iff {members : List (List Char × Json)} :
    membersSound room members = true ↔
      ∀ m ∈ members, (Quoted.unescape m.1).isSome = true ∧ m.2.isSound room = true := by
  induction members with
  | nil => simp [membersSound]
  | cons m members ih => simp [membersSound, ih, and_assoc]

/-- What is within the limits can be read to its end. -/
theorem Within.isSound (h : Within room j) : j.isSound room = true := by
  induction h with
  | null | bool => rfl
  | number h => exact h
  | string h => simp [Json.isSound, h.unescape]
  | array _ ih => simpa [Json.isSound] using areSound_iff.2 ih
  | object hnames _ ih =>
    refine Bool.and_eq_true_iff.2 ⟨rfl, membersSound_iff.2 fun m hm => ⟨?_, ih m hm⟩⟩
    obtain ⟨text, hname⟩ := hnames m hm
    rw [hname.unescape]
    rfl

/-! ## Reading -/

namespace Document

variable {state : State} {outer : List Enclosing} {rest : List Char}

/-- Where a value goes on a stack of what is open. -/
def Awaits (state : State) (outer : List Enclosing) : Prop :=
  ∀ token, token ≠ .closeBracket → step state token = step (.value outer) token

theorem Awaits.value (outer : List Enclosing) : Awaits (.value outer) outer := fun _ _ => rfl

/-- In place of its end, an array may have a first item. -/
theorem Awaits.firstItem (outer : List Enclosing) :
    Awaits (.firstItem outer) (.item [] :: outer) := by
  intro token htoken
  cases token with
  | closeBracket => exact absurd rfl htoken
  | _ => rfl

theorem ofTokensFrom_cons (state : State) (token : Token) (tokens : List Token) :
    ofTokensFrom state (token :: tokens) = ofTokensFrom (step state token) tokens := rfl

/-- What a text of a value does where one is awaited, if a value can end before `rest`. -/
def Reads (j : Json) (cs : List Char) : Prop :=
  ∀ (state : State) (outer : List Enclosing) (rest : List Char), Awaits state outer → Ends rest →
    ofTokensFrom state (scanFrom .start (cs ++ rest)) =
      ofTokensFrom (put j outer) (scanFrom .start rest)

theorem reads_of_token (token : Token) (hbracket : token ≠ .closeBracket)
    (hput : ∀ outer, step (.value outer) token = put j outer)
    (hscan : ∀ rest, Ends rest → scanFrom .start (cs ++ rest) = token :: scanFrom .start rest) :
    Reads j cs := by
  intro state outer rest hawaits hrest
  rw [hscan rest hrest, ofTokensFrom_cons, hawaits token hbracket, hput]

theorem Reads.spaced {before after : List Char} (hbefore : Blank before) (hafter : Blank after)
    (h : Reads j cs) : Reads j (before ++ (cs ++ after)) := by
  intro state outer rest hawaits hrest
  rw [List.append_assoc, scanFrom_blank hbefore, List.append_assoc,
    h state outer _ hawaits (hrest.blank hafter), scanFrom_blank hafter]

theorem scanFrom_mark {c : Char} {token : Token} (h : first c = ([token], .start)) :
    scanFrom .start (c :: rest) = token :: scanFrom .start rest := by
  rw [scanFrom_cons, Token.step, h]
  rfl

/-- The items of an array, from the first that is awaited to the closing bracket. -/
theorem reads_items {item : Json × List Char} {items : List (Json × List Char)}
    {before : List Json} (hitems : ∀ p ∈ item :: items, Reads p.1 p.2)
    (hawaits : Awaits state (.item before :: outer)) :
    ofTokensFrom state
        (scanFrom .start ([','].intercalate ((item :: items).map (·.2)) ++ ']' :: rest)) =
      ofTokensFrom (put (.array (before.reverse ++ (item :: items).map (·.1))) outer)
        (scanFrom .start rest) := by
  induction items generalizing item before state with
  | nil =>
    rw [List.map_singleton, List.intercalate_singleton,
      hitems item List.mem_cons_self _ _ _ hawaits (by simp [Ends]), scanFrom_mark rfl,
      ofTokensFrom_cons, List.map_singleton, ← List.reverse_cons]
    rfl
  | cons next items ih =>
    obtain ⟨hitem, hitems⟩ := List.forall_mem_cons.1 hitems
    have hcomma : step (put item.1 (.item before :: outer)) .comma =
        .value (.item (item.1 :: before) :: outer) := rfl
    rw [List.map_cons, List.map_cons, List.intercalate_cons_cons, List.append_assoc,
      List.append_assoc, List.singleton_append, hitem _ _ _ hawaits (by simp [Ends]),
      scanFrom_mark rfl, ofTokensFrom_cons, hcomma, ← List.map_cons, ih hitems (.value _),
      List.reverse_cons, List.append_assoc]
    rfl

theorem reads_array {blank : List Char} {items : List (Json × List Char)} (hblank : Blank blank)
    (hitems : ∀ item ∈ items, Reads item.1 item.2) :
    Reads (.array (items.map (·.1)))
      ('[' :: (blank ++ ([','].intercalate (items.map (·.2)) ++ [']']))) := by
  intro state outer rest hawaits hrest
  have hopen : step state .openBracket = .firstItem outer := hawaits _ (by simp)
  rw [List.cons_append, scanFrom_mark rfl, ofTokensFrom_cons, hopen, List.append_assoc,
    scanFrom_blank hblank, List.append_assoc, List.singleton_append]
  cases items with
  | nil => rfl
  | cons item items => exact reads_items hitems (.firstItem outer)

/-- Where a name goes after the members that came before. -/
def AwaitsName (state : State) (before : List (List Char × Json)) (outer : List Enclosing) : Prop :=
  ∀ name, step state (.string name) = .colon before name outer

/-- A member, from its name to the end of its value. -/
theorem reads_member {m : MemberText} {before : List (List Char × Json)} (hlexed : m.IsLexed)
    (hvalue : Reads m.value m.text) (hawaits : AwaitsName state before outer) (hrest : Ends rest) :
    ofTokensFrom state (scanFrom .start (m.chars ++ rest)) =
      ofTokensFrom (.afterMember (m.member :: before) outer) (scanFrom .start rest) := by
  obtain ⟨ps, hname⟩ := hlexed.name
  have hcolon : step (.colon before m.name outer) .colon =
      .value (.member before m.name :: outer) := rfl
  rw [MemberText.chars, List.append_assoc, scanFrom_blank hlexed.before, List.append_assoc,
    scanFrom_quoted hname, ofTokensFrom_cons, hawaits, List.append_assoc,
    scanFrom_blank hlexed.between, List.cons_append, scanFrom_mark rfl, ofTokensFrom_cons, hcolon,
    hvalue _ _ _ (.value _) hrest]
  rfl

/-- The members of an object, from the first whose name is awaited to the closing brace. -/
theorem reads_members {m : MemberText} {members : List MemberText}
    {before : List (List Char × Json)} (hlexed : ∀ m' ∈ m :: members, m'.IsLexed)
    (hvalues : ∀ m' ∈ m :: members, Reads m'.value m'.text)
    (hawaits : AwaitsName state before outer) :
    ofTokensFrom state
        (scanFrom .start ([','].intercalate ((m :: members).map (·.chars)) ++ '}' :: rest)) =
      ofTokensFrom (put (.object (before.reverse ++ (m :: members).map (·.member))) outer)
        (scanFrom .start rest) := by
  induction members generalizing m before state with
  | nil =>
    rw [List.map_singleton, List.intercalate_singleton,
      reads_member (hlexed m List.mem_cons_self) (hvalues m List.mem_cons_self) hawaits
        (by simp [Ends]),
      scanFrom_mark rfl, ofTokensFrom_cons, List.map_singleton, ← List.reverse_cons]
    rfl
  | cons next members ih =>
    obtain ⟨hname, hlexed⟩ := List.forall_mem_cons.1 hlexed
    obtain ⟨hvalue, hvalues⟩ := List.forall_mem_cons.1 hvalues
    have hcomma : step (.afterMember (m.member :: before) outer) .comma =
        .name (m.member :: before) outer := rfl
    rw [List.map_cons, List.map_cons, List.intercalate_cons_cons, List.append_assoc,
      List.append_assoc, List.singleton_append,
      reads_member hname hvalue hawaits (by simp [Ends]), scanFrom_mark rfl, ofTokensFrom_cons,
      hcomma, ← List.map_cons, ih hlexed hvalues fun _ => rfl, List.reverse_cons,
      List.append_assoc]
    rfl

theorem reads_object {blank : List Char} {members : List MemberText} (hblank : Blank blank)
    (hlexed : ∀ m ∈ members, m.IsLexed) (hvalues : ∀ m ∈ members, Reads m.value m.text) :
    Reads (.object (members.map (·.member)))
      ('{' :: (blank ++ ([','].intercalate (members.map (·.chars)) ++ ['}']))) := by
  intro state outer rest hawaits hrest
  have hopen : step state .openBrace = .firstName outer := hawaits _ (by simp)
  have hname : AwaitsName (.firstName outer) [] outer := fun _ => rfl
  rw [List.cons_append, scanFrom_mark rfl, ofTokensFrom_cons, hopen, List.append_assoc,
    scanFrom_blank hblank, List.append_assoc, List.singleton_append]
  cases members with
  | nil => rfl
  | cons m members => exact reads_members hlexed hvalues hname

/-- **A value is read from its texts**, wherever one is awaited. -/
theorem reads_of_written (h : Written j cs) : Reads j cs := by
  induction h with
  | null => exact reads_of_token .null (by simp) (fun _ => rfl) fun _ _ => rfl
  | bool b =>
    cases b <;> exact reads_of_token (.bool _) (by simp) (fun _ => rfl) fun _ _ => rfl
  | number h =>
    exact reads_of_token (.number _) (by simp) (fun _ => rfl) fun _ hrest => scanFrom_number h hrest
  | string h =>
    exact reads_of_token (.string _) (by simp) (fun _ => rfl) fun rest _ => scanFrom_quoted h rest
  | array hblank _ ih => exact reads_array hblank ih
  | object hblank hlexed _ ih => exact reads_object hblank hlexed ih
  | spaced hbefore hafter _ ih => exact ih.spaced hbefore hafter

/-- **A text of a value is the document of that value.** -/
theorem ofChars_written (h : Written j cs) : ofChars cs = { value := j, hasMore := false } := by
  have hread := reads_of_written h (.value []) [] [] (.value []) (by simp [Ends])
  rw [List.append_nil] at hread
  exact hread

end Document

/-! ## What is built -/

/-- A value that is built from parts that can be written, in at most `room` arrays and objects
around each other. -/
inductive Built : Nat → Json → Prop
  | null {room : Nat} : Built room .null
  | bool {room : Nat} (b : Bool) : Built room (.bool b)
  | text {room : Nat} (s : String) : Built room (.ofText s)
  | integer {room : Nat} {z : Int} (hleast : Int64.minValue.toInt ≤ z)
      (hgreatest : z < UInt64.size) : Built room (.ofInt z)
  | array {room : Nat} {items : List Json} (hitems : ∀ item ∈ items, Built room item) :
      Built (room + 1) (.array items)
  | members {room : Nat} {members : List (String × Json)}
      (hmembers : ∀ m ∈ members, Built room m.2) : Built (room + 1) (.ofMembers members)

namespace Built

theorem mono (h : Built room j) (hroom : room ≤ room') : Built room' j := by
  induction h generalizing room' with
  | null => exact .null
  | bool b => exact .bool b
  | text s => exact .text s
  | integer hleast hgreatest => exact .integer hleast hgreatest
  | array _ ih =>
    obtain ⟨room', rfl⟩ := Nat.exists_eq_add_one_of_ne_zero (Nat.ne_zero_of_lt hroom)
    exact .array fun item hitem => ih item hitem (Nat.le_of_succ_le_succ hroom)
  | members _ ih =>
    obtain ⟨room', rfl⟩ := Nat.exists_eq_add_one_of_ne_zero (Nat.ne_zero_of_lt hroom)
    exact .members fun m hm => ih m hm (Nat.le_of_succ_le_succ hroom)

theorem within (h : Built room j) : Within room j := by
  induction h with
  | null => exact .null
  | bool b => exact .bool b
  | text s => exact .string (Quoted.spells_escape s)
  | @integer _ z hleast hgreatest =>
    exact .number (Numeral.isSome_real?_of_writes (Numeral.writes_ofInt z) hleast hgreatest)
  | array _ ih => exact .array ih
  | members _ ih =>
    refine .object (fun m hm => ?_) fun m hm => ?_ <;>
      obtain ⟨member, hmember, rfl⟩ := List.mem_map.1 hm
    · exact ⟨member.1, Quoted.spells_escape member.1⟩
    · exact ih member hmember

/-- What is built can be read to its end. -/
theorem isSound (h : Built room j) : j.isSound room = true := h.within.isSound

theorem writeItems_eq (items : List Json) :
    writeItems items = [','].intercalate (items.map write) := by
  induction items with
  | nil => rfl
  | cons item items ih =>
    cases items with
    | nil => rw [writeItems, List.map_singleton, List.intercalate_singleton]
    | cons next items =>
      rw [writeItems, ih, List.map_cons (a := item), List.map_cons, List.intercalate_cons_cons,
        List.append_assoc, List.singleton_append]
      simp

/-- A member without white space. -/
def memberText (m : List Char × Json) : MemberText where
  before := []
  name := m.1
  between := []
  value := m.2
  text := m.2.write

@[simp]
theorem member_memberText (m : List Char × Json) : (memberText m).member = m := rfl

theorem writeMembers_eq (members : List (List Char × Json)) :
    writeMembers members = [','].intercalate (members.map fun m => (memberText m).chars) := by
  induction members with
  | nil => rfl
  | cons m members ih =>
    cases members with
    | nil =>
      rw [writeMembers, List.map_singleton, List.intercalate_singleton]
      rfl
    | cons next members =>
      rw [writeMembers, ih, List.map_cons (a := m), List.map_cons, List.intercalate_cons_cons,
        List.append_assoc]
      · simp [memberText, MemberText.chars]
      · simp

theorem written_array {items : List Json} (hitems : ∀ item ∈ items, Written item item.write) :
    Written (.array items) (write (.array items)) := by
  have htexts : ∀ p ∈ items.map fun item => (item, item.write), Written p.1 p.2 := by
    simpa using hitems
  have h := Written.array blank_nil htexts
  simpa [write, writeItems_eq, Function.comp_def] using h

theorem written_object {members : List (List Char × Json)}
    (hnames : ∀ m ∈ members, ∃ ps, Quoted.Literal m.1 ps)
    (hvalues : ∀ m ∈ members, Written m.2 m.2.write) :
    Written (.object members) (write (.object members)) := by
  have hlexed : ∀ m ∈ members.map memberText, m.IsLexed := by
    intro m hm
    obtain ⟨member, hmember, rfl⟩ := List.mem_map.1 hm
    exact ⟨blank_nil, hnames member hmember, blank_nil⟩
  have htexts : ∀ m ∈ members.map memberText, Written m.value m.text := by
    intro m hm
    obtain ⟨member, hmember, rfl⟩ := List.mem_map.1 hm
    exact hvalues member hmember
  have h := Written.object blank_nil hlexed htexts
  simpa [write, writeMembers_eq, Function.comp_def] using h

/-- **What is built is written.** -/
theorem written (h : Built room j) : Written j j.write := by
  induction h with
  | null => exact .null
  | bool b => cases b <;> exact .bool _
  | text s =>
    obtain ⟨ps, hliteral, -⟩ := Quoted.spells_escape s
    exact .string hliteral
  | @integer _ z => exact .number (Numeral.writes_ofInt z).isLiteral
  | array _ ih => exact written_array ih
  | members _ ih =>
    refine written_object (fun m hm => ?_) fun m hm => ?_ <;>
      obtain ⟨member, hmember, rfl⟩ := List.mem_map.1 hm
    · obtain ⟨ps, hliteral, -⟩ := Quoted.spells_escape member.1
      exact ⟨ps, hliteral⟩
    · exact ih member hmember

end Built

/-- **The text of a value is the document of that value.** -/
theorem Document.ofText_text (h : Built room j) :
    ofText j.text = { value := j, hasMore := false } := by
  rw [ofText, text, String.toList_ofList]
  exact ofChars_written h.written

end ChatRelay.Json

import ChatRelay.Frame.Client
import ChatRelay.Proofs.Json.Faulty

/-!
# How frames are spelled

A frame of a client can be spelled in many ways: as an object or as an array, with the tag and the
fields of an object in any order and among others, with strings that spell the same texts, and with
white space everywhere. It is read from all of them. Objects that have the tag or a field twice,
that lack a field, or that have no integer of sixty-four bits where one is declared are read as no
frame (`ClientFrame.decode_spelling`).
-/

namespace ChatRelay.ClientFrame

open Json

/-! ## The fields of frames -/

/-- The range of unsigned numbers of sixty-four bits. -/
def uint64Range : Int × Int := (0, UInt64.size - 1)

/-- The range of signed numbers of sixty-four bits. -/
def int64Range : Int × Int := (Int64.minValue.toInt, Int64.maxValue.toInt)

/-- The fields that are declared for a tag. -/
def declared : String → List Declaration
  | "subscribe" | "unsubscribe" => [⟨"id", true, some uint64Range⟩, ⟨"topic", true, none⟩]
  | "send" =>
    [⟨"id", true, some uint64Range⟩, ⟨"thread_id", true, none⟩, ⟨"thread_name", false, none⟩,
      ⟨"members", true, none⟩, ⟨"body", true, none⟩]
  | "history" =>
    [⟨"id", true, some uint64Range⟩, ⟨"thread_id", true, none⟩, ⟨"bucket", false, some int64Range⟩,
      ⟨"before", false, some uint64Range⟩, ⟨"cursor", false, none⟩]
  | "typing" =>
    [⟨"id", true, some uint64Range⟩, ⟨"thread_id", true, none⟩, ⟨"members", true, none⟩]
  | "ping" => [⟨"timestamp", false, some uint64Range⟩]
  | _ => []

/-- The tag of a frame. -/
def tag : ClientFrame → String
  | subscribe .. => "subscribe"
  | unsubscribe .. => "unsubscribe"
  | send .. => "send"
  | history .. => "history"
  | typing .. => "typing"
  | ping .. => "ping"

/-- The spellings of the values of a frame, in the order of its fields. -/
def spellings : ClientFrame → List (Json → Prop)
  | subscribe id topic | unsubscribe id topic => [SpellsInteger id.toNat, SpellsText topic]
  | send id thread threadName members body =>
    [SpellsInteger id.toNat, SpellsUuid thread, SpellsOption SpellsText threadName,
      SpellsList SpellsText members, SpellsText body]
  | history id thread query =>
    [SpellsInteger id.toNat, SpellsUuid thread,
      SpellsOption (fun b : Bucket => SpellsInteger b.toInt) query.bucket,
      SpellsOption (fun id : MessageId => SpellsInteger id.toNat) query.before,
      SpellsOption (fun c : Cursor => SpellsText c.token) query.cursor]
  | typing id thread members =>
    [SpellsInteger id.toNat, SpellsUuid thread, SpellsList SpellsText members]
  | ping timestamp => [SpellsOption (fun t : UInt64 => SpellsInteger t.toNat) timestamp]

/-- The fields of a frame with the spellings of their values. -/
def fields (f : ClientFrame) : List Filled := List.zipWith Filled.mk (declared f.tag) f.spellings

/-- The spellings of a frame. -/
def Spells (f : ClientFrame) (j : Json) : Prop := SpellsRecord f.tag f.fields j

variable {f : ClientFrame} {slots : Slots} {body : Json} {t : Tagged}

theorem declarations_fields (f : ClientFrame) : declarations f.fields = declared f.tag := by
  cases f <;> rfl

theorem tag_mem_tags (f : ClientFrame) : f.tag ∈ tags := by cases f <;> simp [tag, tags]

theorem declared_of_notMem {tag : String} (h : tag ∉ tags) : declared tag = [] := by
  unfold declared
  split
  all_goals first | rfl | exact absurd (by decide) h

/-- The fields of a kind of frames have names of their own, and none is the name of the tag. -/
theorem nodup_declaredNames (tag : String) :
    (Tagged.tagName :: declaredNames (declared tag)).Nodup := by
  by_cases h : tag ∈ tags
  · have hall : ∀ tag ∈ tags, (Tagged.tagName :: declaredNames (declared tag)).Nodup := by decide
    exact hall tag h
  · rw [declared_of_notMem h]
    decide

/-! ## Reading -/

theorem spelled_cursor : Spelled 0 (fun c : Cursor => SpellsText c.token) Cursor.ofJson? where
  read_eq h := by rw [Cursor.ofJson?, h.text?, Option.map_some]
  within := Spelled.text.within
  ne_null := Spelled.text.ne_null

theorem keepsWithin_fields (f : ClientFrame) :
    ∀ field ∈ f.fields, KeepsWithin Tagged.room field.spells := by
  cases f <;>
    simp only [fields, tag, declared, spellings, List.zipWith_cons_cons, List.zipWith_nil_left,
      List.forall_mem_cons]
  case subscribe id topic | unsubscribe id topic =>
    exact ⟨Spelled.uint64.keepsWithin id, Spelled.text.keepsWithin topic, List.forall_mem_nil _⟩
  case send id thread threadName members body =>
    exact ⟨Spelled.uint64.keepsWithin id, Spelled.uuid.keepsWithin thread,
      Spelled.text.keepsWithin_option threadName, Spelled.text.list.keepsWithin members,
      Spelled.text.keepsWithin body, List.forall_mem_nil _⟩
  case history id thread query =>
    exact ⟨Spelled.uint64.keepsWithin id, Spelled.uuid.keepsWithin thread,
      Spelled.int64.keepsWithin_option query.bucket, Spelled.uint64.keepsWithin_option query.before,
      spelled_cursor.keepsWithin_option query.cursor, List.forall_mem_nil _⟩
  case typing id thread members =>
    exact ⟨Spelled.uint64.keepsWithin id, Spelled.uuid.keepsWithin thread,
      Spelled.text.list.keepsWithin members, List.forall_mem_nil _⟩
  case ping timestamp =>
    exact ⟨Spelled.uint64.keepsWithin_option timestamp, List.forall_mem_nil _⟩

theorem isRecord (f : ClientFrame) : IsRecord f.fields where
  nodup := by
    rw [fieldNames, declarations_fields]
    exact (List.nodup_cons.1 (nodup_declaredNames f.tag)).2
  tag := by
    rw [fieldNames, declarations_fields]
    exact (List.nodup_cons.1 (nodup_declaredNames f.tag)).1
  within := keepsWithin_fields f

/-- A frame is read from its fields. -/
theorem ofTagged?_of_held
    (hslots : body.slots? (declaredNames (declared f.tag)) (needed (declared f.tag)) = some slots)
    (h : Held f.fields slots) : ofTagged? { tag := f.tag, body } = some f := by
  cases f with
  | subscribe id topic | unsubscribe id topic =>
    simp only [ofTagged?, tag, Option.bind_eq_bind, Option.bind_eq_some_iff]
    exact ⟨slots, hslots, id, h.required (i := 0) .uint64 rfl,
      topic, h.required (i := 1) .text rfl, rfl⟩
  | send id thread threadName members body =>
    simp only [ofTagged?, tag, Option.bind_eq_bind, Option.bind_eq_some_iff]
    exact ⟨slots, hslots, id, h.required (i := 0) .uint64 rfl,
      thread, h.required (i := 1) .uuid rfl, threadName, h.optional (i := 2) .text rfl,
      members, h.required (i := 3) (.list .text) rfl, body, h.required (i := 4) .text rfl, rfl⟩
  | history id thread query =>
    simp only [ofTagged?, tag, Option.bind_eq_bind, Option.bind_eq_some_iff]
    exact ⟨slots, hslots, id, h.required (i := 0) .uint64 rfl,
      thread, h.required (i := 1) .uuid rfl, query.bucket, h.optional (i := 2) .int64 rfl,
      query.before, h.optional (i := 3) .uint64 rfl,
      query.cursor, h.optional (i := 4) spelled_cursor rfl, rfl⟩
  | typing id thread members =>
    simp only [ofTagged?, tag, Option.bind_eq_bind, Option.bind_eq_some_iff]
    exact ⟨slots, hslots, id, h.required (i := 0) .uint64 rfl,
      thread, h.required (i := 1) .uuid rfl, members, h.required (i := 2) (.list .text) rfl, rfl⟩
  | ping timestamp =>
    simp only [ofTagged?, tag, Option.bind_eq_bind, Option.bind_eq_some_iff]
    exact ⟨slots, hslots, timestamp, h.optional (i := 0) .uint64 rfl, rfl⟩

/-! ## What is not read -/

theorem checks_uint64 : Checks (some uint64Range) uint64? := checks_integer _

theorem checks_int64 : Checks (some int64Range) int64? := checks_integer _

/-- A frame is read only from fields that are as declared. -/
theorem accepted_of_ofTagged? (h : ofTagged? t = some f) : Accepted (declared t.tag) t.body := by
  unfold ofTagged? at h
  split at h
  case h_1 htag | h_2 htag =>
    simp only [Option.bind_eq_bind, Option.bind_eq_some_iff] at h
    obtain ⟨slots, hslots, id, hid, topic, htopic, -⟩ := h
    simp only [Accepted, htag, declared, List.forall_mem_cons]
    exact ⟨_, slots, hslots, accepts_of_required checks_uint64 hid,
      accepts_of_required checks_none htopic, List.forall_mem_nil _⟩
  case h_3 htag =>
    simp only [Option.bind_eq_bind, Option.bind_eq_some_iff] at h
    obtain ⟨slots, hslots, id, hid, thread, hthread, threadName, hthreadName, members, hmembers,
      body, hbody, -⟩ := h
    simp only [Accepted, htag, declared, List.forall_mem_cons]
    exact ⟨_, slots, hslots, accepts_of_required checks_uint64 hid,
      accepts_of_required checks_none hthread, accepts_of_optional checks_none hthreadName,
      accepts_of_required checks_none hmembers, accepts_of_required checks_none hbody,
      List.forall_mem_nil _⟩
  case h_4 htag =>
    simp only [Option.bind_eq_bind, Option.bind_eq_some_iff] at h
    obtain ⟨slots, hslots, id, hid, thread, hthread, bucket, hbucket, before, hbefore, cursor,
      hcursor, -⟩ := h
    simp only [Accepted, htag, declared, List.forall_mem_cons]
    exact ⟨_, slots, hslots, accepts_of_required checks_uint64 hid,
      accepts_of_required checks_none hthread, accepts_of_optional checks_int64 hbucket,
      accepts_of_optional checks_uint64 hbefore, accepts_of_optional checks_none hcursor,
      List.forall_mem_nil _⟩
  case h_5 htag =>
    simp only [Option.bind_eq_bind, Option.bind_eq_some_iff] at h
    obtain ⟨slots, hslots, id, hid, thread, hthread, members, hmembers, -⟩ := h
    simp only [Accepted, htag, declared, List.forall_mem_cons]
    exact ⟨_, slots, hslots, accepts_of_required checks_uint64 hid,
      accepts_of_required checks_none hthread, accepts_of_required checks_none hmembers,
      List.forall_mem_nil _⟩
  case h_6 htag =>
    simp only [Option.bind_eq_bind, Option.bind_eq_some_iff] at h
    obtain ⟨slots, hslots, timestamp, htimestamp, -⟩ := h
    simp only [Accepted, htag, declared, List.forall_mem_cons]
    exact ⟨_, slots, hslots, accepts_of_optional checks_uint64 htimestamp, List.forall_mem_nil _⟩
  case h_7 => cases h

/-- **Every spelling of a frame is read as that frame, and faulty objects are read as none.** -/
theorem decode_spelling :
    (∀ (f : ClientFrame) (j : Json) (text : String), f.Spells j → Written j text.toList →
      decode text = .ok f) ∧
    ∀ (members : List (List Char × Json)) (text : String),
      Written (.object members) text.toList → Faulty declared members →
      ∃ e, decode text = .error e := by
  refine ⟨fun f j text hspells hwritten => ?_, fun members text hwritten hfaulty => ?_⟩
  · obtain ⟨body, slots, htagged, hslots, hheld⟩ := hspells.read f.isRecord f.tag_mem_tags
    rw [fieldNames, declarations_fields] at hslots
    rw [decode, Document.ofText, Document.ofChars_written hwritten]
    exact Document.tagged_eq_ok_iff.2 ⟨_, htagged, ofTagged?_of_held hslots hheld⟩
  · exact hfaulty.rejected hwritten (fun _ _ => accepted_of_ofTagged?) fun tag =>
      (List.nodup_cons.1 (nodup_declaredNames tag)).1

/-- A subscription with its tag after a field and an unknown one, in white space; a ping as an array
that leaves its time out; and a ping with two times. -/
theorem decode_spelling_spaced :
    decode " \x7b\"topic\":\"/a\",\"since\":[1],\"type\":\"subscribe\",\"id\":7\x7d\n" =
        .ok (.subscribe 7 "/a") ∧
      decode "[\"ping\"]" = .ok (.ping none) ∧
      ∃ e, decode "\x7b\"type\":\"ping\",\"timestamp\":1,\"timestamp\":2\x7d" = .error e := by
  refine ⟨?_, ?_, ?_⟩
  · have hsince : Built 2 (.array [.ofInt 1]) :=
      .array (List.forall_mem_singleton.2 (.integer (by decide) (by decide)))
    have hbuilt : Built 3 (.ofMembers [("topic", .ofText "/a"), ("since", .array [.ofInt 1]),
        ("type", .ofText "subscribe"), ("id", .ofInt 7)]) :=
      .members (List.forall_mem_cons.2 ⟨.text _, List.forall_mem_cons.2 ⟨hsince,
        List.forall_mem_cons.2 ⟨.text _,
          List.forall_mem_singleton.2 (.integer (by decide) (by decide))⟩⟩⟩)
    have hforeign : IsForeign ["id", "topic"] (Quoted.escape "since".toList, .array [.ofInt 1]) :=
      ⟨⟨"since", Quoted.spells_escape "since", by decide, by decide⟩,
        (hsince.mono (by decide)).within⟩
    have hspells : (subscribe 7 "/a").Spells (.ofMembers [("topic", .ofText "/a"),
        ("since", .array [.ofInt 1]), ("type", .ofText "subscribe"), ("id", .ofInt 7)]) :=
      .object (Quoted.spells_escape "type") (.string (Quoted.spells_escape "subscribe"))
        (.present (Quoted.spells_escape "id") (.number (Numeral.writes_ofInt 7))
          (.present (Quoted.spells_escape "topic") (.string (Quoted.spells_escape "/a")) .nil))
        (List.forall_mem_singleton.2 hforeign) (@List.perm_append_comm _ [_, _] _)
    have hblank : Token.Blank [' '] := List.forall_mem_singleton.2 rfl
    have hnewline : Token.Blank ['\n'] := List.forall_mem_singleton.2 rfl
    exact decode_spelling.1 _ _ _ hspells (.spaced hblank hnewline hbuilt.written)
  · exact decode_spelling.1 (.ping none) _ _
      (.array (.string (Quoted.spells_escape "ping"))
        (.rest (List.forall_mem_singleton.2 ⟨rfl, rfl⟩)))
      (@Built.array 0 _ (List.forall_mem_singleton.2 (.text "ping"))).written
  · have hbuilt : Built 1 (.ofMembers [("type", .ofText "ping"), ("timestamp", .ofInt 1),
        ("timestamp", .ofInt 2)]) :=
      .members (List.forall_mem_cons.2 ⟨.text _, List.forall_mem_cons.2
        ⟨.integer (by decide) (by decide),
          List.forall_mem_singleton.2 (.integer (by decide) (by decide))⟩⟩)
    have htag : HasTag "ping" [(Quoted.escape "type".toList, .ofText "ping"),
        (Quoted.escape "timestamp".toList, .ofInt 1),
        (Quoted.escape "timestamp".toList, .ofInt 2)] :=
      ⟨_, List.mem_cons_self, Quoted.spells_escape "type", .string (Quoted.spells_escape "ping")⟩
    exact decode_spelling.2 _ _ hbuilt.written
      (.fieldTwice htag (d := ⟨"timestamp", false, some uint64Range⟩) (List.mem_singleton.2 rfl)
        (.cons _ (.refl _)) (Quoted.spells_escape "timestamp") (Quoted.spells_escape "timestamp"))

end ChatRelay.ClientFrame

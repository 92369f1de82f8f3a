import ChatRelay.Proofs.Json.Fields
import ChatRelay.Wire

/-!
# Messages and records are read back

Messages, stored records and cursors are kinds of values that are read back from what is written of
them. An unknown name of a message is written as `null`, and all fields are there.
-/

namespace ChatRelay

open Json

namespace Message

variable (m : Message)

theorem fields : Fields 0 layout.names [
    ("message_id", .ofInt m.messageId.toNat),
    ("thread_id", .ofText m.threadId.text),
    ("thread_name", .ofOption .ofText m.threadName),
    ("bucket", .ofInt m.bucket.toInt),
    ("author_id", .ofText m.author),
    ("author_name", .ofOption .ofText m.authorName),
    ("body", .ofText m.body)] :=
  .required "message_id" .uint64 m.messageId <| .required "thread_id" .uuid m.threadId <|
    .nullable "thread_name" .text m.threadName <| .required "bucket" .int64 m.bucket <|
    .required "author_id" .text m.author <| .nullable "author_name" .text m.authorName <|
    .required "body" .text m.body .nil

/-- **A message is read back.** -/
theorem ofJson?_toJson : layout.ofJson? m.toJson = some m := by
  rw [Layout.ofJson?, toJson, m.fields.slots?, Option.bind_some]
  simp only [layout, Option.bind_eq_bind, Option.bind_eq_some_iff]
  exact ⟨_, Codec.uint64.required rfl, _, Codec.uuid.required rfl, _, Codec.text.nullable rfl,
    _, Codec.int64.required rfl, _, Codec.text.required rfl, _, Codec.text.nullable rfl,
    _, Codec.text.required rfl, rfl⟩

theorem codec : Codec 1 toJson layout.ofJson? where
  read_write := ofJson?_toJson
  built m := .members m.fields.built
  ne_null _ := nofun

end Message

namespace Record

variable (r : Record)

theorem fields : Fields 0 layout.names [
    ("message_id", .ofInt r.messageId.toNat),
    ("thread_id", .ofText r.threadId.text),
    ("bucket", .ofInt r.bucket.toInt),
    ("author_id", .ofText r.author),
    ("body", .ofText r.body),
    ("read", .bool r.read),
    ("edited", .bool r.edited),
    ("system_message", .bool r.system)] :=
  .required "message_id" .uint64 r.messageId <| .required "thread_id" .uuid r.threadId <|
    .required "bucket" .int64 r.bucket <| .required "author_id" .text r.author <|
    .required "body" .text r.body <| .required "read" .bool r.read <|
    .required "edited" .bool r.edited <| .required "system_message" .bool r.system .nil

/-- **A record is read back.** -/
theorem ofJson?_toJson : layout.ofJson? r.toJson = some r := by
  rw [Layout.ofJson?, toJson, r.fields.slots?, Option.bind_some]
  simp only [layout, Option.bind_eq_bind, Option.bind_eq_some_iff]
  exact ⟨_, Codec.uint64.required rfl, _, Codec.uuid.required rfl, _, Codec.int64.required rfl,
    _, Codec.text.required rfl, _, Codec.text.required rfl, _, Codec.bool.required rfl,
    _, Codec.bool.required rfl, _, Codec.bool.required rfl, rfl⟩

theorem codec : Codec 1 toJson layout.ofJson? where
  read_write := ofJson?_toJson
  built r := .members r.fields.built
  ne_null _ := nofun

end Record

theorem Cursor.codec : Codec 0 Cursor.toJson Cursor.ofJson? where
  read_write c := by rw [ofJson?, toJson, Codec.text?_ofText, Option.map_some]
  built c := .text c.token
  ne_null _ := nofun

end ChatRelay

import ChatRelay.Frame.Server
import ChatRelay.Proofs.Wire

/-!
# Frames are read back

Every frame is read back from its text (`ClientFrame.decode_encode`, `ServerFrame.decode_encode`),
whatever texts, numbers and records are in it and whichever of its fields are missing. A frame is a
tagged object, so each kind of frame needs two facts: which fields it is written with, and that the
frame is what is read from them.
-/

namespace ChatRelay

open Json

/-- **A frame of a client is read back.** -/
theorem ClientFrame.decode_encode (f : ClientFrame) : decode f.encode = .ok f := by
  cases f with
  | subscribe id topic | unsubscribe id topic =>
    have hfields : Fields Tagged.room _ _ :=
      .required "id" .uint64 id <| .required "topic" .text topic .nil
    refine hfields.tagged ?_
    simp only [ofTagged?, Option.bind_eq_bind, Option.bind_eq_some_iff]
    exact ⟨_, hfields.slots?, _, Codec.uint64.required rfl, _, Codec.text.required rfl, rfl⟩
  | send id thread threadName members body =>
    have hfields : Fields Tagged.room _ _ :=
      ((Fields.required "id" .uint64 id <| .required "thread_id" .uuid thread .nil).append
        (.optional "thread_name" .text threadName)).append
        (.required "members" (.list .text) members <| .required "body" .text body .nil)
    refine hfields.tagged ?_
    simp only [ofTagged?, Option.bind_eq_bind, Option.bind_eq_some_iff]
    exact ⟨_, hfields.slots?, _, Codec.uint64.required rfl, _, Codec.uuid.required rfl,
      _, Codec.text.optional (by simp), _, (Codec.list .text).required (by simp),
      _, Codec.text.required (by simp), rfl⟩
  | history id thread query =>
    have hfields : Fields Tagged.room _ _ :=
      (((Fields.required "id" .uint64 id <| .required "thread_id" .uuid thread .nil).append
        (.optional "bucket" .int64 query.bucket)).append
        (.optional "before" .uint64 query.before)).append
        (.optional "cursor" Cursor.codec query.cursor)
    refine hfields.tagged ?_
    simp only [ofTagged?, Option.bind_eq_bind, Option.bind_eq_some_iff]
    exact ⟨_, hfields.slots?, _, Codec.uint64.required rfl, _, Codec.uuid.required rfl,
      _, Codec.int64.optional (by simp), _, Codec.uint64.optional (by simp),
      _, Cursor.codec.optional (by simp), rfl⟩
  | typing id thread members =>
    have hfields : Fields Tagged.room _ _ :=
      .required "id" .uint64 id <| .required "thread_id" .uuid thread <|
        .required "members" (.list .text) members .nil
    refine hfields.tagged ?_
    simp only [ofTagged?, Option.bind_eq_bind, Option.bind_eq_some_iff]
    exact ⟨_, hfields.slots?, _, Codec.uint64.required rfl, _, Codec.uuid.required rfl,
      _, (Codec.list .text).required rfl, rfl⟩
  | ping timestamp =>
    have hfields : Fields Tagged.room _ _ := .optional "timestamp" .uint64 timestamp
    refine hfields.tagged ?_
    simp only [ofTagged?, Option.bind_eq_bind, Option.bind_eq_some_iff]
    exact ⟨_, hfields.slots?, _, Codec.uint64.optional (by simp), rfl⟩

/-- **A frame of the server is read back.** -/
theorem ServerFrame.decode_encode (f : ServerFrame) : decode f.encode = .ok f := by
  cases f with
  | connected sessionId user =>
    have hfields : Fields Tagged.room _ _ :=
      .required "session_id" .text sessionId <| .required "user_id" .text user .nil
    refine hfields.tagged ?_
    simp only [ofTagged?, Option.bind_eq_bind, Option.bind_eq_some_iff]
    exact ⟨_, hfields.slots?, _, Codec.text.required rfl, _, Codec.text.required rfl, rfl⟩
  | ack id messageId =>
    have hfields : Fields Tagged.room _ _ :=
      (Fields.required "id" .uint64 id .nil).append (.optional "message_id" .uint64 messageId)
    refine hfields.tagged ?_
    simp only [ofTagged?, Option.bind_eq_bind, Option.bind_eq_some_iff]
    exact ⟨_, hfields.slots?, _, Codec.uint64.required rfl, _, Codec.uint64.optional (by simp),
      rfl⟩
  | error id code reason =>
    have hfields : Fields Tagged.room _ _ :=
      .required "id" .uint64 id <| .required "code" .uint16 code <|
        .required "message" .text reason .nil
    refine hfields.tagged ?_
    simp only [ofTagged?, Option.bind_eq_bind, Option.bind_eq_some_iff]
    exact ⟨_, hfields.slots?, _, Codec.uint64.required rfl, _, Codec.uint16.required rfl,
      _, Codec.text.required rfl, rfl⟩
  | message destination event | notification destination event =>
    have hfields : Fields Tagged.room _ _ :=
      .required "destination" .text destination <| .required "event" Message.codec event .nil
    refine hfields.tagged ?_
    simp only [ofTagged?, Option.bind_eq_bind, Option.bind_eq_some_iff]
    exact ⟨_, hfields.slots?, _, Codec.text.required rfl, _, Message.codec.required rfl, rfl⟩
  | history id records cursor bucket =>
    have hfields : Fields Tagged.room _ _ :=
      ((Fields.required "id" .uint64 id <| .required "records" (.list Record.codec) records
        .nil).append (.optional "cursor" Cursor.codec cursor)).append
        (.optional "bucket" .int64 bucket)
    refine hfields.tagged ?_
    simp only [ofTagged?, Option.bind_eq_bind, Option.bind_eq_some_iff]
    exact ⟨_, hfields.slots?, _, Codec.uint64.required rfl,
      _, Record.codec.list.required rfl, _, Cursor.codec.optional (by simp),
      _, Codec.int64.optional (by simp), rfl⟩
  | typing destination author thread =>
    have hfields : Fields Tagged.room _ _ :=
      .required "destination" .text destination <| .required "author_id" .text author <|
        .required "thread_id" .uuid thread .nil
    refine hfields.tagged ?_
    simp only [ofTagged?, Option.bind_eq_bind, Option.bind_eq_some_iff]
    exact ⟨_, hfields.slots?, _, Codec.text.required rfl, _, Codec.text.required rfl,
      _, Codec.uuid.required rfl, rfl⟩
  | pong timestamp =>
    have hfields : Fields Tagged.room _ _ := .optional "timestamp" .uint64 timestamp
    refine hfields.tagged ?_
    simp only [ofTagged?, Option.bind_eq_bind, Option.bind_eq_some_iff]
    exact ⟨_, hfields.slots?, _, Codec.uint64.optional (by simp), rfl⟩

/-- **Every frame is read back.** -/
theorem frames_decode_encode : (∀ f : ServerFrame, ServerFrame.decode f.encode = .ok f) ∧
    ∀ f : ClientFrame, ClientFrame.decode f.encode = .ok f :=
  ⟨ServerFrame.decode_encode, ClientFrame.decode_encode⟩

example : (ServerFrame.ack 7 none).encode = "\x7b\"type\":\"ack\",\"id\":7\x7d" := by decide

end ChatRelay

import ChatRelay.History
import ChatRelay.Json.Tagged
import ChatRelay.Wire

/-!
# Frames of clients

What a client may ask for. A frame is a tagged JSON value; requests carry an identifier that their
replies repeat.
-/

namespace ChatRelay

open Json

/-- The identifier of a request, chosen by the client. -/
abbrev RequestId := UInt64

/-- What a client asks for. -/
inductive ClientFrame where
  /-- To watch a topic. -/
  | subscribe (id : RequestId) (topic : String)
  /-- To watch a topic no longer. -/
  | unsubscribe (id : RequestId) (topic : String)
  /-- To post a message to the members of a thread. -/
  | send (id : RequestId) (thread : ThreadId) (threadName : Option String) (members : List UserId)
      (body : String)
  /-- To read a page of a thread's history. -/
  | history (id : RequestId) (thread : ThreadId) (query : HistoryQuery)
  /-- To tell the members of a thread that the sender is typing. -/
  | typing (id : RequestId) (thread : ThreadId) (members : List UserId)
  /-- To get a sign of life. -/
  | ping (timestamp : Option UInt64)
  deriving DecidableEq, Repr

namespace ClientFrame

/-- The tags of the frames. -/
def tags : List String := ["subscribe", "unsubscribe", "send", "history", "typing", "ping"]

/-- The frame that a tag and its fields make up. -/
def ofTagged? (t : Tagged) : Option ClientFrame :=
  match t.tag with
  | "subscribe" => do
    let slots ← t.body.slots? ["id", "topic"] 2
    return .subscribe (← slots.required "id" uint64?) (← slots.required "topic" text?)
  | "unsubscribe" => do
    let slots ← t.body.slots? ["id", "topic"] 2
    return .unsubscribe (← slots.required "id" uint64?) (← slots.required "topic" text?)
  | "send" => do
    let slots ← t.body.slots? ["id", "thread_id", "thread_name", "members", "body"] 5
    return .send (← slots.required "id" uint64?) (← slots.required "thread_id" uuid?)
      (← slots.optional "thread_name" text?) (← slots.required "members" (list? text?))
      (← slots.required "body" text?)
  | "history" => do
    let slots ← t.body.slots? ["id", "thread_id", "bucket", "before", "cursor"] 2
    return .history (← slots.required "id" uint64?) (← slots.required "thread_id" uuid?)
      { bucket := ← slots.optional "bucket" int64?
        before := ← slots.optional "before" uint64?
        cursor := ← slots.optional "cursor" Cursor.ofJson? }
  | "typing" => do
    let slots ← t.body.slots? ["id", "thread_id", "members"] 3
    return .typing (← slots.required "id" uint64?) (← slots.required "thread_id" uuid?)
      (← slots.required "members" (list? text?))
  | "ping" => do
    let slots ← t.body.slots? ["timestamp"] 0
    return .ping (← slots.optional "timestamp" uint64?)
  | _ => none

/-- Reads a frame. -/
def decode (text : String) : Except DecodeError ClientFrame :=
  (Document.ofText text).tagged tags ofTagged?

/-- The frame as a JSON value, the tag first. -/
def toJson : ClientFrame → Json
  | subscribe id topic =>
    .ofMembers [("type", .ofText "subscribe"), ("id", .ofInt id.toNat), ("topic", .ofText topic)]
  | unsubscribe id topic =>
    .ofMembers [("type", .ofText "unsubscribe"), ("id", .ofInt id.toNat), ("topic", .ofText topic)]
  | send id thread threadName members body =>
    .ofMembers ([("type", .ofText "send"), ("id", .ofInt id.toNat),
        ("thread_id", .ofText thread.text)] ++
      optionalMember "thread_name" .ofText threadName ++
      [("members", .ofList .ofText members), ("body", .ofText body)])
  | history id thread query =>
    .ofMembers ([("type", .ofText "history"), ("id", .ofInt id.toNat),
        ("thread_id", .ofText thread.text)] ++
      optionalMember "bucket" (fun b : Bucket => .ofInt b.toInt) query.bucket ++
      optionalMember "before" (fun id : MessageId => .ofInt id.toNat) query.before ++
      optionalMember "cursor" Cursor.toJson query.cursor)
  | typing id thread members =>
    .ofMembers [("type", .ofText "typing"), ("id", .ofInt id.toNat),
      ("thread_id", .ofText thread.text), ("members", .ofList .ofText members)]
  | ping timestamp =>
    .ofMembers ([("type", .ofText "ping")] ++
      optionalMember "timestamp" (fun t : UInt64 => .ofInt t.toNat) timestamp)

/-- Writes a frame. -/
def encode (frame : ClientFrame) : String := frame.toJson.text

end ClientFrame

end ChatRelay

import ChatRelay.Frame.Client

/-!
# Frames of the server

Replies to requests, and what is pushed to a session because of others.
-/

namespace ChatRelay

open Json

/-- The codes of error frames. -/
abbrev ErrorCode := UInt16

namespace ErrorCode

/-- The frame could not be read. -/
def invalidFrame : ErrorCode := 1001

/-- The sender has no session. -/
def notConnected : ErrorCode := 1002

/-- No identifier could be minted. -/
def idUnavailable : ErrorCode := 1003

/-- The page of history could not be put together. -/
def historyFailed : ErrorCode := 1004

/-- The kind of frame is not supported. -/
def unsupported : ErrorCode := 1005

/-- The codes in use. -/
def all : List ErrorCode := [invalidFrame, notConnected, idUnavailable, historyFailed, unsupported]

end ErrorCode

/-- What the server says. -/
inductive ServerFrame where
  /-- The session is registered. -/
  | connected (sessionId : SessionId) (user : UserId)
  /-- A request was carried out; a message that was sent has an identifier. -/
  | ack (id : RequestId) (messageId : Option MessageId)
  /-- A request failed. -/
  | error (id : RequestId) (code : ErrorCode) (reason : String)
  /-- A message of a thread that the session watches. -/
  | message (destination : String) (event : Message)
  /-- A message of a thread that the session does not watch. -/
  | notification (destination : String) (event : Message)
  /-- A page of history, and where the bucket that was read last goes on. -/
  | history (id : RequestId) (records : List Record) (cursor : Option Cursor)
      (bucket : Option Bucket)
  /-- A member of a thread is typing. -/
  | typing (destination : String) (author : UserId) (thread : ThreadId)
  /-- A sign of life. -/
  | pong (timestamp : Option UInt64)
  deriving DecidableEq, Repr

namespace ServerFrame

/-- The tags of the frames. -/
def tags : List String :=
  ["connected", "ack", "error", "message", "notification", "history", "typing", "pong"]

/-- The tag of a frame. -/
def tag : ServerFrame → String
  | connected .. => "connected"
  | ack .. => "ack"
  | error .. => "error"
  | message .. => "message"
  | notification .. => "notification"
  | history .. => "history"
  | typing .. => "typing"
  | pong .. => "pong"

/-- The frame that a tag and its fields make up. -/
def ofTagged? (t : Tagged) : Option ServerFrame :=
  match t.tag with
  | "connected" => do
    let slots ← t.body.slots? ["session_id", "user_id"] 2
    return .connected (← slots.required "session_id" text?) (← slots.required "user_id" text?)
  | "ack" => do
    let slots ← t.body.slots? ["id", "message_id"] 1
    return .ack (← slots.required "id" uint64?) (← slots.optional "message_id" uint64?)
  | "error" => do
    let slots ← t.body.slots? ["id", "code", "message"] 3
    return .error (← slots.required "id" uint64?) (← slots.required "code" uint16?)
      (← slots.required "message" text?)
  | "message" => do
    let slots ← t.body.slots? ["destination", "event"] 2
    return .message (← slots.required "destination" text?)
      (← slots.required "event" Message.layout.ofJson?)
  | "notification" => do
    let slots ← t.body.slots? ["destination", "event"] 2
    return .notification (← slots.required "destination" text?)
      (← slots.required "event" Message.layout.ofJson?)
  | "history" => do
    let slots ← t.body.slots? ["id", "records", "cursor", "bucket"] 2
    return .history (← slots.required "id" uint64?)
      (← slots.required "records" (list? Record.layout.ofJson?))
      (← slots.optional "cursor" Cursor.ofJson?) (← slots.optional "bucket" int64?)
  | "typing" => do
    let slots ← t.body.slots? ["destination", "author_id", "thread_id"] 3
    return .typing (← slots.required "destination" text?) (← slots.required "author_id" text?)
      (← slots.required "thread_id" uuid?)
  | "pong" => do
    let slots ← t.body.slots? ["timestamp"] 0
    return .pong (← slots.optional "timestamp" uint64?)
  | _ => none

/-- Reads a frame. -/
def decode (text : String) : Except DecodeError ServerFrame :=
  (Document.ofText text).tagged tags ofTagged?

/-- The frame as a JSON value, the tag first. -/
def toJson : ServerFrame → Json
  | connected sessionId user =>
    .ofMembers [("type", .ofText "connected"), ("session_id", .ofText sessionId),
      ("user_id", .ofText user)]
  | ack id messageId =>
    .ofMembers ([("type", .ofText "ack"), ("id", .ofInt id.toNat)] ++
      optionalMember "message_id" (fun id : MessageId => .ofInt id.toNat) messageId)
  | error id code reason =>
    .ofMembers [("type", .ofText "error"), ("id", .ofInt id.toNat), ("code", .ofInt code.toNat),
      ("message", .ofText reason)]
  | message destination event =>
    .ofMembers [("type", .ofText "message"), ("destination", .ofText destination),
      ("event", event.toJson)]
  | notification destination event =>
    .ofMembers [("type", .ofText "notification"), ("destination", .ofText destination),
      ("event", event.toJson)]
  | history id records cursor bucket =>
    .ofMembers ([("type", .ofText "history"), ("id", .ofInt id.toNat),
        ("records", .ofList Record.toJson records)] ++
      optionalMember "cursor" Cursor.toJson cursor ++
      optionalMember "bucket" (fun b : Bucket => .ofInt b.toInt) bucket)
  | typing destination author thread =>
    .ofMembers [("type", .ofText "typing"), ("destination", .ofText destination),
      ("author_id", .ofText author), ("thread_id", .ofText thread.text)]
  | pong timestamp =>
    .ofMembers ([("type", .ofText "pong")] ++
      optionalMember "timestamp" (fun t : UInt64 => .ofInt t.toNat) timestamp)

/-- Writes a frame. -/
def encode (frame : ServerFrame) : String := frame.toJson.text

end ServerFrame

end ChatRelay

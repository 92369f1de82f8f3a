import ChatRelay.Json.Layout
import ChatRelay.Session
import ChatRelay.Store.Partition

/-!
# Messages in JSON

How messages, stored records, subscriptions and cursors are written in JSON and read back.
-/

namespace ChatRelay

open Json

namespace Message

/-- A message as an object with all its fields; a name that is not known is `null`. -/
def toJson (m : Message) : Json :=
  .ofMembers [
    ("message_id", .ofInt m.messageId.toNat),
    ("thread_id", .ofText m.threadId.text),
    ("thread_name", .ofOption .ofText m.threadName),
    ("bucket", .ofInt m.bucket.toInt),
    ("author_id", .ofText m.author),
    ("author_name", .ofOption .ofText m.authorName),
    ("body", .ofText m.body)]

/-- How a message is read. -/
def layout : Layout Message where
  fields := [
    ("message_id", fun j => j.uint64?.isSome),
    ("thread_id", fun j => j.uuid?.isSome),
    ("thread_name", fun j => (j.nullable? text?).isSome),
    ("bucket", fun j => j.int64?.isSome),
    ("author_id", fun j => j.text?.isSome),
    ("author_name", fun j => (j.nullable? text?).isSome),
    ("body", fun j => j.text?.isSome)]
  ofSlots slots := do
    let messageId ← slots.required "message_id" uint64?
    let threadId ← slots.required "thread_id" uuid?
    let threadName ← slots.optional "thread_name" text?
    let bucket ← slots.required "bucket" int64?
    let author ← slots.required "author_id" text?
    let authorName ← slots.optional "author_name" text?
    let body ← slots.required "body" text?
    return { messageId, threadId, threadName, bucket, author, authorName, body }

end Message

namespace Record

/-- A record as an object with all its fields. -/
def toJson (r : Record) : Json :=
  .ofMembers [
    ("message_id", .ofInt r.messageId.toNat),
    ("thread_id", .ofText r.threadId.text),
    ("bucket", .ofInt r.bucket.toInt),
    ("author_id", .ofText r.author),
    ("body", .ofText r.body),
    ("read", .bool r.read),
    ("edited", .bool r.edited),
    ("system_message", .bool r.system)]

/-- How a record is read. -/
def layout : Layout Record where
  fields := [
    ("message_id", fun j => j.uint64?.isSome),
    ("thread_id", fun j => j.uuid?.isSome),
    ("bucket", fun j => j.int64?.isSome),
    ("author_id", fun j => j.text?.isSome),
    ("body", fun j => j.text?.isSome),
    ("read", fun j => j.bool?.isSome),
    ("edited", fun j => j.bool?.isSome),
    ("system_message", fun j => j.bool?.isSome)]
  ofSlots slots := do
    let messageId ← slots.required "message_id" uint64?
    let threadId ← slots.required "thread_id" uuid?
    let bucket ← slots.required "bucket" int64?
    let author ← slots.required "author_id" text?
    let body ← slots.required "body" text?
    let read ← slots.required "read" bool?
    let edited ← slots.required "edited" bool?
    let system ← slots.required "system_message" bool?
    return { messageId, threadId, bucket, author, body, read, edited, system }

end Record

namespace Subscription

/-- A subscription as an object with all its fields. -/
def toJson (s : Subscription) : Json :=
  .ofMembers [
    ("topic", .ofText s.topic),
    ("joined_at", .ofInt s.joinedAt.toNat),
    ("subscription_id", .ofText s.subscriptionId)]

/-- How a subscription is read. -/
def layout : Layout Subscription where
  fields := [
    ("topic", fun j => j.text?.isSome),
    ("joined_at", fun j => j.uint64?.isSome),
    ("subscription_id", fun j => j.text?.isSome)]
  ofSlots slots := do
    let topic ← slots.required "topic" text?
    let joinedAt ← slots.required "joined_at" uint64?
    let subscriptionId ← slots.required "subscription_id" text?
    return { topic, joinedAt, subscriptionId }

end Subscription

namespace Cursor

/-- A cursor is written as its token. -/
def toJson (c : Cursor) : Json := .ofText c.token

/-- The cursor that a value is. -/
def ofJson? (j : Json) : Option Cursor := j.text?.map Cursor.mk

end Cursor

end ChatRelay

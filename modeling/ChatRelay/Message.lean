import ChatRelay.Bucket
import ChatRelay.Uuid

/-!
# Messages

A message is minted once, with one identifier and one bucket, and then goes to every member of its
thread but the author. The instant of its creation is not stored: it is in the identifier. Each
user keeps a record of each message that reached or left them.
-/

namespace ChatRelay

/-- A user's name. -/
abbrev UserId := String

/-- The identifier of a thread, which holds the thread's time of creation if it is time-based. -/
abbrev ThreadId := Uuid

/-- A message that has no identifier yet. -/
structure Draft where
  threadId : ThreadId
  threadName : Option String := none
  author : UserId
  authorName : Option String := none
  body : String
  deriving DecidableEq, Repr

/-- A message on its way to its recipients. -/
structure Message where
  messageId : MessageId
  threadId : ThreadId
  threadName : Option String
  bucket : Bucket
  author : UserId
  authorName : Option String
  body : String
  deriving DecidableEq, Repr

/-- The message that a draft becomes with an identifier and a bucket. -/
def Draft.send (draft : Draft) (messageId : MessageId) (bucket : Bucket) : Message :=
  { messageId, bucket
    threadId := draft.threadId
    threadName := draft.threadName
    author := draft.author
    authorName := draft.authorName
    body := draft.body }

/-- A stored message as one user sees it. -/
structure Record where
  messageId : MessageId
  threadId : ThreadId
  bucket : Bucket
  author : UserId
  body : String
  /-- Whether the user has read the message. -/
  read : Bool := false
  /-- Whether the message was changed. -/
  edited : Bool := false
  /-- Whether the message comes from the system. -/
  system : Bool := false
  deriving DecidableEq, Repr

namespace Record

/-- The unread record of a message. -/
def ofMessage (message : Message) : Record :=
  { messageId := message.messageId
    threadId := message.threadId
    bucket := message.bucket
    author := message.author
    body := message.body }

/-- The record with another read flag. -/
def withRead (record : Record) (read : Bool) : Record := { record with read }

end Record

/-! ## Fanout -/

/-- The names of a list that are not among `seen`, each at its first occurrence. -/
def newNames (seen : List UserId) : List UserId → List UserId
  | [] => []
  | name :: names =>
    if name ∈ seen then newNames seen names else name :: newNames (name :: seen) names

/-- The members who receive a message of an author: everybody else, once, in the order of the
list. -/
def recipients (author : UserId) (members : List UserId) : List UserId :=
  newNames [author] members

/-- A minted message with its recipients. -/
structure Fanout where
  message : Message
  recipients : List UserId
  deriving DecidableEq, Repr

/-- The fanout of a draft that was given an identifier. -/
def Fanout.ofDraft (index : BucketIndex) (id : MessageId) (draft : Draft) (members : List UserId) :
    Fanout :=
  { message := draft.send id (index.ofId id)
    recipients := ChatRelay.recipients draft.author members }

end ChatRelay

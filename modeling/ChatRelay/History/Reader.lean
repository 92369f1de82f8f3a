import ChatRelay.Store

/-!
# Reading a thread's buckets

What one user can read of one thread, as a function from questions to pages. The questions that a
history asks are data, so that the order in which it asks them can be spoken about. Readers that
fail in some buckets or give more than they were asked for are built from others.
-/

namespace ChatRelay

/-- A question about one bucket. -/
inductive Question where
  /-- At most `limit` records, from the cursor on if there is one. -/
  | page (bucket : Bucket) (limit : Nat) (cursor : Option Cursor)
  /-- At most `limit` records that are older than a message. -/
  | before (bucket : Bucket) (limit : Nat) (id : MessageId)
  deriving DecidableEq, Repr

namespace Question

/-- The bucket that is asked about. -/
def bucket : Question → Bucket
  | page bucket _ _ => bucket
  | before bucket _ _ => bucket

/-- The largest number of records that is asked for. -/
def limit : Question → Nat
  | page _ limit _ => limit
  | before _ limit _ => limit

/-- The question with another limit. -/
def withLimit (limit : Nat) : Question → Question
  | page bucket _ cursor => page bucket limit cursor
  | before bucket _ id => before bucket limit id

end Question

/-- What answers questions about one user's records of one thread. -/
abbrev Reader := Question → Except StoreError Page

/-- Answers from a store. A cursor is understood before the partition is looked at. -/
def Store.reader (s : Store) (user : UserId) (thread : ThreadId) : Reader
  | .page bucket limit none => .ok ((s.partition user thread bucket).page 0 limit)
  | .page bucket limit (some cursor) =>
    match cursor.offset? with
    | some offset => .ok ((s.partition user thread bucket).page offset limit)
    | none => .error (.invalidCursor cursor.token)
  | .before bucket limit id => .ok ((s.partition user thread bucket).pageBefore id limit)

namespace Reader

/-- A reader that cannot answer about some buckets. -/
def failingIn (reader : Reader) (buckets : List Bucket) (reason : String) : Reader :=
  fun question => if question.bucket ∈ buckets then .error (.unavailable reason) else reader question

/-- A reader that gives all that there is, however little it was asked for. -/
def withoutLimit (reader : Reader) : Reader := fun question =>
  reader (question.withLimit (UInt64.size - 1))

end Reader

end ChatRelay

import ChatRelay.History.Reader

/-!
# History pages

A page of a thread's history, newest first. Its first records come from one bucket; while the page
is not full, older buckets are read one after the other, down to the bucket in which the thread was
created and never below bucket zero. Each is asked only for what is still missing. A page comes
with the cursor of the bucket that was read last, if that bucket has more.

`History.fetch` also gives the questions that it asked, in their order, with its outcome. There is
no bucket before the least one: a fetch that starts there and is answered comes to no outcome of its
own, and the program stops at it (`HistoryError.overflow`).
-/

namespace ChatRelay

/-- Where to start reading. -/
structure HistoryQuery where
  /-- The first bucket; the current one if there is none. -/
  bucket : Option Bucket := none
  /-- Only messages older than this one, together with `bucket`. -/
  before : Option MessageId := none
  /-- Where to resume in `bucket`. -/
  cursor : Option Cursor := none
  deriving DecidableEq, Repr

/-- Where a bucket goes on. -/
structure Resumption where
  bucket : Bucket
  cursor : Cursor
  deriving DecidableEq, Repr

/-- A page of history. -/
structure HistoryPage where
  /-- Newest first. -/
  records : List Record := []
  /-- Where the bucket that was read last goes on. -/
  next : Option Resumption := none
  deriving DecidableEq, Repr

/-- Why there is no page. -/
inductive HistoryError where
  | bucketQuery (bucket : Bucket) (cause : StoreError)
  | threadLookup (thread : ThreadId) (cause : StoreError)
  /-- The number before that of the first bucket is out of range. Nobody is told: the program stops
  where it computes it. -/
  | overflow
  deriving DecidableEq, Repr

/-- The wording of an error. -/
def HistoryError.message : HistoryError → String
  | bucketQuery bucket cause => s!"History query for bucket {bucket} failed: {cause.message}"
  | threadLookup thread cause =>
    s!"Creation time lookup for thread {thread.text} failed: {cause.message}"
  | overflow => "attempt to subtract with overflow"

/-- What a history asks for. -/
inductive HistoryCall where
  | ask (question : Question)
  | lookUp (thread : ThreadId)
  deriving DecidableEq, Repr

/-- An outcome, with what was asked for on the way to it. -/
structure Fetch where
  calls : List HistoryCall
  outcome : Except HistoryError HistoryPage

/-- How pages are put together. -/
structure History where
  index : BucketIndex
  pageSize : Nat
  pageSize_pos : 0 < pageSize
  deriving DecidableEq, Repr

/-- The bucket before another one, if there is a number for it. -/
def Bucket.before? (bucket : Bucket) : Option Bucket :=
  if bucket = Int64.minValue then none else some (bucket - 1)

namespace HistoryPage

/-- The page with the records of one more bucket, at most `missing` of them. -/
def extend (page : HistoryPage) (bucket : Bucket) (missing : Nat) (more : Page) : HistoryPage :=
  { records := page.records ++ more.records.take missing
    next := more.next.map fun cursor => { bucket, cursor } }

/-- The first page of a history counts as a sign that its newest message was read. Gives the page
with that read flag and the record that has yet to be marked in the store; a page that resumes from
a cursor marks nothing. -/
def markFirst (query : HistoryQuery) (page : HistoryPage) : HistoryPage × Option Record :=
  match query.cursor, page.records with
  | none, newest :: older =>
    if newest.read then (page, none)
    else ({ page with records := newest.withRead true :: older }, some newest)
  | _, _ => (page, none)

end HistoryPage

namespace History

/-- A history with a page size. -/
def make (index : BucketIndex) (pageSize : Nat) : Except SettingError History :=
  if h : 0 < pageSize then .ok { index, pageSize, pageSize_pos := h } else .error .pageSize

/-- The question about the newest records. -/
def newest (h : History) (now : Millis) : Question :=
  .page (h.index.atInstant now) h.pageSize none

/-- The first question. A bucket with a bound on identifiers is taken as it is; a negative bucket
without one stands for the current bucket, as no bucket does. -/
def firstQuestion (h : History) (now : Millis) (query : HistoryQuery) : Question :=
  match query.bucket, query.before with
  | some bucket, some id => .before bucket h.pageSize id
  | some bucket, none =>
    if 0 ≤ bucket then .page bucket h.pageSize query.cursor else h.newest now
  | none, _ => h.newest now

/-- Reads `count` buckets from `bucket` on downwards until the page is full. `calls` is what was
asked before, last first. -/
def walk (h : History) (reader : Reader) (calls : List HistoryCall) (page : HistoryPage)
    (bucket : Bucket) : (count : Nat) → Fetch
  | 0 => { calls := calls.reverse, outcome := .ok page }
  | count + 1 =>
    let missing := h.pageSize - page.records.length
    let question := .page bucket missing none
    let calls := .ask question :: calls
    match reader question with
    | .error cause => { calls := calls.reverse, outcome := .error (.bucketQuery bucket cause) }
    | .ok more =>
      let page := page.extend bucket missing more
      if h.pageSize ≤ page.records.length then { calls := calls.reverse, outcome := .ok page }
      else h.walk reader calls page (bucket - 1) count

/-- The buckets that may have to be read after the first one. -/
def older (h : History) (created : Millis) (next : Bucket) : BucketRange :=
  h.index.fromTimestamp (max 0 (h.index.relative created)) next

/-- Goes on with a page that starts in a bucket, given the bucket before it and what the first
question brought. -/
def goOn (h : History) (reader : Reader) (lookUp : ThreadLookup) (thread : ThreadId)
    (question : Question) (page : HistoryPage) (next : Bucket) : Fetch :=
  if h.pageSize ≤ page.records.length ∨ next < 0 then
    { calls := [.ask question], outcome := .ok page }
  else
    let calls := [.lookUp thread, .ask question]
    match lookUp thread with
    | .error cause => { calls := calls.reverse, outcome := .error (.threadLookup thread cause) }
    | .ok created => h.walk reader calls page next (h.older created next).size

/-- Fetches a page of a thread. The bucket before the first one is computed as soon as the first
question is answered, also where nothing is read from it. -/
def fetch (h : History) (reader : Reader) (lookUp : ThreadLookup) (now : Millis)
    (thread : ThreadId) (query : HistoryQuery) : Fetch :=
  let question := h.firstQuestion now query
  let bucket := question.bucket
  match reader question with
  | .error cause => { calls := [.ask question], outcome := .error (.bucketQuery bucket cause) }
  | .ok first =>
    match bucket.before? with
    | none => { calls := [.ask question], outcome := .error .overflow }
    | some next =>
      h.goOn reader lookUp thread question (.extend {} bucket h.pageSize first) next

/-- Fetches a page and tells which record has yet to be marked as read. -/
def fetchMarking (h : History) (reader : Reader) (lookUp : ThreadLookup) (now : Millis)
    (thread : ThreadId) (query : HistoryQuery) :
    List HistoryCall × Except HistoryError (HistoryPage × Option Record) :=
  let fetched := h.fetch reader lookUp now thread query
  (fetched.calls, fetched.outcome.map (·.markFirst query))

end History

end ChatRelay

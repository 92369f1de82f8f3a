import ChatRelay.Proofs.Creation
import ChatRelay.Proofs.History.Exhaustion
import ChatRelay.Proofs.History.Questions
import ChatRelay.Proofs.Present

/-!
# Numbers that stay in their range

Numbers of buckets and relative times are signed and have 64 bits, the number of missing records is
a natural one. `History.fetch?` is a fetch that computes each of them as an integer and goes on only
if it is in range. It does nothing else than a fetch does, which looks at one number only, that of
the bucket before the first one (`fetch?_eq_fetch`). This number is out of range for a request for
older messages from the least bucket on, and such a request stops the program
(`least_bucket_overflows`).
-/

namespace ChatRelay

namespace Checked

/-- An integer as a signed number, if it has 64 bits. -/
def signed? (n : Int) : Option Int64 :=
  if -2 ^ 63 ≤ n ∧ n < 2 ^ 63 then some (Int64.ofInt n) else none

/-- An integer as a natural number, if it is one. -/
def natural? (n : Int) : Option Nat := if 0 ≤ n then some n.toNat else none

theorem signed?_of_toInt {n : Int} (b : Int64) (h : b.toInt = n) : signed? n = some b := by
  obtain rfl := h
  have hle := b.le_toInt
  have hlt := b.toInt_lt
  rw [signed?, if_pos ⟨by omega, by omega⟩, Int64.ofInt_toInt]

theorem natural?_sub {m n : Nat} (h : m ≤ n) : natural? ((n : Int) - m) = some (n - m) := by
  rw [natural?, if_pos (by omega)]
  congr 1
  omega

/-- The least number has none before it. -/
theorem signed?_before_least : signed? (Int64.minValue.toInt - 1) = none := by decide

theorem signed?_pred {b : Bucket} (h : b ≠ Int64.minValue) :
    signed? (b.toInt - 1) = some (b - 1) := signed?_of_toInt _ (Bucket.toInt_pred h)

end Checked

open Checked

namespace BucketIndex

variable (index : BucketIndex)

/-- The bucket of a relative time, if its number is in range. -/
def ofTimestamp? (timestamp : Int64) : Option Bucket :=
  signed? (timestamp.toInt / index.size.toInt)

/-- An instant relative to the epoch, if both instant and difference are in range. -/
def relative? (instant : Millis) : Option Int64 := do
  let instant ← signed? instant.toNat
  signed? (instant.toInt - index.epoch.toInt)

/-- The bucket of an instant, if no number on the way to it leaves its range. -/
def atInstant? (instant : Millis) : Option Bucket := do
  let timestamp ← index.relative? instant
  index.ofTimestamp? timestamp

/-- Dividing by the size stays in range, whatever the time is. -/
theorem ofTimestamp?_eq (timestamp : Int64) :
    index.ofTimestamp? timestamp = some (index.ofTimestamp timestamp) :=
  signed?_of_toInt _ (index.toInt_ofTimestamp timestamp)

theorem toInt_toInt64_of_lt {instant : Millis} (h : instant.toNat < 2 ^ 63) :
    instant.toInt64.toInt = instant.toNat := by
  rw [toInt_toInt64]
  exact Int.bmod_eq_of_le (by omega) (by omega)

section Epoch

variable {epoch instant : Millis} (hepoch : index.epoch = epoch.toInt64)
  (hsmall : epoch.toNat < 2 ^ 63) (hinstant : instant.toNat < 2 ^ 63)
include hepoch hsmall hinstant

/-- Taking an instant relative to the epoch stays in range, if both are below 2 ^ 63. -/
theorem relative?_eq : index.relative? instant = some (index.relative instant) := by
  have hrelative : (index.relative instant).toInt = instant.toNat - epoch.toNat :=
    index.toInt_relative hepoch (by omega) (by omega)
  rw [relative?, signed?_of_toInt _ (toInt_toInt64_of_lt hinstant)]
  refine signed?_of_toInt _ ?_
  rw [hrelative, toInt_toInt64_of_lt hinstant, hepoch, toInt_toInt64_of_lt hsmall]

theorem atInstant?_eq : index.atInstant? instant = some (index.atInstant instant) := by
  rw [atInstant?, index.relative?_eq hepoch hsmall hinstant]
  exact index.ofTimestamp?_eq _

/-- There is a bucket before that of an instant below 2 ^ 63. -/
theorem atInstant_ne_least : index.atInstant instant ≠ Int64.minValue := by
  have hsize := index.size_toInt_pos
  have hbucket : (index.atInstant instant).toInt =
      ((instant.toNat : Int) - epoch.toNat) / index.size.toInt := by
    rw [atInstant, index.toInt_ofTimestamp, index.toInt_relative hepoch (by omega) (by omega)]
  have hle : -(2 ^ 63 - 1) ≤ ((instant.toNat : Int) - epoch.toNat) / index.size.toInt :=
    Int.le_ediv_of_mul_le hsize (by omega)
  intro hleast
  rw [hleast, Int64.toInt_minValue] at hbucket
  omega

end Epoch

end BucketIndex

namespace History

variable (h : History)

/-- The first question, if no number on the way to it leaves its range. -/
def firstQuestion? (now : Millis) (query : HistoryQuery) : Option Question :=
  let newest? := (h.index.atInstant? now).map fun bucket => .page bucket h.pageSize none
  match query.bucket, query.before with
  | some bucket, some id => some (.before bucket h.pageSize id)
  | some bucket, none =>
    if 0 ≤ bucket then some (.page bucket h.pageSize query.cursor) else newest?
  | none, _ => newest?

/-- The walk, as long as no number leaves its range. -/
def walk? (reader : Reader) (calls : List HistoryCall) (page : HistoryPage) (bucket : Bucket) :
    (count : Nat) → Option Fetch
  | 0 => some { calls := calls.reverse, outcome := .ok page }
  | count + 1 => do
    let missing ← natural? (h.pageSize - page.records.length)
    let question := .page bucket missing none
    let calls := .ask question :: calls
    match reader question with
    | .error cause =>
      some { calls := calls.reverse, outcome := .error (.bucketQuery bucket cause) }
    | .ok more =>
      let page := page.extend bucket missing more
      if h.pageSize ≤ page.records.length then some { calls := calls.reverse, outcome := .ok page }
      else
        let next ← signed? (bucket.toInt - 1)
        walk? reader calls page next count

/-- What comes after the first question, as long as no number leaves its range. -/
def goOn? (reader : Reader) (lookUp : ThreadLookup) (thread : ThreadId) (question : Question)
    (page : HistoryPage) (next : Bucket) : Option Fetch :=
  if h.pageSize ≤ page.records.length ∨ next < 0 then
    some { calls := [.ask question], outcome := .ok page }
  else
    let calls := [.lookUp thread, .ask question]
    match lookUp thread with
    | .error cause =>
      some { calls := calls.reverse, outcome := .error (.threadLookup thread cause) }
    | .ok created => do
      let relative ← h.index.relative? created
      let oldest ← h.index.ofTimestamp? (max 0 relative)
      h.walk? reader calls page next (BucketRange.mk oldest next).size

/-- A fetch, as long as no number leaves its range. -/
def fetch? (reader : Reader) (lookUp : ThreadLookup) (now : Millis) (thread : ThreadId)
    (query : HistoryQuery) : Option Fetch := do
  let question ← h.firstQuestion? now query
  let bucket := question.bucket
  match reader question with
  | .error cause => some { calls := [.ask question], outcome := .error (.bucketQuery bucket cause) }
  | .ok first =>
    let next ← signed? (bucket.toInt - 1)
    h.goOn? reader lookUp thread question (.extend {} bucket h.pageSize first) next

/-! ## Nothing leaves its range -/

variable {reader : Reader} {lookUp : ThreadLookup} {now created : Millis} {thread : ThreadId}
  {query : HistoryQuery} {page : HistoryPage}

/-- **The walk stays in range**: the page has room, and no bucket is negative. -/
theorem walk?_eq (calls : List HistoryCall) {bucket : Bucket} {count : Nat}
    (hlen : page.records.length < h.pageSize) (hcount : count ≤ bucket.toInt + 1) :
    h.walk? reader calls page bucket count = some (h.walk reader calls page bucket count) := by
  induction count generalizing calls page bucket with
  | zero => rfl
  | succ count ih =>
    have hbucket := Bucket.ne_minValue_of_nonneg (b := bucket) (by omega)
    have hpred := Bucket.toInt_pred hbucket
    rw [walk?, walk, natural?_sub (Nat.le_of_lt hlen)]
    simp only [Option.bind_eq_bind, Option.bind_some]
    cases reader (.page bucket (h.pageSize - page.records.length) none) with
    | error cause => rfl
    | ok more =>
      dsimp only
      by_cases hfull : h.pageSize ≤
          (page.extend bucket (h.pageSize - page.records.length) more).records.length
      · rw [if_pos hfull, if_pos hfull]
      · rw [if_neg hfull, if_neg hfull, signed?_pred hbucket, Option.bind_some]
        exact ih _ (Nat.lt_of_not_le hfull) (by omega)

section Generator

variable {g : Generator} (hepoch : h.index.epoch = g.epoch.toInt64)
  (hsmall : g.epoch.toNat < 2 ^ 63) (hnow : now.toNat < 2 ^ 63)
include hepoch hsmall hnow

theorem firstQuestion?_eq (query : HistoryQuery) :
    h.firstQuestion? now query = some (h.firstQuestion now query) := by
  have hpresent := h.index.atInstant?_eq hepoch hsmall hnow
  rcases query with ⟨_ | bucket, _ | id, cursor⟩ <;>
    simp only [firstQuestion?, firstQuestion, hpresent, Option.map_some]
  · rfl
  · rfl
  · split <;> rfl

/-- Only a request for older messages from the least bucket on starts in the least bucket. -/
theorem firstBucket_eq_least_iff :
    h.firstBucket now query = Int64.minValue ↔
      query.bucket = some Int64.minValue ∧ query.before ≠ none := by
  have hpresent := h.index.atInstant_ne_least hepoch hsmall hnow
  rcases query with ⟨_ | bucket, _ | id, cursor⟩ <;> simp only [firstBucket]
  · simp [hpresent]
  · simp [hpresent]
  · split
    next hnonneg =>
      have hbucket : bucket ≠ Int64.minValue := by
        rintro rfl
        exact absurd hnonneg (by decide)
      simp [hbucket]
    next => simp [hpresent]
  · simp

omit hnow in
/-- **What comes after the first question stays in range**, whatever bucket it was about. -/
theorem goOn?_eq (question : Question) (next : Bucket)
    (hcreated : ∀ created, lookUp thread = .ok created → created.toNat < 2 ^ 63) :
    h.goOn? reader lookUp thread question page next =
      some (h.goOn reader lookUp thread question page next) := by
  rw [goOn?, goOn]
  by_cases hend : h.pageSize ≤ page.records.length ∨ next < 0
  · rw [if_pos hend, if_pos hend]
  · rw [if_neg hend, if_neg hend]
    cases hlookUp : lookUp thread with
    | error cause => rfl
    | ok created =>
      obtain ⟨hshort, hnonneg⟩ := not_or.1 hend
      rw [Int64.lt_iff_toInt_lt, Int64.toInt_zero] at hnonneg
      simp only [Option.bind_eq_bind]
      rw [h.index.relative?_eq hepoch hsmall (hcreated created hlookUp), Option.bind_some,
        h.index.ofTimestamp?_eq, Option.bind_some]
      exact h.walk?_eq _ (Nat.lt_of_not_le hshort) (h.older_size_le created (by omega))

end Generator

/-- **Where numbers leave their range.** With an epoch and a present below 2 ^ 63 and threads whose
identifiers hold the time of their creation, a fetch leaves the range of a number exactly if it is
asked for older messages from the least bucket on and the store answers: there is no bucket before
this one. There the program stops, after one question and also where this fills the page. Every
other fetch computes all numbers as if they had no range, and does not stop the program. -/
theorem fetch?_eq_fetch {g : Generator} {size : Int64}
    (hindex : BucketIndex.forGenerator g size = .ok h.index) (hsmall : g.epoch.toNat < 2 ^ 63)
    (hnow : now.toNat < 2 ^ 63) :
    (h.fetch? reader .embedded now thread query = none ↔
      (query.bucket = some Int64.minValue ∧ query.before ≠ none) ∧
        ∃ first, reader (h.firstQuestion now query) = .ok first) ∧
    (h.fetch? reader .embedded now thread query = none →
      h.fetch reader .embedded now thread query =
        { calls := [.ask (h.firstQuestion now query)], outcome := .error .overflow }) ∧
    (h.fetch? reader .embedded now thread query ≠ none →
      h.fetch? reader .embedded now thread query =
        some (h.fetch reader .embedded now thread query) ∧
      (h.fetch reader .embedded now thread query).outcome ≠ .error .overflow) := by
  have hepoch := (BucketIndex.settings_forGenerator hindex).2
  have hquestion := h.firstQuestion?_eq hepoch hsmall hnow query
  rw [← h.firstBucket_eq_least_iff hepoch hsmall hnow, ← h.firstQuestion_bucket, fetch?, hquestion]
  simp only [Option.bind_eq_bind, Option.bind_some]
  rcases h.fetch_cases reader .embedded now thread query with
    ⟨cause, hread, hfetch⟩ | ⟨first, hread, hleast, hfetch⟩ | ⟨first, hread, hstart, hfetch⟩
  · rw [hread, hfetch]
    simp
  · rw [hread, hfetch, hleast]
    dsimp only
    rw [signed?_before_least, Option.bind_none]
    simp
  · rw [hread, hfetch]
    dsimp only
    rw [signed?_pred hstart, Option.bind_some,
      h.goOn?_eq hepoch hsmall _ _ fun _ => ThreadLookup.embedded_lt]
    simp [hstart, goOn_ne_overflow]

/-! ## The least bucket -/

/-- A generator of time since 1970. -/
def sinceUnixEpoch : Generator :=
  { epoch := 0, node := ⟨1, MessageId.one_lt_nodeCount⟩, tolerance := 1000, last := 1499
    sequence := ⟨1, MessageId.one_lt_sequenceCount⟩ }

/-- A thread that was created at the start of 1970. -/
def firstThread : ThreadId := ⟨0x70008000000000000000⟩

/-- A store with a record of the greatest bucket. -/
def farthest : Store :=
  Store.empty.insert "ann"
    { messageId := 1, threadId := firstThread, bucket := Int64.maxValue, author := "bob"
      body := "last" }

/-- The request for older messages from the least bucket on. -/
def fromLeast : HistoryQuery := { bucket := some Int64.minValue, before := some 5 }

/-- A request for older messages from the least bucket on stops the program. -/
theorem least_bucket_overflows :
    BucketIndex.forGenerator sinceUnixEpoch 1000 = .ok singles.index ∧
    singles.fetch? (farthest.reader "ann" firstThread) .embedded 1500 firstThread fromLeast =
      none ∧
    singles.fetch (farthest.reader "ann" firstThread) .embedded 1500 firstThread fromLeast =
      { calls := [.ask (.before Int64.minValue 1 5)], outcome := .error .overflow } :=
  ⟨rfl, rfl, rfl⟩

/-- What the general statement says of this request, and of one for the newest messages. -/
theorem fetch?_eq_fetch_newest :
    BucketIndex.forGenerator sinceUnixEpoch 1000 = .ok singles.index ∧
    sinceUnixEpoch.epoch.toNat < 2 ^ 63 ∧ (1500 : Millis).toNat < 2 ^ 63 ∧
    singles.fetch? (farthest.reader "ann" firstThread) .embedded 1500 firstThread fromLeast =
      none ∧
    (singles.fetch (farthest.reader "ann" firstThread) .embedded 1500 firstThread
      fromLeast).outcome = .error .overflow ∧
    singles.fetch? (farthest.reader "ann" firstThread) .embedded 1500 firstThread {} =
      some (singles.fetch (farthest.reader "ann" firstThread) .embedded 1500 firstThread {}) := by
  have hindex : BucketIndex.forGenerator sinceUnixEpoch 1000 = .ok singles.index := rfl
  have hsmall : sinceUnixEpoch.epoch.toNat < 2 ^ 63 := by decide
  have hnow : (1500 : Millis).toNat < 2 ^ 63 := by decide
  have hnone : singles.fetch? (farthest.reader "ann" firstThread) .embedded 1500 firstThread
      fromLeast = none :=
    (singles.fetch?_eq_fetch hindex hsmall hnow).1.2 ⟨⟨rfl, by decide⟩, _, rfl⟩
  have hstop := (singles.fetch?_eq_fetch hindex hsmall hnow).2.1 hnone
  refine ⟨hindex, hsmall, hnow, hnone, congrArg Fetch.outcome hstop, ?_⟩
  refine ((singles.fetch?_eq_fetch hindex hsmall hnow).2.2 fun hnone => ?_).1
  have hleast := ((singles.fetch?_eq_fetch hindex hsmall hnow).1.1 hnone).1.1
  exact nomatch hleast

end History

end ChatRelay

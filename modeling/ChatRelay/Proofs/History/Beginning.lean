import ChatRelay.Proofs.History.Scroll

/-!
# A page is the beginning of one list

However many buckets a page is put together from, it is what one takes from the front of a single
list: the records that the first question is about, and then the older buckets, whole partition
after whole partition (`fetch_eq_take`). The list is newest first, so that the identifiers of a page
decrease where every record is filed under its identifier.
-/

namespace ChatRelay.History

variable (h : History) {s : Store} {user : UserId} {thread : ThreadId} {lookUp : ThreadLookup}
  {now created : Millis} {query : HistoryQuery} {page : HistoryPage}

/-- The bucket that a page starts in. -/
def firstBucket (now : Millis) (query : HistoryQuery) : Bucket :=
  match query.bucket, query.before with
  | some bucket, some _ => bucket
  | some bucket, none => if 0 ≤ bucket then bucket else h.index.atInstant now
  | none, _ => h.index.atInstant now

/-- The records that a page starts with, however many they are: the older ones than a message, the
ones from a cursor on, or a whole partition. There are none to speak of, `none`, if the cursor means
nothing. -/
def firstRows? (s : Store) (user : UserId) (thread : ThreadId) (now : Millis)
    (query : HistoryQuery) : Option (List Record) :=
  match query.bucket, query.before with
  | some bucket, some id =>
    some ((s.partition user thread bucket).records.filter (·.messageId < id))
  | some bucket, none =>
    if 0 ≤ bucket then
      match query.cursor with
      | none => some (s.partition user thread bucket).records
      | some cursor =>
        cursor.offset?.map fun offset => (s.partition user thread bucket).records.drop offset
    else some (s.partition user thread (h.index.atInstant now)).records
  | none, _ => some (s.partition user thread (h.index.atInstant now)).records

theorem firstQuestion_bucket (now : Millis) (query : HistoryQuery) :
    (h.firstQuestion now query).bucket = h.firstBucket now query := by
  rcases query with ⟨_ | bucket, _ | id, cursor⟩ <;> simp only [firstQuestion, firstBucket]
  · rfl
  · rfl
  · split <;> rfl
  · rfl

/-- The first question asks for these records. -/
theorem asked?_firstQuestion (s : Store) (user : UserId) (thread : ThreadId) (now : Millis)
    (query : HistoryQuery) :
    s.asked? user thread (h.firstQuestion now query) = h.firstRows? s user thread now query := by
  rcases query with ⟨_ | bucket, _ | id, cursor⟩ <;> simp only [firstQuestion, firstRows?]
  · rfl
  · rfl
  · split
    · cases cursor <;> rfl
    · rfl
  · rw [Store.asked?, Partition.drop_offsetBefore]

/-- **A page is the beginning of one list.** A fetch that succeeds gives the first records, as many
as fit on a page, of what its first question is about followed by the whole partitions of all older
buckets, one after the other down to that of the thread's creation or bucket zero. The list goes
from newer to older records; where records are filed under their identifiers, the identifiers of the
page strictly decrease. The page must not start in the least bucket, which has none below it. -/
theorem fetch_eq_take (hcreated : lookUp thread = .ok created)
    (hstart : h.firstBucket now query ≠ Int64.minValue)
    (hpage : (h.fetch (s.reader user thread) lookUp now thread query).outcome = .ok page) :
    ∃ (first : List Record) (older : List Bucket),
      h.firstRows? s user thread now query = some first ∧
      (∀ bucket, bucket ∈ older ↔
        h.index.ofTimestamp (max 0 (h.index.relative created)) ≤ bucket ∧
          bucket < h.firstBucket now query) ∧
      older.Pairwise (· > ·) ∧
      page.records = (first ++ older.flatMap fun bucket =>
        (s.partition user thread bucket).records).take h.pageSize ∧
      page.records.Pairwise Record.NewerThan ∧
      ((∀ bucket, ∀ r ∈ (s.partition user thread bucket).records,
          r.bucket = h.index.ofId r.messageId) →
        page.records.Pairwise fun a b => b.messageId < a.messageId) := by
  rw [← h.firstQuestion_bucket] at hstart ⊢
  obtain ⟨content, hcontent, hrecords, -⟩ := h.isFirst_of_fetch hcreated hstart hpage
  obtain ⟨first, hasked, rfl⟩ := Option.map_eq_some_iff.1 hcontent
  have horder : page.records.Pairwise Record.NewerThan := by
    rw [hrecords]
    exact (h.content_newerThan hcontent hstart).sublist (List.take_sublist _ _)
  refine ⟨first, h.below created (h.firstQuestion now query).bucket, ?_, fun bucket => ?_, ?_,
    hrecords, horder, fun hfiled => ?_⟩
  · rw [← h.asked?_firstQuestion, hasked]
  · exact h.mem_below hstart
  · exact (List.pairwise_cons.1 (h.reach_pairwise created hstart)).2
  · -- each record of the page stands in a partition
    have hbucket : ∀ r ∈ page.records, r.bucket = h.index.ofId r.messageId := by
      intro r hr
      rw [hrecords] at hr
      have hmem := (h.content_suffix hcontent).subset (List.mem_of_mem_take hr)
      exact hfiled r.bucket r ((s.mem_rows user thread).1 hmem).2
    exact horder.imp_of_mem fun ha hb hnewer =>
      hnewer.messageId_lt (hbucket _ ha) (hbucket _ hb)

/-- What the general statement says of a page before the newest of three records: an older one from
the same bucket, none from the next and one from bucket zero. -/
theorem fetch_eq_take_three :
    couples.firstBucket 2500 (.olderThan (recordAt 2001 "third")) ≠ Int64.minValue ∧
      ∃ page, (couples.fetch (threeRecords.reader "ann" ⟨0⟩) atEpoch 2500 ⟨0⟩
          (.olderThan (recordAt 2001 "third"))).outcome = .ok page ∧
        page.records = [recordAt 2000 "second", recordAt 1 "first"] ∧
        page.records.Pairwise fun a b => b.messageId < a.messageId := by
  have hcreated : atEpoch ⟨0⟩ = .ok 0 := rfl
  have hstart : couples.firstBucket 2500 (.olderThan (recordAt 2001 "third")) ≠ Int64.minValue := by
    decide
  have hpage : (couples.fetch (threeRecords.reader "ann" ⟨0⟩) atEpoch 2500 ⟨0⟩
      (.olderThan (recordAt 2001 "third"))).outcome =
        .ok { records := [recordAt 2000 "second", recordAt 1 "first"] } := by rfl
  obtain ⟨first, older, hfirst, -, -, -, -, hdecreasing⟩ :=
    couples.fetch_eq_take hcreated hstart hpage
  refine ⟨hstart, _, hpage, rfl, hdecreasing fun bucket r hr => ?_⟩
  -- a record that is there was stored, and each one was stored in its bucket
  rcases Store.mem_partition_insert _ hr with rfl | hr
  · rfl
  rcases Store.mem_partition_insert _ hr with rfl | hr
  · rfl
  rcases Store.mem_partition_insert _ hr with rfl | hr
  · rfl
  · exact absurd hr List.not_mem_nil

end ChatRelay.History

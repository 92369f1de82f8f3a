import ChatRelay.Proofs.History.Questions

/-!
# Pages before a message

A request for what is older than a message names a bucket as well, and the bound on identifiers
goes with the question about this bucket only. The page keeps to the bound if the bucket is not
newer than that of the message; otherwise it brings whole buckets, and keeps to the bound exactly if
there is nothing newer in them (`before_bounds_page`, `newer_bucket_exceeds_bound`).
-/

namespace ChatRelay.History

variable (h : History) {s : Store} {user : UserId} {thread : ThreadId} {lookUp : ThreadLookup}
  {now created : Millis} {bucket : Bucket} {id : MessageId} {page : HistoryPage} {r : Record}

/-- What a request for older messages is about: those of the bucket, and whole older buckets. -/
theorem content?_before (s : Store) (user : UserId) (thread : ThreadId) (created now : Millis)
    (bucket : Bucket) (id : MessageId) :
    h.content? s user thread created
        (h.firstQuestion now { bucket := some bucket, before := some id }) =
      some ((s.partition user thread bucket).records.filter (·.messageId < id) ++
        s.rows user thread (h.below created bucket)) := by
  rw [content?, asked?_firstQuestion]
  rfl

section Filed

variable (hfiled : ∀ bucket, ∀ r ∈ (s.partition user thread bucket).records,
  r.bucket = h.index.ofId r.messageId)
include hfiled

/-- Records of a bucket before that of a message are older than it. -/
theorem messageId_lt_of_bucket_lt (hr : r ∈ (s.partition user thread r.bucket).records)
    (hlt : r.bucket < h.index.ofId id) : r.messageId < id := by
  rw [hfiled r.bucket r hr] at hlt
  rw [← UInt64.not_le]
  intro hle
  have hbuckets := h.index.ofId_mono hle
  rw [Int64.le_iff_toInt_le] at hbuckets
  rw [Int64.lt_iff_toInt_lt] at hlt
  omega

/-- Where records are filed under their identifiers, a page begins with the largest one of all that
it is about. -/
theorem forall_mem_page_lt_iff {content : List Record} {question : Question}
    (hstart : question.bucket ≠ Int64.minValue)
    (hcontent : h.content? s user thread created question = some content) :
    (∀ r ∈ content.take h.pageSize, r.messageId < id) ↔ ∀ r ∈ content, r.messageId < id := by
  refine ⟨fun hpage r hr => ?_, fun hall r hr => hall r (List.mem_of_mem_take hr)⟩
  have hstored : ∀ x ∈ content, x.bucket = h.index.ofId x.messageId := fun x hx =>
    hfiled x.bucket x ((s.mem_rows user thread).1 ((h.content_suffix hcontent).subset hx)).2
  have horder := h.content_newerThan hcontent hstart
  cases content with
  | nil => exact absurd hr List.not_mem_nil
  | cons newest older =>
    obtain ⟨limit, hlimit⟩ := Nat.exists_eq_add_of_lt h.pageSize_pos
    have hnewest : newest.messageId < id := by
      refine hpage newest ?_
      rw [hlimit, Nat.zero_add, List.take_succ_cons]
      exact List.mem_cons_self
    rcases List.mem_cons.1 hr with rfl | holder
    · exact hnewest
    · have hnewer := (List.pairwise_cons.1 horder).1 r holder
      exact UInt64.lt_trans
        (hnewer.messageId_lt (hstored newest List.mem_cons_self) (hstored r hr)) hnewest

/-- **How far the bound of a request for older messages reaches.** The records of the bucket that
the request names are older than the message. So is the whole page if this bucket is not newer than
that of the message. In general it is exactly if the older buckets within reach hold nothing newer,
which are read without the bound. -/
theorem before_bounds_page (hbucket : bucket ≠ Int64.minValue)
    (hpage : (h.fetch (s.reader user thread) lookUp now thread
      { bucket := some bucket, before := some id }).outcome = .ok page) :
    (∀ r ∈ page.records, r.bucket = bucket → r.messageId < id) ∧
    (bucket ≤ h.index.ofId id → ∀ r ∈ page.records, r.messageId < id) ∧
    ∀ created, lookUp thread = .ok created →
      ((∀ r ∈ page.records, r.messageId < id) ↔
        ∀ older, h.oldest created ≤ older → older < bucket →
          ∀ r ∈ (s.partition user thread older).records, r.messageId < id) := by
  have hcontent (created : Millis) := h.content?_before s user thread created now bucket id
  have hstart : (h.firstQuestion now { bucket := some bucket, before := some id }).bucket ≠
      Int64.minValue := hbucket
  -- the first two parts do not depend on the time of creation
  obtain ⟨lookUp', created', hcreated', hfetch⟩ := h.exists_created_of_fetch hpage
  have hmem : ∀ r ∈ page.records, r.bucket = bucket ∧ r.messageId < id ∨
      r.bucket < bucket ∧ r ∈ (s.partition user thread r.bucket).records := by
    intro r hr
    obtain ⟨content, hsome, hrecords, -⟩ :=
      h.isFirst_of_fetch hcreated' hstart (hfetch ▸ hpage)
    obtain rfl := Option.some.inj ((hcontent created').symm.trans hsome)
    rw [hrecords] at hr
    rcases List.mem_append.1 (List.mem_of_mem_take hr) with hr | hr
    · obtain ⟨hr, hlt⟩ := List.mem_filter.1 hr
      exact .inl ⟨s.bucket_of_mem_partition user thread hr, of_decide_eq_true hlt⟩
    · exact .inr ⟨h.lt_of_mem_rows_below hbucket hr, ((s.mem_rows user thread).1 hr).2⟩
  refine ⟨fun r hr heq => ?_, fun hle r hr => ?_, fun created hcreated => ?_⟩
  · rcases hmem r hr with ⟨-, hlt⟩ | ⟨hlt, -⟩
    · exact hlt
    · exact absurd (heq ▸ hlt) Int64.lt_irrefl
  · rcases hmem r hr with ⟨-, hlt⟩ | ⟨hlt, hr⟩
    · exact hlt
    · refine h.messageId_lt_of_bucket_lt hfiled hr ?_
      rw [Int64.lt_iff_toInt_lt] at hlt ⊢
      rw [Int64.le_iff_toInt_le] at hle
      omega
  · obtain ⟨content, hsome, hrecords, -⟩ := h.isFirst_of_fetch hcreated hstart hpage
    obtain rfl := Option.some.inj ((hcontent created).symm.trans hsome)
    rw [hrecords, h.forall_mem_page_lt_iff hfiled hstart (hcontent created)]
    constructor
    · intro hall older hfrom hto r hr
      obtain rfl := s.bucket_of_mem_partition user thread hr
      exact hall r (List.mem_append_right _
        ((s.mem_rows user thread).2 ⟨(h.mem_below hbucket).2 ⟨hfrom, hto⟩, hr⟩))
    · intro hall r hr
      rcases List.mem_append.1 hr with hr | hr
      · exact of_decide_eq_true (List.mem_filter.1 hr).2
      · obtain ⟨hbelow, hr⟩ := (s.mem_rows user thread).1 hr
        obtain ⟨hfrom, hto⟩ := (h.mem_below hbucket).1 hbelow
        exact hall r.bucket hfrom hto r hr

end Filed

/-! ## A bucket that is newer than the message -/

/-- The three records are filed under their identifiers. -/
theorem threeRecords_filed (bucket : Bucket) {r : Record}
    (hr : r ∈ (threeRecords.partition "ann" ⟨0⟩ bucket).records) :
    r.bucket = couples.index.ofId r.messageId := by
  rcases Store.mem_partition_insert _ hr with rfl | hr
  · rfl
  rcases Store.mem_partition_insert _ hr with rfl | hr
  · rfl
  rcases Store.mem_partition_insert _ hr with rfl | hr
  · rfl
  · exact absurd hr List.not_mem_nil

/-- A request for what is older than the second of three messages, from the bucket after theirs on,
brings the second and the third one, and not the first. -/
theorem newer_bucket_exceeds_bound :
    (∀ bucket, ∀ r ∈ (threeRecords.partition "ann" ⟨0⟩ bucket).records,
      r.bucket = couples.index.ofId r.messageId) ∧
    (0 : Bucket) ≤ 3 ∧
    (couples.fetch (threeRecords.reader "ann" ⟨0⟩) atEpoch 3500 ⟨0⟩
      { bucket := some 3, before := some (recordAt 2000 "second").messageId }).outcome =
        .ok { records := [recordAt 2001 "third", recordAt 2000 "second"] } ∧
    ¬(recordAt 2000 "second").messageId < (recordAt 2000 "second").messageId ∧
    ¬(recordAt 2001 "third").messageId < (recordAt 2000 "second").messageId := by
  refine ⟨fun bucket r hr => threeRecords_filed bucket hr, by decide, by rfl, by decide, by decide⟩

/-- What the general statement says of a request from the bucket of the message on. -/
theorem before_bounds_page_three :
    (2 : Bucket) ≠ Int64.minValue ∧
    (couples.fetch (threeRecords.reader "ann" ⟨0⟩) atEpoch 3500 ⟨0⟩
      { bucket := some 2, before := some (recordAt 2001 "third").messageId }).outcome =
        .ok { records := [recordAt 2000 "second", recordAt 1 "first"] } ∧
    ∀ r ∈ [recordAt 2000 "second", recordAt 1 "first"],
      r.messageId < (recordAt 2001 "third").messageId := by
  have hbucket : (2 : Bucket) ≠ Int64.minValue := by decide
  have hpage : (couples.fetch (threeRecords.reader "ann" ⟨0⟩) atEpoch 3500 ⟨0⟩
      { bucket := some 2, before := some (recordAt 2001 "third").messageId }).outcome =
        .ok { records := [recordAt 2000 "second", recordAt 1 "first"] } := by rfl
  have hbounded := (couples.before_bounds_page
    (fun bucket r hr => threeRecords_filed bucket hr) hbucket hpage).2.1
  exact ⟨hbucket, hpage, hbounded (by decide)⟩

end ChatRelay.History

import ChatRelay.Proofs.History.Beginning

/-!
# How far a page reads

The questions that a fetch asks are about the bucket in which it starts and then the older ones
within reach, one after the other, whatever the answers are (`buckets_fetch`); a page that is not
full has asked about all of them. So the number of questions depends on how far the starting bucket
is from that of the thread's creation (`questions_length_le`): a request that names a bucket ahead
of the clock walks through all the empty ones (`bucket_ahead_exceeds_present`).
-/

namespace ChatRelay

/-- The question, if something was asked. -/
def HistoryCall.question? : HistoryCall → Option Question
  | .ask question => some question
  | .lookUp _ => none

/-- The questions on the way to an outcome, in their order. -/
def Fetch.questions (f : Fetch) : List Question := f.calls.filterMap HistoryCall.question?

namespace History

variable (h : History) {reader : Reader} {lookUp : ThreadLookup} {now created : Millis}
  {thread : ThreadId} {query : HistoryQuery} {page : HistoryPage}

/-- **The walk asks about one bucket after the other**, and about all of them if the page does not
become full. -/
theorem buckets_walk (reader : Reader) (calls : List HistoryCall) (page : HistoryPage)
    (bucket : Bucket) (count : Nat) :
    ∃ asked : List Question,
      (h.walk reader calls page bucket count).questions =
        calls.reverse.filterMap HistoryCall.question? ++ asked ∧
      asked.map Question.bucket <+: bucket.down count ∧
      ∀ page', (h.walk reader calls page bucket count).outcome = .ok page' →
        page'.records.length < h.pageSize → asked.map Question.bucket = bucket.down count := by
  induction count generalizing calls page bucket with
  | zero => exact ⟨[], (List.append_nil _).symm, List.nil_prefix, fun _ _ _ => rfl⟩
  | succ count ih =>
    -- the question about this bucket is the last one if the reader fails or the page is full
    have hstop : [bucket] <+: bucket.down (count + 1) := (List.prefix_append [bucket] _)
    simp only [walk, Bucket.down]
    split
    next cause hread =>
      refine ⟨[.page bucket (h.pageSize - page.records.length) none], ?_, hstop, ?_⟩
      · simp [Fetch.questions, HistoryCall.question?]
      · rintro page' ⟨⟩
    next more hread =>
      split
      next hfull =>
        refine ⟨[.page bucket (h.pageSize - page.records.length) none], ?_, hstop, ?_⟩
        · simp [Fetch.questions, HistoryCall.question?]
        · intro page' hpage' hshort
          obtain rfl := Except.ok.inj hpage'
          omega
      next hshort =>
        obtain ⟨asked, hasked, hfront, hall⟩ := ih
          (.ask (.page bucket (h.pageSize - page.records.length) none) :: calls)
          (page.extend bucket (h.pageSize - page.records.length) more) (bucket - 1)
        refine ⟨.page bucket (h.pageSize - page.records.length) none :: asked, ?_, ?_, ?_⟩
        · rw [hasked]
          simp [HistoryCall.question?]
        · exact List.cons_prefix_cons.2 ⟨rfl, hfront⟩
        · intro page' hpage' hshort'
          exact congrArg (bucket :: ·) (hall page' hpage' hshort')

/-! ## One fetch -/

/-- The page after the first question. -/
def firstPage (now : Millis) (query : HistoryQuery) (first : Page) : HistoryPage :=
  HistoryPage.extend {} (h.firstQuestion now query).bucket h.pageSize first

/-- The walk after a first question, with the page that this gave. -/
def walkOlder (reader : Reader) (thread : ThreadId) (created : Millis) (question : Question)
    (page : HistoryPage) : Fetch :=
  h.walk reader [.lookUp thread, .ask question] page (question.bucket - 1)
    (h.older created (question.bucket - 1)).size

/-- Whatever happens, the first question is asked, and without a time of creation it is the only
one. -/
theorem questions_of_lookUp_error {cause : StoreError} (hcause : lookUp thread = .error cause) :
    (h.fetch reader lookUp now thread query).questions = [h.firstQuestion now query] := by
  rcases h.fetch_cases reader lookUp now thread query with
    ⟨cause, -, hfetch⟩ | ⟨first, -, -, hfetch⟩ | ⟨first, -, -, hfetch⟩
  · rw [hfetch]
    rfl
  · rw [hfetch]
    rfl
  · rw [hfetch, goOn, hcause]
    split <;> rfl

section First

variable {first : Page} (hread : reader (h.firstQuestion now query) = .ok first)
  (hstart : (h.firstQuestion now query).bucket ≠ Int64.minValue)
include hread hstart

/-- A fetch whose first question fills the page. -/
theorem fetch_of_full (lookUp : ThreadLookup)
    (hfull : h.pageSize ≤ (h.firstPage now query first).records.length) :
    (h.fetch reader lookUp now thread query).questions = [h.firstQuestion now query] ∧
    (h.fetch reader lookUp now thread query).outcome = .ok (h.firstPage now query first) := by
  rw [firstPage] at hfull ⊢
  rw [fetch_of_answered hread hstart, goOn, if_pos (.inl hfull)]
  exact ⟨rfl, rfl⟩

/-- A fetch whose first question leaves room goes on with the walk, which is through no bucket if
there is none below the starting one. -/
theorem fetch_of_short (hshort : (h.firstPage now query first).records.length < h.pageSize)
    (hcreated : lookUp thread = .ok created) :
    (h.fetch reader lookUp now thread query).questions =
      (h.walkOlder reader thread created (h.firstQuestion now query)
        (h.firstPage now query first)).questions ∧
    (h.fetch reader lookUp now thread query).outcome =
      (h.walkOlder reader thread created (h.firstQuestion now query)
        (h.firstPage now query first)).outcome := by
  rw [firstPage] at hshort ⊢
  rw [fetch_of_answered hread hstart, goOn, walkOlder]
  generalize h.firstQuestion now query = question at *
  by_cases hneg : question.bucket - 1 < 0
  · have hsize : (h.older created (question.bucket - 1)).size = 0 := by
      have hnonneg := h.oldest_nonneg created
      rw [Int64.lt_iff_toInt_lt, Int64.toInt_zero] at hneg
      rw [older_size]
      omega
    rw [if_pos (.inr hneg), hsize]
    exact ⟨rfl, rfl⟩
  · rw [if_neg (not_or.2 ⟨Nat.not_le.2 hshort, hneg⟩), hcreated]
    exact ⟨rfl, rfl⟩

end First

/-- What is fetched without a time of creation is what one gets with any. -/
theorem fetch_of_lookUp_error {cause : StoreError} (hcause : lookUp thread = .error cause)
    (hpage : (h.fetch reader lookUp now thread query).outcome = .ok page) (lookUp' : ThreadLookup) :
    h.fetch reader lookUp' now thread query = h.fetch reader lookUp now thread query := by
  rcases h.fetch_cases reader lookUp now thread query with
    ⟨cause, -, hfetch⟩ | ⟨first, -, -, hfetch⟩ | ⟨first, hread, hstart, hfetch⟩
  · rw [hfetch] at hpage
    cases hpage
  · rw [hfetch] at hpage
    cases hpage
  · rw [hfetch, goOn, hcause] at hpage
    rw [hfetch, fetch_of_answered hread hstart, goOn, goOn]
    split at hpage
    next hend => rw [if_pos hend, if_pos hend]
    next => cases hpage

/-- A page can be fetched with a time of creation. -/
theorem exists_created_of_fetch
    (hpage : (h.fetch reader lookUp now thread query).outcome = .ok page) :
    ∃ (lookUp' : ThreadLookup) (created : Millis), lookUp' thread = .ok created ∧
      h.fetch reader lookUp' now thread query = h.fetch reader lookUp now thread query := by
  cases hlookUp : lookUp thread with
  | ok created => exact ⟨lookUp, created, hlookUp, rfl⟩
  | error cause => exact ⟨fun _ => .ok 0, 0, rfl, h.fetch_of_lookUp_error hlookUp hpage _⟩

/-- **A fetch asks about the buckets within reach**, from the one in which it starts on downwards,
and about all of them if the page does not become full. -/
theorem buckets_fetch (reader : Reader) (now : Millis) (query : HistoryQuery)
    (hcreated : lookUp thread = .ok created) :
    (h.fetch reader lookUp now thread query).questions.map Question.bucket <+:
      h.reach created (h.firstBucket now query) ∧
    ∀ page, (h.fetch reader lookUp now thread query).outcome = .ok page →
      page.records.length < h.pageSize →
      (h.fetch reader lookUp now thread query).questions.map Question.bucket =
        h.reach created (h.firstBucket now query) := by
  rw [← h.firstQuestion_bucket]
  have hfirst : [(h.firstQuestion now query).bucket] <+:
      h.reach created (h.firstQuestion now query).bucket := List.prefix_append _ _
  rcases h.fetch_cases reader lookUp now thread query with
    ⟨cause, -, hfetch⟩ | ⟨first, -, -, hfetch⟩ | ⟨first, hread, hstart, -⟩
  · rw [hfetch]
    exact ⟨hfirst, fun _ hpage => nomatch hpage⟩
  · rw [hfetch]
    exact ⟨hfirst, fun _ hpage => nomatch hpage⟩
  · rcases Nat.lt_or_ge (h.firstPage now query first).records.length h.pageSize with hshort | hfull
    · obtain ⟨hquestions, houtcome⟩ := h.fetch_of_short hread hstart hshort hcreated
      obtain ⟨asked, hasked, hfront, hall⟩ := h.buckets_walk reader
        [.lookUp thread, .ask (h.firstQuestion now query)] (h.firstPage now query first)
        ((h.firstQuestion now query).bucket - 1)
        (h.older created ((h.firstQuestion now query).bucket - 1)).size
      rw [hquestions, houtcome, walkOlder, hasked]
      refine ⟨List.cons_prefix_cons.2 ⟨rfl, hfront⟩, fun page hpage hpageShort => ?_⟩
      exact congrArg ((h.firstQuestion now query).bucket :: ·) (hall page hpage hpageShort)
    · obtain ⟨hquestions, houtcome⟩ := h.fetch_of_full hread hstart lookUp hfull
      rw [hquestions, houtcome]
      refine ⟨hfirst, fun page hpage hshort => ?_⟩
      obtain rfl := Except.ok.inj hpage
      omega

/-! ## The number of questions -/

/-- The buckets from that of a thread's creation, also before bucket zero, to a last one. -/
def since (created : Millis) (last : Bucket) : BucketRange :=
  { first := h.index.atInstant created, last }

theorem size_since (created : Millis) (last : Bucket) :
    (h.since created last).size = (last.toInt + 1 - (h.index.atInstant created).toInt).toNat := rfl

theorem atInstant_le_oldest (created : Millis) :
    (h.index.atInstant created).toInt ≤ (h.oldest created).toInt := by
  rw [h.toInt_oldest, BucketIndex.atInstant, h.index.toInt_ofTimestamp]
  exact Int.ediv_le_ediv h.index.size_toInt_pos (Int.le_max_right _ _)

/-- There is one question for each bucket from that of the creation to the starting one, and one in
any case. -/
theorem length_reach {start : Bucket} (created : Millis) (hstart : start ≠ Int64.minValue) :
    (h.reach created start).length = max 1 (h.older created start).size := by
  rw [reach, below, List.length_cons, Bucket.length_down, older_size, older_size,
    Bucket.toInt_pred hstart]
  omega

/-- **How many questions a fetch asks.** One if the time of creation cannot be found out. Otherwise,
and apart from the first one, at most as many as there are buckets from that of the thread's
creation to the starting one; and exactly one for each of these that is not before bucket zero, if
the page does not become full. So a fetch that starts at most one bucket ahead of the clock asks at
most one question more than there are buckets from that of the thread's creation to the present one.
The starting bucket must not be the least number, which has none below it. -/
theorem questions_length_le (hstart : h.firstBucket now query ≠ Int64.minValue) :
    (∀ cause, lookUp thread = .error cause →
      (h.fetch reader lookUp now thread query).questions.length = 1) ∧
    ∀ created, lookUp thread = .ok created →
      (h.fetch reader lookUp now thread query).questions.length ≤
        max 1 (h.since created (h.firstBucket now query)).size ∧
      ((h.firstBucket now query).toInt ≤ (h.index.atInstant now).toInt + 1 →
        (h.fetch reader lookUp now thread query).questions.length ≤
          (h.since created (h.index.atInstant now)).size + 1) ∧
      ∀ page, (h.fetch reader lookUp now thread query).outcome = .ok page →
        page.records.length < h.pageSize →
        (h.fetch reader lookUp now thread query).questions.length =
          max 1 (h.older created (h.firstBucket now query)).size := by
  refine ⟨fun cause hcause => ?_, fun created hcreated => ?_⟩
  · rw [h.questions_of_lookUp_error hcause]
    rfl
  · obtain ⟨hfront, hall⟩ := h.buckets_fetch reader now query hcreated
    have hlength := hfront.length_le
    rw [List.length_map, h.length_reach created hstart, older_size] at hlength
    have hcreation := h.atInstant_le_oldest created
    refine ⟨?_, fun hpresent => ?_, fun page hpage hshort => ?_⟩
    · rw [size_since]
      omega
    · rw [size_since]
      omega
    · rw [← h.length_reach created hstart, ← hall page hpage hshort, List.length_map]

/-- A request for bucket five, four buckets ahead of the clock, asks about six buckets, although
there are two from that of the thread's creation to the present one. -/
theorem bucket_ahead_exceeds_present :
    (couples.fetch (Store.empty.reader "ann" ⟨0⟩) atEpoch 1500 ⟨0⟩
      { bucket := some 5 }).questions.length = 6 ∧
    (couples.since 0 (couples.index.atInstant 1500)).size + 1 = 3 := by
  decide

/-- What the general statement says of this request, and of one for the present bucket. -/
theorem questions_length_le_ahead :
    couples.firstBucket 1500 { bucket := some 5 } ≠ Int64.minValue ∧
    couples.firstBucket 1500 {} ≠ Int64.minValue ∧
    (couples.fetch (Store.empty.reader "ann" ⟨0⟩) atEpoch 1500 ⟨0⟩
      { bucket := some 5 }).questions.length =
        max 1 (couples.older 0 (couples.firstBucket 1500 { bucket := some 5 })).size ∧
    (couples.fetch (threeRecords.reader "ann" ⟨0⟩) atEpoch 1500 ⟨0⟩ {}).questions.length ≤
      (couples.since 0 (couples.index.atInstant 1500)).size + 1 := by
  have hahead : couples.firstBucket 1500 { bucket := some 5 } ≠ Int64.minValue := by decide
  have hpresent : couples.firstBucket 1500 {} ≠ Int64.minValue := by decide
  have hcreated : atEpoch ⟨0⟩ = .ok 0 := rfl
  have hpage : (couples.fetch (Store.empty.reader "ann" ⟨0⟩) atEpoch 1500 ⟨0⟩
      { bucket := some 5 }).outcome = .ok {} := by rfl
  exact ⟨hahead, hpresent,
    ((couples.questions_length_le hahead).2 0 hcreated).2.2 {} hpage (by decide),
    ((couples.questions_length_le hpresent).2 0 hcreated).2.1 (by decide)⟩

end History

end ChatRelay

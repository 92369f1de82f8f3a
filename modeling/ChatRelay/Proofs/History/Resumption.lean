import ChatRelay.Proofs.History.Questions
import ChatRelay.Proofs.Store.Cursor

/-!
# Going on from a cursor

The cursor of a page is the one that the answer to the last question came with, together with the
bucket of this question (`next_fetch`). On a store that has not changed, what the page leaves of all
that it is about is what a request that resumes at its cursor is about (`goesOn_fetch`), so that the
two pages together are one page of twice the size (`resumes_where_it_stopped`).
-/

namespace ChatRelay

/-- The query that resumes where a page stopped. -/
def HistoryQuery.resume (next : Resumption) : HistoryQuery :=
  { bucket := some next.bucket, cursor := some next.cursor }

/-- **What an answer goes on with** is what the question would have got without its limit. -/
theorem Store.asked?_next {s : Store} {user : UserId} {thread : ThreadId} {question : Question}
    {more : Page} {cursor : Cursor} {rows : List Record}
    (hread : s.reader user thread question = .ok more)
    (hasked : s.asked? user thread question = some rows) (hnext : more.next = some cursor)
    (limit : Nat) :
    s.asked? user thread (.page question.bucket limit (some cursor)) =
      some (rows.drop question.limit) := by
  obtain ⟨offset, hrows, rfl⟩ := s.exists_page_of_reader user thread hread
  obtain rfl := Option.some.inj (hrows.symm.trans hasked)
  rw [asked?, (Partition.page_next _ hnext).2, Option.map_some, List.drop_drop]

namespace History

variable (h : History) {reader : Reader} {s : Store} {user : UserId} {thread : ThreadId}
  {lookUp : ThreadLookup} {now created : Millis} {query : HistoryQuery}
  {page page' : HistoryPage} {question : Question} {next : Resumption}

/-! ## The cursor of a page -/

/-- The question asked last was answered, and a page goes on where this answer does. -/
def Concludes (reader : Reader) (questions : List Question) (page : HistoryPage) : Prop :=
  ∃ question more, questions.getLast? = some question ∧ reader question = .ok more ∧
    page.next = more.next.map fun cursor => { bucket := question.bucket, cursor }

theorem next_walk {calls : List HistoryCall} {bucket : Bucket} {count : Nat}
    (hcalls : Concludes reader (calls.reverse.filterMap HistoryCall.question?) page)
    (hpage' : (h.walk reader calls page bucket count).outcome = .ok page') :
    Concludes reader (h.walk reader calls page bucket count).questions page' := by
  induction count generalizing calls page bucket with
  | zero =>
    obtain rfl := Except.ok.inj hpage'
    exact hcalls
  | succ count ih =>
    simp only [walk] at hpage' ⊢
    split at hpage'
    next => cases hpage'
    next more hread =>
      have hextended : Concludes reader
          ((.ask (.page bucket (h.pageSize - page.records.length) none) ::
            calls : List HistoryCall).reverse.filterMap HistoryCall.question?)
          (page.extend bucket (h.pageSize - page.records.length) more) :=
        ⟨.page bucket (h.pageSize - page.records.length) none, more,
          by simp [HistoryCall.question?], hread, rfl⟩
      split at hpage'
      next hfull =>
        obtain rfl := Except.ok.inj hpage'
        rw [if_pos hfull]
        exact hextended
      next hshort =>
        rw [if_neg hshort]
        exact ih hextended hpage'

/-- **The cursor of a page is that of the last answer.** -/
theorem next_fetch (hpage : (h.fetch reader lookUp now thread query).outcome = .ok page) :
    Concludes reader (h.fetch reader lookUp now thread query).questions page := by
  have hstart := ne_least_of_fetch hpage
  obtain ⟨lookUp', created, hcreated, hfetch⟩ := h.exists_created_of_fetch hpage
  rw [← hfetch] at hpage ⊢
  cases hread : reader (h.firstQuestion now query) with
  | error cause =>
    rw [fetch_of_unanswered hread] at hpage
    exact nomatch hpage
  | ok first =>
    have hfirst : Concludes reader [h.firstQuestion now query] (h.firstPage now query first) :=
      ⟨_, first, rfl, hread, rfl⟩
    rcases Nat.lt_or_ge (h.firstPage now query first).records.length h.pageSize with hshort | hfull
    · obtain ⟨hquestions, houtcome⟩ := h.fetch_of_short hread hstart hshort hcreated
      rw [houtcome] at hpage
      rw [hquestions]
      exact h.next_walk hfirst hpage
    · obtain ⟨hquestions, houtcome⟩ := h.fetch_of_full hread hstart lookUp' hfull
      rw [houtcome] at hpage
      obtain rfl := Except.ok.inj hpage
      rwa [hquestions]

/-! ## What a page leaves -/

/-- Whether a request that resumes at the cursor of a page, if it has one, is about some records. -/
def GoesOn (s : Store) (user : UserId) (thread : ThreadId) (created : Millis) (page : HistoryPage)
    (rest : List Record) : Prop :=
  ∀ next limit, page.next = some next →
    page.records.length = h.pageSize ∧
    h.content? s user thread created (.page next.bucket limit (some next.cursor)) = some rest

/-- A page goes on behind the records of a bucket that fit on it. -/
theorem goesOn_extend (created : Millis) (question : Question) {more : Page} {rows : List Record}
    (hlen : page.records.length < h.pageSize) (hread : s.reader user thread question = .ok more)
    (hasked : s.asked? user thread question = some rows)
    (hlimit : question.limit = h.pageSize - page.records.length) :
    h.GoesOn s user thread created
      (page.extend question.bucket (h.pageSize - page.records.length) more)
      ((page.records ++ (rows ++ s.rows user thread (h.below created question.bucket))).drop
        h.pageSize) := by
  intro next limit hnext
  obtain ⟨cursor, hcursor, rfl⟩ := Option.map_eq_some_iff.1 hnext
  rcases s.reader_spec user thread question with
    ⟨hnone, -⟩ | ⟨rows', more', hasked', hread', hrecords, hmore⟩
  · exact nomatch hnone.symm.trans hasked
  obtain rfl := Option.some.inj (hasked'.symm.trans hasked)
  obtain rfl := Except.ok.inj (hread'.symm.trans hread)
  have hlong : question.limit < rows'.length := by
    rw [← Nat.not_le, ← hmore, hcursor]
    exact Option.some_ne_none cursor
  constructor
  · rw [HistoryPage.extend, hrecords, hlimit, List.take_take, Nat.min_self, List.length_append,
      List.length_take]
    omega
  · have hdrop : page.records.drop h.pageSize = [] := List.drop_of_length_le (by omega)
    rw [content?, Store.asked?_next hread hasked hcursor, Option.map_some, Question.bucket, hlimit,
      List.drop_append, hdrop, List.nil_append, List.drop_append_of_le_length (by omega)]

/-- A page that has room does not go on anywhere. -/
theorem GoesOn.next_eq_none {rest : List Record} (hpage : h.GoesOn s user thread created page rest)
    (hshort : page.records.length < h.pageSize) : page.next = none := by
  cases hnext : page.next with
  | none => rfl
  | some next =>
    have hlen := (hpage next 0 hnext).1
    omega

/-- The walk through all older buckets stops where a page is full. -/
theorem goesOn_walk {calls : List HistoryCall} {bucket : Bucket} {count : Nat}
    (hlen : page.records.length < h.pageSize) (hnone : page.next = none)
    (hcount : count = (h.older created bucket).size)
    (hpage' : (h.walk (s.reader user thread) calls page bucket count).outcome = .ok page') :
    h.GoesOn s user thread created page'
      ((page.records ++ s.rows user thread (bucket.down count)).drop h.pageSize) := by
  induction count generalizing page calls bucket with
  | zero =>
    obtain rfl := Except.ok.inj hpage'
    intro next limit hnext
    exact nomatch hnone.symm.trans hnext
  | succ count ih =>
    have hcount' : count = (h.older created (bucket - 1)).size := by
      have hnonneg := h.oldest_nonneg created
      rw [older_size] at hcount
      have hpred := Bucket.toInt_pred (Bucket.ne_minValue_of_nonneg (b := bucket) (by omega))
      rw [older_size]
      omega
    have hbelow : h.below created bucket = (bucket - 1).down count := by rw [below, hcount']
    have hextended : h.GoesOn s user thread created
        (page.extend bucket (h.pageSize - page.records.length)
          ((s.partition user thread bucket).page 0 (h.pageSize - page.records.length)))
        ((page.records ++ ((s.partition user thread bucket).records ++
          s.rows user thread (h.below created bucket))).drop h.pageSize) :=
      h.goesOn_extend created (.page bucket (h.pageSize - page.records.length) none) hlen rfl rfl
        rfl
    rw [Bucket.down, Store.rows_cons]
    simp only [walk, Store.reader] at hpage'
    rw [← hbelow]
    split at hpage'
    next hfull =>
      obtain rfl := Except.ok.inj hpage'
      exact hextended
    next hshort =>
      have hrecords : (page.extend bucket (h.pageSize - page.records.length)
          ((s.partition user thread bucket).page 0 (h.pageSize - page.records.length))).records =
            page.records ++ (s.partition user thread bucket).records :=
        page.extend_short (Partition.page_records _) (Nat.lt_of_not_le hshort)
      have hrest := ih (Nat.lt_of_not_le hshort)
        (hextended.next_eq_none h (Nat.lt_of_not_le hshort)) hcount' hpage'
      rwa [hrecords, List.append_assoc, ← hbelow] at hrest

/-- The walk through all older buckets fills a page with the first records of theirs. -/
theorem walkOlder_store (hlen : page.records.length < h.pageSize) :
    ∃ page', (h.walkOlder (s.reader user thread) thread created question page).outcome = .ok page' ∧
      page'.records = (page.records ++
        s.rows user thread (h.below created question.bucket)).take h.pageSize := by
  rw [walkOlder, below]
  by_cases hnext : 0 ≤ (question.bucket - 1).toInt
  · obtain ⟨page', hpage', hfirst⟩ := h.walk_store s user thread
      [.lookUp thread, .ask question] hlen (h.older_size_le created hnext)
    exact ⟨page', hpage', hfirst.records⟩
  · have hsize : (h.older created (question.bucket - 1)).size = 0 := by
      have hnonneg := h.oldest_nonneg created
      rw [older_size]
      omega
    rw [hsize, Bucket.down, Store.rows_nil, List.append_nil]
    exact ⟨page, rfl, (List.take_of_length_le (Nat.le_of_lt hlen)).symm⟩

/-- **A page holds the first records of all that it is about, and goes on with the others.** -/
theorem goesOn_fetch {content : List Record} (hcreated : lookUp thread = .ok created)
    (hstart : (h.firstQuestion now query).bucket ≠ Int64.minValue)
    (hcontent : h.content? s user thread created (h.firstQuestion now query) = some content) :
    ∃ page, (h.fetch (s.reader user thread) lookUp now thread query).outcome = .ok page ∧
      page.records = content.take h.pageSize ∧
      h.GoesOn s user thread created page (content.drop h.pageSize) := by
  obtain ⟨rows, hasked, rfl⟩ := Option.map_eq_some_iff.1 hcontent
  rcases s.reader_spec user thread (h.firstQuestion now query) with
    ⟨hnone, -⟩ | ⟨rows', first, hasked', hread, hfirst, -⟩
  · exact nomatch hnone.symm.trans hasked
  obtain rfl := Option.some.inj (hasked'.symm.trans hasked)
  rw [h.firstQuestion_limit] at hfirst
  have hlen : ([] : List Record).length < h.pageSize := h.pageSize_pos
  have hgoesOn : h.GoesOn s user thread created (h.firstPage now query first) _ :=
    h.goesOn_extend created (h.firstQuestion now query) hlen hread hasked
      (h.firstQuestion_limit now query)
  rcases Nat.lt_or_ge (h.firstPage now query first).records.length h.pageSize with hshort | hfull
  · have hrecords : (h.firstPage now query first).records = rows' :=
      HistoryPage.extend_short {} hfirst hshort
    rw [(h.fetch_of_short hread hstart hshort hcreated).2, ← hrecords]
    obtain ⟨page, hpage, hpageRecords⟩ := h.walkOlder_store hshort
    exact ⟨page, hpage, hpageRecords,
      h.goesOn_walk hshort (hgoesOn.next_eq_none h hshort) rfl hpage⟩
  · rw [(h.fetch_of_full hread hstart lookUp hfull).2]
    exact ⟨_, rfl, HistoryPage.extend_full_records {} hlen hfirst hfull, hgoesOn⟩

/-- A fetch that succeeds has understood its first question. -/
theorem exists_content_of_fetch (created : Millis)
    (hpage : (h.fetch (s.reader user thread) lookUp now thread query).outcome = .ok page) :
    ∃ content, h.content? s user thread created (h.firstQuestion now query) = some content := by
  rcases s.reader_spec user thread (h.firstQuestion now query) with
    ⟨-, cause, hread⟩ | ⟨rows, -, hasked, -⟩
  · rw [fetch_of_unanswered hread] at hpage
    exact nomatch hpage
  · exact ⟨_, congrArg (Option.map (· ++ s.rows user thread _)) hasked⟩

/-! ## Two pages -/

/-- The history with pages of twice the size. -/
def double : History :=
  { h with pageSize := 2 * h.pageSize, pageSize_pos := Nat.mul_pos Nat.two_pos h.pageSize_pos }

/-- What a page is about does not depend on its size. -/
theorem content?_double (s : Store) (user : UserId) (thread : ThreadId) (created now : Millis)
    (query : HistoryQuery) :
    h.double.content? s user thread created (h.double.firstQuestion now query) =
      h.content? s user thread created (h.firstQuestion now query) := by
  rw [content?, content?, asked?_firstQuestion, asked?_firstQuestion, firstQuestion_bucket,
    firstQuestion_bucket]
  rfl

/-- The question of a request that resumes in a bucket that is not negative. -/
theorem firstQuestion_resume (hnext : 0 ≤ next.bucket) (now : Millis) :
    h.firstQuestion now (.resume next) = .page next.bucket h.pageSize (some next.cursor) :=
  if_pos hnext

/-- **A request that resumes where a page stopped goes on exactly.** The page goes on where the
answer to its last question does: it has the cursor of this answer and the bucket of this question,
or neither of them. If this bucket is not negative, the store has not changed and the thread has the
same time of creation, then the request with both, at any later time, gives a page that together
with the first one is what the first request gives as a page of twice the size. -/
theorem resumes_where_it_stopped
    (hpage : (h.fetch (s.reader user thread) lookUp now thread query).outcome = .ok page) :
    (∃ question more,
      (h.fetch (s.reader user thread) lookUp now thread query).questions.getLast? = some question ∧
      s.reader user thread question = .ok more ∧
      page.next = more.next.map fun cursor => { bucket := question.bucket, cursor }) ∧
    ∀ next, page.next = some next → 0 ≤ next.bucket → ∀ created, lookUp thread = .ok created →
      ∀ later, ∃ rest whole,
        (h.fetch (s.reader user thread) lookUp later thread (.resume next)).outcome = .ok rest ∧
        (h.double.fetch (s.reader user thread) lookUp now thread query).outcome = .ok whole ∧
        page.records ++ rest.records = whole.records := by
  refine ⟨h.next_fetch hpage, fun next hnext hbucket created hcreated later => ?_⟩
  have hstart := ne_least_of_fetch hpage
  obtain ⟨content, hcontent⟩ := h.exists_content_of_fetch created hpage
  obtain ⟨page', hpage', hrecords, hgoesOn⟩ := h.goesOn_fetch hcreated hstart hcontent
  obtain rfl := Except.ok.inj (hpage'.symm.trans hpage)
  obtain ⟨hlen, hrest⟩ := hgoesOn next h.pageSize hnext
  rw [← h.firstQuestion_resume hbucket later] at hrest
  have hresumed : (h.firstQuestion later (.resume next)).bucket ≠ Int64.minValue := by
    rw [h.firstQuestion_resume hbucket later]
    exact Bucket.ne_minValue_of_nonneg (Int64.le_iff_toInt_le.1 hbucket)
  obtain ⟨rest, hrestPage, hrestRecords, -⟩ := h.goesOn_fetch hcreated hresumed hrest
  rw [← h.content?_double] at hcontent
  rw [h.firstQuestion_bucket] at hstart
  have hdoubled : (h.double.firstQuestion now query).bucket ≠ Int64.minValue := by
    rw [h.double.firstQuestion_bucket]
    exact hstart
  obtain ⟨whole, hwhole, hwholeRecords, -⟩ := h.double.goesOn_fetch hcreated hdoubled hcontent
  refine ⟨rest, whole, hrestPage, hwhole, ?_⟩
  have hdouble : h.double.pageSize = h.pageSize + h.pageSize := Nat.two_mul h.pageSize
  rw [hrecords, hrestRecords, hwholeRecords, hdouble, List.take_add]

/-- A record of bucket two and two of bucket zero. -/
def scattered : Store :=
  [recordAt 1 "first", recordAt 2 "second", recordAt 2000 "third"].foldl (·.insert "ann" ·)
    Store.empty

/-- What the general statement says of a page that ends within bucket zero. -/
theorem resumes_where_it_stopped_in_older_bucket :
    (couples.fetch (scattered.reader "ann" ⟨0⟩) atEpoch 2500 ⟨0⟩ {}).outcome =
      .ok { records := [recordAt 2000 "third", recordAt 2 "second"]
            next := some { bucket := 0, cursor := ⟨"1"⟩ } } ∧
    ∃ rest whole,
      (couples.fetch (scattered.reader "ann" ⟨0⟩) atEpoch 2600 ⟨0⟩
        { bucket := some 0, cursor := some ⟨"1"⟩ }).outcome = .ok rest ∧
      (couples.double.fetch (scattered.reader "ann" ⟨0⟩) atEpoch 2500 ⟨0⟩ {}).outcome = .ok whole ∧
      [recordAt 2000 "third", recordAt 2 "second"] ++ rest.records = whole.records := by
  have hpage : (couples.fetch (scattered.reader "ann" ⟨0⟩) atEpoch 2500 ⟨0⟩ {}).outcome =
      .ok { records := [recordAt 2000 "third", recordAt 2 "second"]
            next := some { bucket := 0, cursor := ⟨"1"⟩ } } := by rfl
  have hbucket : (0 : Bucket) ≤ 0 := by decide
  have hcreated : atEpoch ⟨0⟩ = .ok 0 := rfl
  exact ⟨hpage, (couples.resumes_where_it_stopped hpage).2 _ rfl hbucket 0 hcreated 2600⟩

end History

end ChatRelay

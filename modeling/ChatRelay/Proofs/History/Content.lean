import ChatRelay.Proofs.Bucket
import ChatRelay.Proofs.History.Start
import ChatRelay.Proofs.Store.Rows

/-!
# What a page of history is about

A history that starts in a bucket reaches that bucket and then every older one down to the bucket of
the thread's creation, never below bucket zero (`History.reach`, `mem_reach`). With a store behind
it, a page is the first records of all that it is about: what the first question asks for, followed
by the records of the older buckets (`walk_store`, `fetch_store`). A page without a cursor has at
most left whole buckets for later.
-/

namespace ChatRelay

/-! ## Questions to a store -/

namespace Store

/-- All the records that a question would get, were it not for its limit; `none` if its cursor means
nothing. -/
def asked? (s : Store) (user : UserId) (thread : ThreadId) : Question → Option (List Record)
  | .page bucket _ none => some (s.partition user thread bucket).records
  | .page bucket _ (some cursor) =>
    cursor.offset?.map fun offset => (s.partition user thread bucket).records.drop offset
  | .before bucket _ id =>
    some ((s.partition user thread bucket).records.drop
      ((s.partition user thread bucket).offsetBefore id))

variable (s : Store) (user : UserId) (thread : ThreadId)

/-- What is asked for is an end of the partition. -/
theorem asked?_eq_drop {question : Question} {rows : List Record}
    (h : s.asked? user thread question = some rows) :
    ∃ offset, rows = (s.partition user thread question.bucket).records.drop offset := by
  match question with
  | .page bucket limit none => exact ⟨0, (Option.some.inj h).symm⟩
  | .page bucket limit (some cursor) =>
    obtain ⟨offset, -, rfl⟩ := Option.map_eq_some_iff.1 h
    exact ⟨offset, rfl⟩
  | .before bucket limit id => exact ⟨_, (Option.some.inj h).symm⟩

/-- What is asked for is in the bucket that is asked about. -/
theorem bucket_of_mem_asked {question : Question} {rows : List Record} {r : Record}
    (h : s.asked? user thread question = some rows) (hr : r ∈ rows) :
    r.bucket = question.bucket := by
  obtain ⟨offset, rfl⟩ := s.asked?_eq_drop user thread h
  exact s.bucket_of_mem_partition user thread (List.mem_of_mem_drop hr)

/-- **All that a store can answer**: it fails on a cursor that means nothing, and otherwise gives
the first records of those asked for, with a cursor if there are more. -/
theorem reader_spec (question : Question) :
    (s.asked? user thread question = none ∧ ∃ cause, s.reader user thread question = .error cause) ∨
    ∃ rows page, s.asked? user thread question = some rows ∧
      s.reader user thread question = .ok page ∧ page.records = rows.take question.limit ∧
      (page.next = none ↔ rows.length ≤ question.limit) := by
  match question with
  | .page bucket limit none =>
    exact .inr ⟨_, _, rfl, rfl, Partition.page_records _, Partition.page_next_eq_none_iff _⟩
  | .page bucket limit (some cursor) =>
    rw [asked?, reader]
    cases cursor.offset? with
    | none => exact .inl ⟨rfl, _, rfl⟩
    | some offset =>
      exact .inr ⟨_, _, rfl, rfl, Partition.page_records _, Partition.page_next_eq_none_iff _⟩
  | .before bucket limit id =>
    exact .inr ⟨_, _, rfl, rfl, Partition.page_records _, Partition.page_next_eq_none_iff _⟩

/-- An answer is a page of the partition. -/
theorem exists_page_of_reader {question : Question} {page : Page}
    (h : s.reader user thread question = .ok page) :
    ∃ offset, s.asked? user thread question =
        some ((s.partition user thread question.bucket).records.drop offset) ∧
      page = (s.partition user thread question.bucket).page offset question.limit := by
  match question with
  | .page bucket limit none => exact ⟨0, rfl, (Except.ok.inj h).symm⟩
  | .page bucket limit (some cursor) =>
    rw [reader] at h
    cases hoffset : cursor.offset? with
    | none =>
      rw [hoffset] at h
      cases h
    | some offset =>
      rw [hoffset] at h
      refine ⟨offset, ?_, (Except.ok.inj h).symm⟩
      rw [asked?, hoffset]
      rfl
  | .before bucket limit id => exact ⟨_, rfl, (Except.ok.inj h).symm⟩

/-- The number of records of its bucket that a question leaves out in front. -/
def offset (s : Store) (user : UserId) (thread : ThreadId) : Question → Except StoreError Nat
  | .page _ _ none => .ok 0
  | .page _ _ (some cursor) =>
    match cursor.offset? with
    | some offset => .ok offset
    | none => .error (.invalidCursor cursor.token)
  | .before bucket _ id => .ok ((s.partition user thread bucket).offsetBefore id)

/-- An answer is the page of the partition from where the question starts. -/
theorem reader_eq_map_offset (question : Question) :
    s.reader user thread question = (s.offset user thread question).map fun offset =>
      (s.partition user thread question.bucket).page offset question.limit := by
  match question with
  | .page bucket limit none => rfl
  | .page bucket limit (some cursor) =>
    rw [reader, offset]
    cases cursor.offset? <;> rfl
  | .before bucket limit id => rfl

/-- What a store answers with is in it. -/
theorem mem_of_reader {question : Question} {page : Page} {r : Record}
    (h : s.reader user thread question = .ok page) (hr : r ∈ page.records) :
    r ∈ (s.partition user thread r.bucket).records := by
  rcases s.reader_spec user thread question with
    ⟨-, cause, hread⟩ | ⟨rows, page', hasked, hread, hrecords, -⟩
  · exact nomatch hread.symm.trans h
  obtain rfl := Except.ok.inj (hread.symm.trans h)
  rw [hrecords] at hr
  have hrows := List.mem_of_mem_take hr
  rw [s.bucket_of_mem_asked user thread hasked hrows]
  obtain ⟨offset, rfl⟩ := s.asked?_eq_drop user thread hasked
  exact List.mem_of_mem_drop hrows

/-- What is asked for with a bound on identifiers is what comes after the record with that
identifier. -/
theorem asked?_before (r : Record) (limit : Nat) :
    s.asked? user thread (.before r.bucket limit r.messageId) =
      some ((s.partition user thread r.bucket).records.filter (r.NewerThan ·)) := by
  rw [asked?, Partition.drop_offsetBefore]
  refine congrArg some (List.filter_congr fun x hx => ?_)
  have hbucket := s.bucket_of_mem_partition user thread hx
  simp [Record.NewerThan, hbucket, Int64.lt_irrefl]

end Store

namespace History

variable (h : History) {created now : Millis} {start b : Bucket}

@[simp] theorem firstQuestion_limit (now : Millis) (query : HistoryQuery) :
    (h.firstQuestion now query).limit = h.pageSize := by
  rcases query with ⟨_ | bucket, _ | id, cursor⟩ <;> simp only [firstQuestion]
  · rfl
  · rfl
  · split <;> rfl
  · rfl

/-! ## The buckets within reach -/

/-- The bucket of a thread's creation, or bucket zero if the thread is older than the epoch. -/
def oldest (created : Millis) : Bucket := h.index.ofTimestamp (max 0 (h.index.relative created))

theorem toInt_oldest (created : Millis) : (h.oldest created).toInt =
    max 0 (h.index.relative created).toInt / h.index.size.toInt := by
  have hmax : (max 0 (h.index.relative created)).toInt =
      max 0 (h.index.relative created).toInt := by
    show (if 0 ≤ h.index.relative created then h.index.relative created else 0).toInt = _
    split
    next hle =>
      rw [Int64.le_iff_toInt_le, Int64.toInt_zero] at hle
      omega
    next hlt =>
      rw [Int64.le_iff_toInt_le, Int64.toInt_zero] at hlt
      rw [Int64.toInt_zero]
      omega
  rw [oldest, h.index.toInt_ofTimestamp, hmax]

theorem oldest_nonneg (created : Millis) : 0 ≤ (h.oldest created).toInt := by
  rw [h.toInt_oldest]
  exact Int.ediv_nonneg (by omega) (Int.le_of_lt h.index.size_toInt_pos)

theorem older_size (created : Millis) (next : Bucket) :
    (h.older created next).size = (next.toInt + 1 - (h.oldest created).toInt).toNat := rfl

theorem older_size_le (created : Millis) {next : Bucket} (hnext : 0 ≤ next.toInt) :
    ((h.older created next).size : Int) ≤ next.toInt + 1 := by
  have := h.oldest_nonneg created
  rw [older_size]
  omega

/-- The buckets that may be read after the bucket `start`, in the order in which they are. -/
def below (created : Millis) (start : Bucket) : List Bucket :=
  (start - 1).down (h.older created (start - 1)).size

/-- The buckets that a history reads which starts in the bucket `start` and is never full, in the
order in which it does. -/
def reach (created : Millis) (start : Bucket) : List Bucket := start :: h.below created start

theorem older_size_eq_zero (hstart : start ≠ Int64.minValue) (hle : start.toInt ≤ 0) :
    (h.older created (start - 1)).size = 0 := by
  have := h.oldest_nonneg created
  rw [older_size, Bucket.toInt_pred hstart]
  omega

theorem mem_below (hstart : start ≠ Int64.minValue) :
    b ∈ h.below created start ↔ h.oldest created ≤ b ∧ b < start := by
  have hpred := Bucket.toInt_pred hstart
  have hnonneg := h.oldest_nonneg created
  rw [below, Int64.le_iff_toInt_le, Int64.lt_iff_toInt_lt]
  by_cases hle : start.toInt ≤ 0
  · rw [h.older_size_eq_zero hstart hle, Bucket.down]
    simp only [List.not_mem_nil, false_iff]
    omega
  · rw [Bucket.mem_down (h.older_size_le created (by omega)), older_size, hpred]
    omega

theorem lt_of_mem_rows_below {s : Store} {user : UserId} {thread : ThreadId} {r : Record}
    (hstart : start ≠ Int64.minValue) (hr : r ∈ s.rows user thread (h.below created start)) :
    r.bucket < start :=
  ((h.mem_below hstart).1 ((s.mem_rows user thread).1 hr).1).2

theorem mem_reach (hstart : start ≠ Int64.minValue) :
    b ∈ h.reach created start ↔ b = start ∨ h.oldest created ≤ b ∧ b < start := by
  rw [reach, List.mem_cons, h.mem_below hstart]

/-- Newest first, each bucket once. -/
theorem reach_pairwise (created : Millis) (hstart : start ≠ Int64.minValue) :
    (h.reach created start).Pairwise (· > ·) := by
  refine List.pairwise_cons.2 ⟨fun b hb => ((h.mem_below hstart).1 hb).2, ?_⟩
  have hpred := Bucket.toInt_pred hstart
  rw [below]
  by_cases hle : start.toInt ≤ 0
  · rw [h.older_size_eq_zero hstart hle]
    exact List.Pairwise.nil
  · exact Bucket.down_pairwise (h.older_size_le created (by omega))

/-- No bucket is read twice. -/
theorem nodup_reach (created : Millis) (hstart : start ≠ Int64.minValue) :
    (h.reach created start).Nodup := by
  refine (h.reach_pairwise created hstart).imp fun hgt heq => ?_
  exact Int64.lt_irrefl (heq ▸ hgt)

/-- To start in a bucket within reach is to leave out the newer ones. -/
theorem reach_split (hstart : start ≠ Int64.minValue) (hb : b ∈ h.reach created start) :
    ∃ newer, h.reach created start = newer ++ h.reach created b ∧ ∀ x ∈ newer, b < x := by
  rcases List.mem_cons.1 hb with rfl | hb
  · exact ⟨[], rfl, by simp⟩
  · have hrange := (h.mem_below hstart).1 hb
    rw [Int64.le_iff_toInt_le, Int64.lt_iff_toInt_lt] at hrange
    have hnonneg := h.oldest_nonneg created
    have hpred := Bucket.toInt_pred hstart
    have hpred' := Bucket.toInt_pred (Bucket.ne_minValue_of_nonneg (b := b) (by omega))
    obtain ⟨newer, rest, heq, hnewer, hrest⟩ :=
      Bucket.down_split (h.older_size_le created (by omega)) hb
    have hsize : rest = (h.older created (b - 1)).size := by
      rw [older_size] at hrest ⊢
      omega
    refine ⟨start :: newer, ?_, List.forall_mem_cons.2 ⟨Int64.lt_iff_toInt_lt.2 hrange.2, hnewer⟩⟩
    rw [reach, below, heq, hsize]
    rfl

/-- All that a page is about: what the first question asks for, and then what the older buckets
within reach hold. -/
def content? (s : Store) (user : UserId) (thread : ThreadId) (created : Millis)
    (question : Question) : Option (List Record) :=
  (s.asked? user thread question).map (· ++ s.rows user thread (h.below created question.bucket))

end History

/-! ## What a page holds -/

/-- The page holds the first `n` of some records. If it has no cursor, what it leaves is in older
buckets than its last record. -/
structure HistoryPage.IsFirst (page : HistoryPage) (n : Nat) (all : List Record) : Prop where
  records : page.records = all.take n
  left : page.next = none → ∀ r ∈ all.drop n, ∀ last, page.records.getLast? = some last →
    r.bucket < last.bucket

namespace HistoryPage

/-- A page that holds all there is leaves nothing. -/
theorem isFirst_of_length_le {page : HistoryPage} {n : Nat} (hlen : page.records.length ≤ n) :
    page.IsFirst n page.records where
  records := (List.take_of_length_le hlen).symm
  left _ r hr := by
    rw [List.drop_of_length_le hlen] at hr
    exact absurd hr List.not_mem_nil

variable (page : HistoryPage) {n : Nat} {bucket : Bucket} {more : Page} {rows rest : List Record}

/-- A page with room for all of a bucket takes all of it. -/
theorem extend_short (hmore : more.records = rows.take (n - page.records.length))
    (hshort : (page.extend bucket (n - page.records.length) more).records.length < n) :
    (page.extend bucket (n - page.records.length) more).records = page.records ++ rows := by
  rw [extend, hmore, List.take_take, Nat.min_self] at hshort ⊢
  rw [List.length_append, List.length_take] at hshort
  rw [List.take_of_length_le (by omega)]

/-- A page that a bucket fills holds the first of its records and of any older ones. -/
theorem extend_full_records (hlen : page.records.length < n)
    (hmore : more.records = rows.take (n - page.records.length))
    (hfull : n ≤ (page.extend bucket (n - page.records.length) more).records.length) :
    (page.extend bucket (n - page.records.length) more).records =
      (page.records ++ (rows ++ rest)).take n := by
  rw [extend, hmore, List.take_take, Nat.min_self] at hfull ⊢
  rw [List.length_append, List.length_take] at hfull
  rw [List.take_append, List.take_of_length_le (l := page.records) (by omega),
    List.take_append_of_le_length (by omega)]

/-- A page that a bucket fills leaves the rest of this bucket, if there is one, and the older
buckets. -/
theorem extend_full (hlen : page.records.length < n)
    (hmore : more.records = rows.take (n - page.records.length))
    (hnext : more.next = none ↔ rows.length ≤ n - page.records.length)
    (hbucket : ∀ r ∈ rows, r.bucket = bucket) (hrest : ∀ r ∈ rest, r.bucket < bucket)
    (hfull : n ≤ (page.extend bucket (n - page.records.length) more).records.length) :
    (page.extend bucket (n - page.records.length) more).IsFirst n
      (page.records ++ (rows ++ rest)) := by
  have hrecords : (page.extend bucket (n - page.records.length) more).records =
      page.records ++ rows.take (n - page.records.length) := by
    rw [extend, hmore, List.take_take, Nat.min_self]
  constructor
  · exact page.extend_full_records hlen hmore hfull
  · intro hnone r hr last hlast
    rw [hrecords, List.length_append, List.length_take] at hfull
    have hrows : rows.length = n - page.records.length := by
      have := hnext.1 (Option.map_eq_none_iff.1 hnone)
      omega
    -- the bucket was read to its end, so that the rest is older and the last record is from it
    rw [List.drop_append, List.drop_of_length_le (by omega), List.nil_append, ← hrows,
      List.drop_left] at hr
    have hne : rows ≠ [] := by
      rintro rfl
      rw [List.length_nil] at hrows
      omega
    rw [hrecords, ← hrows, List.take_length, List.getLast?_append,
      List.getLast?_eq_some_getLast hne, Option.some_or, Option.some.injEq] at hlast
    rw [← hlast, hbucket _ (List.getLast_mem hne)]
    exact hrest r hr

end HistoryPage

namespace History

variable (h : History) (s : Store) (user : UserId) (thread : ThreadId)

/-- **The walk through older buckets** fills the page with the first records of theirs. -/
theorem walk_store {page : HistoryPage} (calls : List HistoryCall) {bucket : Bucket} {count : Nat}
    (hlen : page.records.length < h.pageSize) (hcount : count ≤ bucket.toInt + 1) :
    ∃ page', (h.walk (s.reader user thread) calls page bucket count).outcome = .ok page' ∧
      page'.IsFirst h.pageSize (page.records ++ s.rows user thread (bucket.down count)) := by
  induction count generalizing page calls bucket with
  | zero =>
    rw [Bucket.down, Store.rows_nil, List.append_nil]
    exact ⟨page, rfl, HistoryPage.isFirst_of_length_le (Nat.le_of_lt hlen)⟩
  | succ count ih =>
    have hpred := Bucket.toInt_pred (Bucket.ne_minValue_of_nonneg (b := bucket) (by omega))
    have hbucket : ∀ r ∈ (s.partition user thread bucket).records, r.bucket = bucket :=
      fun r hr => s.bucket_of_mem_partition user thread hr
    have hrest : ∀ r ∈ s.rows user thread ((bucket - 1).down count), r.bucket < bucket := by
      intro r hr
      have hmem := (Bucket.mem_down (by omega)).1 ((s.mem_rows user thread).1 hr).1
      exact Int64.lt_iff_toInt_lt.2 (by omega)
    have hcount' : (count : Int) ≤ (bucket - 1).toInt + 1 := by omega
    rw [walk, Bucket.down, Store.rows_cons]
    simp only [Store.reader]
    split
    next hfull =>
      exact ⟨_, rfl,
        page.extend_full hlen (Partition.page_records _) (Partition.page_next_eq_none_iff _) hbucket
          hrest hfull⟩
    next hshort =>
      have hrecords : (page.extend bucket (h.pageSize - page.records.length)
          ((s.partition user thread bucket).page 0 (h.pageSize - page.records.length))).records =
            page.records ++ (s.partition user thread bucket).records :=
        page.extend_short (Partition.page_records _) (Nat.lt_of_not_le hshort)
      obtain ⟨page', hpage', hfirst⟩ :=
        ih (.ask (.page bucket (h.pageSize - page.records.length) none) :: calls)
          (Nat.lt_of_not_le hshort) hcount'
      rw [hrecords, List.append_assoc] at hfirst
      exact ⟨page', hpage', hfirst⟩

variable {s user thread} {created : Millis}

/-- **A page holds the first records of all that it is about.** -/
theorem fetch_store {lookUp : ThreadLookup} {now : Millis} {query : HistoryQuery}
    {content : List Record} (hcreated : lookUp thread = .ok created)
    (hstart : (h.firstQuestion now query).bucket ≠ Int64.minValue)
    (hcontent : h.content? s user thread created (h.firstQuestion now query) = some content) :
    ∃ page, (h.fetch (s.reader user thread) lookUp now thread query).outcome = .ok page ∧
      page.IsFirst h.pageSize content := by
  obtain ⟨rows, hasked, rfl⟩ := Option.map_eq_some_iff.1 hcontent
  have hlimit := h.firstQuestion_limit now query
  rcases s.reader_spec user thread (h.firstQuestion now query) with
    ⟨hnone, -⟩ | ⟨rows', first, hasked', hread, hfirst, hnext⟩
  · exact nomatch hnone.symm.trans hasked
  obtain rfl := Option.some.inj (hasked'.symm.trans hasked)
  rw [hlimit] at hfirst hnext
  rw [fetch_of_answered hread hstart, goOn]
  generalize h.firstQuestion now query = question at *
  have hpred := Bucket.toInt_pred hstart
  have hbucket : ∀ r ∈ rows', r.bucket = question.bucket := fun r hr =>
    s.bucket_of_mem_asked user thread hasked hr
  have hrest : ∀ r ∈ s.rows user thread (h.below created question.bucket),
      r.bucket < question.bucket := fun r hr => h.lt_of_mem_rows_below hstart hr
  have hlen : ([] : List Record).length < h.pageSize := h.pageSize_pos
  by_cases hfull :
      h.pageSize ≤ (HistoryPage.extend {} question.bucket h.pageSize first).records.length
  · rw [if_pos (.inl hfull)]
    exact ⟨_, rfl, HistoryPage.extend_full {} hlen hfirst hnext hbucket hrest hfull⟩
  · have hshort := Nat.lt_of_not_le hfull
    have hrecords : (HistoryPage.extend {} question.bucket h.pageSize first).records = rows' :=
      HistoryPage.extend_short {} hfirst hshort
    have hnext0 : question.bucket - 1 < 0 ↔ question.bucket.toInt - 1 < 0 := by
      rw [Int64.lt_iff_toInt_lt, hpred, Int64.toInt_zero]
    by_cases hneg : question.bucket - 1 < 0
    · rw [if_pos (.inr hneg)]
      have hzero : (h.older created (question.bucket - 1)).size = 0 :=
        h.older_size_eq_zero hstart (by have := hnext0.1 hneg; omega)
      rw [below, hzero, Bucket.down, Store.rows_nil, List.append_nil]
      refine ⟨_, rfl, ?_⟩
      have hall := HistoryPage.isFirst_of_length_le (Nat.le_of_lt hshort)
      rwa [hrecords] at hall
    · have hnonneg : 0 ≤ (question.bucket - 1).toInt := by
        have := mt hnext0.2 hneg
        omega
      rw [if_neg (not_or.2 ⟨hfull, hneg⟩), hcreated]
      obtain ⟨page, hpage, hpageFirst⟩ := h.walk_store s user thread
        [.lookUp thread, .ask question] hshort (h.older_size_le created hnonneg)
      rw [hrecords] at hpageFirst
      exact ⟨page, hpage, hpageFirst⟩

/-- A fetch that succeeds has understood its first question. -/
theorem isFirst_of_fetch {lookUp : ThreadLookup} {now : Millis} {query : HistoryQuery}
    {page : HistoryPage} (hcreated : lookUp thread = .ok created)
    (hstart : (h.firstQuestion now query).bucket ≠ Int64.minValue)
    (hpage : (h.fetch (s.reader user thread) lookUp now thread query).outcome = .ok page) :
    ∃ content, h.content? s user thread created (h.firstQuestion now query) = some content ∧
      page.IsFirst h.pageSize content := by
  rcases s.reader_spec user thread (h.firstQuestion now query) with
    ⟨-, cause, hread⟩ | ⟨rows, -, hasked, -⟩
  · rw [fetch_of_unanswered hread] at hpage
    exact nomatch hpage
  · have hcontent := congrArg (Option.map
      (· ++ s.rows user thread (h.below created (h.firstQuestion now query).bucket))) hasked
    obtain ⟨page', hpage', hfirst⟩ := h.fetch_store hcreated hstart hcontent
    obtain rfl := Except.ok.inj (hpage'.symm.trans hpage)
    exact ⟨_, hcontent, hfirst⟩

section Reader

variable {reader : Reader} {P : Record → Prop}
  (hreader : ∀ question more, reader question = .ok more → ∀ r ∈ more.records, P r)
include hreader

/-- The walk adds nothing that the reader did not give. -/
theorem forall_mem_walk {calls : List HistoryCall} {page page' : HistoryPage} {bucket : Bucket}
    {count : Nat} (hpage : ∀ r ∈ page.records, P r)
    (hpage' : (h.walk reader calls page bucket count).outcome = .ok page') :
    ∀ r ∈ page'.records, P r := by
  induction count generalizing calls page bucket with
  | zero =>
    obtain rfl := Except.ok.inj hpage'
    exact hpage
  | succ count ih =>
    simp only [walk] at hpage'
    split at hpage'
    next => cases hpage'
    next more hmore =>
      have hextended : ∀ r ∈ (page.extend bucket (h.pageSize - page.records.length) more).records,
          P r := by
        intro r hr
        rcases List.mem_append.1 hr with hr | hr
        · exact hpage r hr
        · exact hreader _ more hmore r (List.mem_of_mem_take hr)
      split at hpage'
      · obtain rfl := Except.ok.inj hpage'
        exact hextended
      · exact ih hextended hpage'

/-- **A page holds nothing that its reader did not give.** -/
theorem forall_mem_fetch {lookUp : ThreadLookup} {now : Millis} {query : HistoryQuery}
    {page : HistoryPage} (hpage : (h.fetch reader lookUp now thread query).outcome = .ok page) :
    ∀ r ∈ page.records, P r := by
  rcases h.fetch_cases reader lookUp now thread query with
    ⟨cause, -, hfetch⟩ | ⟨first, -, -, hfetch⟩ | ⟨first, hfirst, -, hfetch⟩
  · rw [hfetch] at hpage
    cases hpage
  · rw [hfetch] at hpage
    cases hpage
  · have hextended : ∀ r ∈ (HistoryPage.extend {} (h.firstQuestion now query).bucket h.pageSize
        first).records, P r := by
      intro r hr
      exact hreader _ first hfirst r (List.mem_of_mem_take hr)
    simp only [hfetch, goOn] at hpage
    split at hpage
    · obtain rfl := Except.ok.inj hpage
      exact hextended
    · split at hpage
      next => cases hpage
      next => exact h.forall_mem_walk hreader hextended hpage

end Reader

/-- What a page shows is in the store. -/
theorem mem_partition_of_fetch {lookUp : ThreadLookup} {now : Millis} {query : HistoryQuery}
    {page : HistoryPage} {r : Record}
    (hpage : (h.fetch (s.reader user thread) lookUp now thread query).outcome = .ok page)
    (hr : r ∈ page.records) : r ∈ (s.partition user thread r.bucket).records :=
  h.forall_mem_fetch (fun _ _ hread _ hr => s.mem_of_reader user thread hread hr) hpage r hr

section Content

variable {question : Question} {content : List Record}
  (hcontent : h.content? s user thread created question = some content)
include hcontent

/-- All that a page is about is the end of what the buckets within reach hold. -/
theorem content_suffix :
    content <:+ s.rows user thread (h.reach created question.bucket) := by
  obtain ⟨rows, hasked, rfl⟩ := Option.map_eq_some_iff.1 hcontent
  obtain ⟨offset, rfl⟩ := s.asked?_eq_drop user thread hasked
  refine ⟨(s.partition user thread question.bucket).records.take offset, ?_⟩
  rw [← List.append_assoc, List.take_append_drop]
  rfl

/-- All that a page is about is in the order of records. -/
theorem content_newerThan (hstart : question.bucket ≠ Int64.minValue) :
    content.Pairwise Record.NewerThan :=
  (s.rows_newerThan user thread (h.reach_pairwise created hstart)).sublist
    (h.content_suffix hcontent).sublist

/-- The older buckets are part of what a page is about. -/
theorem rows_below_suffix : s.rows user thread (h.below created question.bucket) <:+ content := by
  obtain ⟨rows, -, rfl⟩ := Option.map_eq_some_iff.1 hcontent
  exact List.suffix_append rows _

end Content

end History

end ChatRelay

import ChatRelay.Proofs.History.Content

/-!
# What a missing cursor says

The cursor of a page speaks of one bucket, the one that was read last. A page without a cursor has
read this bucket to its end; older buckets may still hold records, but only if the page is full
(`older_of_next_eq_none`), and a bucket that fills the page to the brim does hide them, as does the
epoch of the buckets (`missing_cursor_hides_older`).
-/

namespace ChatRelay.History

variable (h : History) {s : Store} {user : UserId} {thread : ThreadId} {lookUp : ThreadLookup}
  {now created : Millis} {query : HistoryQuery} {page : HistoryPage}

/-- **A page without a cursor leaves at most older buckets, and only if it is full.** A record
within reach that comes after its last one is in an older bucket than this, and the page has all the
records that it may have; an empty page leaves nothing at all in older buckets. -/
theorem older_of_next_eq_none (hcreated : lookUp thread = .ok created)
    (hstart : (h.firstQuestion now query).bucket ≠ Int64.minValue)
    (hpage : (h.fetch (s.reader user thread) lookUp now thread query).outcome = .ok page)
    (hnext : page.next = none) :
    (∀ last, page.records.getLast? = some last →
      ∀ b ∈ h.reach created (h.firstQuestion now query).bucket,
        ∀ r ∈ (s.partition user thread b).records, last.NewerThan r →
          r.bucket < last.bucket ∧ page.records.length = h.pageSize) ∧
    (page.records = [] →
      ∀ b ∈ h.below created (h.firstQuestion now query).bucket,
        (s.partition user thread b).records = []) := by
  obtain ⟨content, hcontent, hfirst⟩ := h.isFirst_of_fetch hcreated hstart hpage
  have hreach := s.rows_newerThan user thread (h.reach_pairwise created hstart)
  constructor
  · intro last hlast b hb r hr hnewer
    have hlast' := hlast
    rw [hfirst.records] at hlast'
    have hlastMem := List.mem_of_mem_take (List.mem_of_getLast? hlast')
    obtain rfl := s.bucket_of_mem_partition user thread hr
    have hmem : r ∈ content := Record.mem_suffix_of_newerThan hreach (h.content_suffix hcontent)
      hlastMem ((s.mem_rows user thread).2 ⟨hb, hr⟩) hnewer
    have hleft : r ∈ content.drop h.pageSize := by
      rw [Record.drop_eq_filter_newerThan (h.content_newerThan hcontent hstart) hlast',
        List.mem_filter]
      exact ⟨hmem, decide_eq_true hnewer⟩
    refine ⟨hfirst.left hnext r hleft last hlast, ?_⟩
    have hlen := List.length_pos_of_mem hleft
    rw [List.length_drop] at hlen
    rw [hfirst.records, List.length_take]
    omega
  · intro hempty b hb
    rw [hfirst.records, List.take_eq_nil_iff] at hempty
    have hpos := h.pageSize_pos
    have hnil : content = [] := hempty.resolve_left (by omega)
    have hbelow := h.rows_below_suffix hcontent
    rw [hnil, List.suffix_nil] at hbelow
    exact List.flatMap_eq_nil_iff.1 hbelow b hb

/-! ## Two threads with more to read -/

/-- Buckets of a second, and one record a page. -/
def singles : History :=
  { index := { size := 1000, epoch := 0, size_pos := BucketIndex.second_pos }, pageSize := 1
    pageSize_pos := Nat.one_pos }

/-- A record of bucket one. -/
def newerSingle : Record :=
  { messageId := .pack 1000 0 0, threadId := ⟨0⟩, bucket := 1, author := "bob", body := "second" }

/-- A record of bucket zero. -/
def olderSingle : Record :=
  { messageId := .pack 1 0 0, threadId := ⟨0⟩, bucket := 0, author := "bob", body := "first" }

/-- A store with both. -/
def twoSingles : Store := (Store.empty.insert "ann" newerSingle).insert "ann" olderSingle

/-- Buckets of a second that count from the fifth one, and two records a page. -/
def fromFifthSecond : History :=
  { index := { size := 1000, epoch := 5000, size_pos := BucketIndex.second_pos }, pageSize := 2
    pageSize_pos := Nat.two_pos }

/-- A record of the bucket before bucket zero. -/
def earlySingle : Record := { olderSingle with bucket := -1 }

/-- A store with a record of bucket one and this one. -/
def twoFarSingles : Store := (Store.empty.insert "ann" newerSingle).insert "ann" earlySingle

/-- A missing cursor is no end. A bucket that fills the page to the brim has none, although an older
bucket within reach holds a record that comes after the last one of the page; and a page that is not
full has none, although there is one in the bucket of the thread's creation, which is before bucket
zero. -/
theorem missing_cursor_hides_older :
    ((singles.fetch (twoSingles.reader "ann" ⟨0⟩) (fun _ => .ok 0) 1500 ⟨0⟩ {}).outcome =
        .ok { records := [newerSingle], next := none } ∧
      singles.index.atInstant 0 ≤ olderSingle.bucket ∧
      olderSingle ∈ (twoSingles.partition "ann" ⟨0⟩ 0).records ∧
      newerSingle.NewerThan olderSingle) ∧
    (fromFifthSecond.fetch (twoFarSingles.reader "ann" ⟨0⟩) (fun _ => .ok 4500) 6500 ⟨0⟩
        {}).outcome = .ok { records := [newerSingle], next := none } ∧
      fromFifthSecond.index.atInstant 4500 ≤ earlySingle.bucket ∧
      earlySingle ∈ (twoFarSingles.partition "ann" ⟨0⟩ (-1)).records ∧
      newerSingle.NewerThan earlySingle := by
  refine ⟨⟨rfl, by decide, by decide, by decide⟩, rfl, by decide, by decide, by decide⟩

/-- What the general statement says of this page. -/
theorem older_of_next_eq_none_two_buckets :
    (singles.firstQuestion 1500 {}).bucket ≠ Int64.minValue ∧
      (singles.fetch (twoSingles.reader "ann" ⟨0⟩) (fun _ => .ok 0) 1500 ⟨0⟩ {}).outcome =
        .ok { records := [newerSingle], next := none } ∧
      olderSingle.bucket < newerSingle.bucket ∧ 1 = singles.pageSize := by
  have hcreated : (fun _ => .ok 0 : ThreadLookup) ⟨0⟩ = .ok 0 := rfl
  have hstart : (singles.firstQuestion 1500 {}).bucket ≠ Int64.minValue := by decide
  have hpage : (singles.fetch (twoSingles.reader "ann" ⟨0⟩) (fun _ => .ok 0) 1500 ⟨0⟩ {}).outcome =
      .ok { records := [newerSingle], next := none } := rfl
  have hleft := (singles.older_of_next_eq_none hcreated hstart hpage rfl).1
  exact ⟨hstart, hpage, hleft newerSingle rfl 0 (by decide) olderSingle (by decide) (by decide)⟩

end ChatRelay.History

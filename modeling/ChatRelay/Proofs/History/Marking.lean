import ChatRelay.History.Serving
import ChatRelay.Proofs.History.Resumption

/-!
# What serving a page changes

To serve a page changes one read flag of the store at most, that of the record that the page shows
first. This record stands in one partition, where no other has its identifier, so that marking it is
marking it alone (`Store.records_markRead`). On the store with the flag, the same fetch finds the
same records, of which the first is now read, and there is nothing left to mark: a page can be
served again and again (`serve_marks_first`).
-/

namespace ChatRelay

/-! ## The record that is marked -/

namespace Store

variable (s : Store) {user : UserId} {thread : ThreadId} {record : Record}

/-- Marking a record changes that one alone. -/
theorem records_markRead (hrecord : record ∈ (s.partition user thread record.bucket).records)
    (user' : UserId) (thread' : ThreadId) (bucket : Bucket) :
    ((s.markRead user thread record.bucket record.messageId).partition user' thread'
      bucket).records =
      (s.partition user' thread' bucket).records.map fun r =>
        if user' = user ∧ thread' = thread ∧ r = record then r.withRead true else r := by
  rw [partition_markRead]
  split
  next hkey =>
    obtain ⟨rfl, rfl, rfl⟩ := hkey
    refine List.map_congr_left fun r hr => ?_
    have hsame : r.messageId = record.messageId ↔ r = record :=
      ⟨fun hid => Partition.eq_of_messageId_eq _ hr hrecord hid, fun heq => heq ▸ rfl⟩
    simp [hsame]
  next hkey =>
    -- the record is not here
    refine ((List.map_congr_left fun r hr => if_neg ?_).trans (List.map_id' _)).symm
    rintro ⟨rfl, rfl, rfl⟩
    exact hkey ⟨rfl, rfl, s.bucket_of_mem_partition user' thread' hr⟩

/-- The records of different buckets are different. -/
theorem nodup_rows (user : UserId) (thread : ThreadId) {buckets : List Bucket}
    (h : buckets.Nodup) : (s.rows user thread buckets).Nodup := by
  refine List.nodup_flatMap.2 ⟨fun bucket _ => ?_, h.imp fun {a b} hne r ha hb => hne ?_⟩
  · exact (nodup_map_messageId (s.partition user thread bucket).descending).of_map
  · exact (s.bucket_of_mem_partition user thread ha).symm.trans
      (s.bucket_of_mem_partition user thread hb)

end Store

/-! ## A fetch from changed records -/

/-- An answer with its records changed. -/
def Page.map (f : Record → Record) (page : Page) : Page :=
  { page with records := page.records.map f }

namespace HistoryPage

/-- A page with its records changed. -/
def map (f : Record → Record) (page : HistoryPage) : HistoryPage :=
  { page with records := page.records.map f }

theorem extend_map (f : Record → Record) (page : HistoryPage) (bucket : Bucket) (missing : Nat)
    (more : Page) :
    (page.map f).extend bucket missing (more.map f) = (page.extend bucket missing more).map f := by
  simp only [map, extend, Page.map, List.map_append, List.map_take]

@[simp] theorem length_map (f : Record → Record) (page : HistoryPage) :
    (page.map f).records.length = page.records.length := List.length_map _

end HistoryPage

/-- A part of changed records. -/
theorem Partition.page_map {p p' : Partition} {f : Record → Record}
    (h : p'.records = p.records.map f) (offset limit : Nat) :
    p'.page offset limit = (p.page offset limit).map f := by
  rw [page_eq, page_eq, Page.map, size, size, h, List.length_map, List.map_take, List.map_drop]

/-- Identifiers say where to read from. -/
theorem Partition.offsetBefore_map {p p' : Partition} {f : Record → Record}
    (h : p'.records = p.records.map f) (hid : ∀ r, (f r).messageId = r.messageId) (id : MessageId) :
    p'.offsetBefore id = p.offsetBefore id := by
  simp only [offsetBefore, h, partitionPoint_map, hid]

namespace Store

variable {s s' : Store} {user : UserId} {thread : ThreadId} {f : Record → Record}

/-- Questions to a store with changed records get the answers with the records changed. -/
theorem reader_map (hid : ∀ r, (f r).messageId = r.messageId)
    (hrecords : ∀ bucket, (s'.partition user thread bucket).records =
      (s.partition user thread bucket).records.map f) (question : Question) :
    s'.reader user thread question = (s.reader user thread question).map (·.map f) := by
  have hoffset : s'.offset user thread question = s.offset user thread question := by
    match question with
    | .page _ _ none => rfl
    | .page _ _ (some _) => rfl
    | .before bucket _ id =>
      exact congrArg Except.ok (Partition.offsetBefore_map (hrecords bucket) hid id)
  rw [reader_eq_map_offset, reader_eq_map_offset, hoffset]
  cases s.offset user thread question with
  | error cause => rfl
  | ok offset => exact congrArg Except.ok (Partition.page_map (hrecords _) offset _)

end Store

namespace History

variable (h : History) {reader reader' : Reader} {lookUp : ThreadLookup} {now : Millis}
  {thread : ThreadId} {query : HistoryQuery} {page : HistoryPage} {f : Record → Record}

section Map

variable (hreader : ∀ question, reader' question = (reader question).map (·.map f))
include hreader

theorem walk_map (calls : List HistoryCall) (page : HistoryPage) (bucket : Bucket) (count : Nat) :
    h.walk reader' calls (page.map f) bucket count =
      { calls := (h.walk reader calls page bucket count).calls
        outcome := (h.walk reader calls page bucket count).outcome.map (·.map f) } := by
  induction count generalizing calls page bucket with
  | zero => rfl
  | succ count ih =>
    rw [walk, walk, HistoryPage.length_map, hreader]
    dsimp only
    cases reader (.page bucket (h.pageSize - page.records.length) none) with
    | error cause => rfl
    | ok more =>
      simp only [Except.map]
      rw [HistoryPage.extend_map, HistoryPage.length_map]
      split
      · rfl
      · exact ih _ _ _

/-- **A fetch from changed records makes the same calls** and finds the same records, changed. -/
theorem fetch_map (lookUp : ThreadLookup) (now : Millis) (thread : ThreadId)
    (query : HistoryQuery) :
    h.fetch reader' lookUp now thread query =
      { calls := (h.fetch reader lookUp now thread query).calls
        outcome := (h.fetch reader lookUp now thread query).outcome.map (·.map f) } := by
  cases hread : reader (h.firstQuestion now query) with
  | error cause =>
    rw [fetch_of_unanswered hread, fetch_of_unanswered (by rw [hreader, hread]; rfl)]
    rfl
  | ok first =>
    have hread' : reader' (h.firstQuestion now query) = .ok (first.map f) := by
      rw [hreader, hread]
      rfl
    by_cases hleast : (h.firstQuestion now query).bucket = Int64.minValue
    · rw [fetch_of_least hread hleast, fetch_of_least hread' hleast]
      rfl
    · have hextend :=
        HistoryPage.extend_map f {} (h.firstQuestion now query).bucket h.pageSize first
      rw [show ({} : HistoryPage).map f = {} from rfl] at hextend
      rw [fetch_of_answered hread hleast, fetch_of_answered hread' hleast, goOn, goOn, hextend,
        HistoryPage.length_map]
      split
      · rfl
      · cases lookUp thread with
        | error cause => rfl
        | ok created => exact h.walk_map hreader _ _ _ _

end Map

/-! ## What was served -/

variable {s : Store} {user : UserId}

/-- A page shows no record twice. -/
theorem nodup_fetch (hpage : (h.fetch (s.reader user thread) lookUp now thread query).outcome =
    .ok page) : page.records.Nodup := by
  have hstart := ne_least_of_fetch hpage
  obtain ⟨lookUp', created, hcreated, hfetch⟩ := h.exists_created_of_fetch hpage
  rw [← hfetch] at hpage
  obtain ⟨content, hcontent⟩ := h.exists_content_of_fetch created hpage
  obtain ⟨page', hpage', hrecords, -⟩ := h.goesOn_fetch hcreated hstart hcontent
  obtain rfl := Except.ok.inj (hpage'.symm.trans hpage)
  have hall := s.nodup_rows user thread (h.nodup_reach created hstart)
  rw [hrecords]
  exact (hall.sublist (h.content_suffix hcontent).sublist).sublist (List.take_sublist _ _)

end History

namespace HistoryPage

variable (query : HistoryQuery) (page : HistoryPage)

/-- The page as it is shown: where no cursor was given, its first record counts as read. -/
def shown : HistoryPage :=
  { page with records := if query.cursor = none then page.records.modifyHead (·.withRead true)
                         else page.records }

/-- The record that is to be marked: the first one, where no cursor was given and it is not read. -/
def unreadFirst : Option Record :=
  if query.cursor = none then page.records.head?.filter (!·.read) else none

theorem markFirst_eq : page.markFirst query = (page.shown query, page.unreadFirst query) := by
  obtain ⟨records, next⟩ := page
  rw [markFirst, shown, unreadFirst]
  cases query.cursor with
  | some cursor => rfl
  | none =>
    cases records with
    | nil => rfl
    | cons first older =>
      dsimp only
      split
      next hread =>
        have hsame : first.withRead true = first := by rw [Record.withRead, ← hread]
        simp [Option.filter, hread, hsame]
      next hread => simp [Option.filter, hread]

variable {query page}

theorem unreadFirst_eq_some_iff {first : Record} : page.unreadFirst query = some first ↔
    query.cursor = none ∧ page.records.head? = some first ∧ first.read = false := by
  rw [unreadFirst]
  split
  next hcursor => simp [Option.filter_eq_some_iff, hcursor]
  next hcursor => simp [hcursor]

/-- The page with the mark set leaves nothing to mark. -/
theorem unreadFirst_shown : (page.shown query).unreadFirst query = none := by
  rw [Option.eq_none_iff_forall_ne_some]
  intro first hfirst
  obtain ⟨hcursor, hhead, hread⟩ := unreadFirst_eq_some_iff.1 hfirst
  rw [shown, if_pos hcursor] at hhead
  cases hrecords : page.records with
  | nil => simp [hrecords] at hhead
  | cons newest older =>
    rw [hrecords] at hhead
    obtain rfl := Option.some.inj hhead
    exact nomatch hread

/-- To show a page twice is to show it once. -/
theorem shown_shown : (page.shown query).shown query = page.shown query := by
  rw [shown, shown]
  split
  · cases page.records <;> rfl
  · rfl

/-- To mark the first record where it stands is to show the page, if the record is there once. -/
theorem map_eq_shown {first : Record} (hnodup : page.records.Nodup)
    (hfirst : page.unreadFirst query = some first) :
    page.map (fun r => if r = first then r.withRead true else r) = page.shown query := by
  obtain ⟨hcursor, hhead, -⟩ := unreadFirst_eq_some_iff.1 hfirst
  obtain ⟨older, hrecords⟩ := List.head?_eq_some_iff.1 hhead
  have hothers : older.map (fun r => if r = first then r.withRead true else r) = older := by
    rw [hrecords, List.nodup_cons] at hnodup
    refine (List.map_congr_left fun r hr => if_neg ?_).trans (List.map_id' _)
    rintro rfl
    exact hnodup.1 hr
  rw [map, shown, if_pos hcursor, hrecords, List.map_cons, if_pos rfl, hothers,
    List.modifyHead_cons]

end HistoryPage

namespace History

variable (h : History) {lookUp : ThreadLookup} {now : Millis} {thread : ThreadId}
  {query : HistoryQuery} {page : HistoryPage} {s : Store} {user : UserId}

/-- **The fetch after the first record was marked** makes the same calls and gives the page as it
was shown. -/
theorem fetch_markRead
    (hpage : (h.fetch (s.reader user thread) lookUp now thread query).outcome = .ok page)
    {first : Record} (hfirst : page.unreadFirst query = some first) :
    h.fetch ((s.markRead user thread first.bucket first.messageId).reader user thread) lookUp now
        thread query =
      { calls := (h.fetch (s.reader user thread) lookUp now thread query).calls
        outcome := .ok (page.shown query) } := by
  have hmem : first ∈ page.records :=
    List.mem_of_head? (HistoryPage.unreadFirst_eq_some_iff.1 hfirst).2.1
  have hrecords (bucket : Bucket) :
      ((s.markRead user thread first.bucket first.messageId).partition user thread
        bucket).records = (s.partition user thread bucket).records.map fun r =>
          if r = first then r.withRead true else r := by
    simpa using s.records_markRead (h.mem_partition_of_fetch hpage hmem) user thread bucket
  have hid (r : Record) :
      (if r = first then r.withRead true else r).messageId = r.messageId := by
    split <;> rfl
  rw [h.fetch_map (Store.reader_map hid hrecords), hpage, Except.map,
    HistoryPage.map_eq_shown (h.nodup_fetch hpage) hfirst]

/-- **What serving a page does, and doing it again does not.** Where a page is served from a store,
it is the one that is fetched, with the same calls, except that its first record is shown as read if
no cursor was given. The store is asked to mark this record, and no other, exactly if it was not
read already; this changes its read flag, in the partition of the user, the thread and its own
bucket, and nothing else at all. To serve the page again from the store as it is then, at the same
time, gives the same page after the same calls, and marks nothing. If the record cannot be marked,
the page is the same and the store stays as it was. -/
theorem serve_marks_first {served : Serving} (hserved : h.serve s (s.reader user thread)
      (s.marker user thread) lookUp now thread query = served)
    (hok : served.outcome = .ok page) :
    ∃ fetched, h.fetch (s.reader user thread) lookUp now thread query =
        { calls := served.calls, outcome := .ok fetched } ∧
      page = { fetched with
        records := if query.cursor = none then fetched.records.modifyHead (·.withRead true)
                   else fetched.records } ∧
      (∀ r, served.marked = some r ↔
        query.cursor = none ∧ fetched.records.head? = some r ∧ r.read = false) ∧
      (∀ r, served.marked = some r → r ∈ (s.partition user thread r.bucket).records) ∧
      (∀ user' thread' bucket, (served.store.partition user' thread' bucket).records =
        (s.partition user' thread' bucket).records.map fun r =>
          if user' = user ∧ thread' = thread ∧ served.marked = some r then r.withRead true
          else r) ∧
      (served.marked = none → served.store = s) ∧
      h.serve served.store (served.store.reader user thread) (served.store.marker user thread)
        lookUp now thread query = { served with marked := none } ∧
      ∀ marker : Marker,
        (∀ r, served.marked = some r → ∃ cause, marker r.bucket r.messageId = .error cause) →
        h.serve s (s.reader user thread) marker lookUp now thread query =
          { served with store := s } := by
  cases hfetch : (h.fetch (s.reader user thread) lookUp now thread query).outcome with
  | error error =>
    rw [serve_of_error s _ hfetch] at hserved
    subst hserved
    cases hok
  | ok fetched =>
    have hserve := fun marker => serve_of_ok s marker hfetch
    simp only [HistoryPage.markFirst_eq] at hserve
    rw [hserve] at hserved
    subst hserved
    obtain rfl : fetched.shown query = page := Except.ok.inj hok
    have hstored : ∀ r, fetched.unreadFirst query = some r →
        r ∈ (s.partition user thread r.bucket).records := fun r hr =>
      h.mem_partition_of_fetch hfetch
        (List.mem_of_head? (HistoryPage.unreadFirst_eq_some_iff.1 hr).2.1)
    dsimp only
    refine ⟨fetched, by rw [← hfetch], rfl, fun r => HistoryPage.unreadFirst_eq_some_iff, hstored,
      ?_, ?_, ?_, ?_⟩
    · intro user' thread' bucket
      cases hmark : fetched.unreadFirst query with
      | none => simp [Marker.mark]
      | some first =>
        simpa [Marker.mark, Store.marker, eq_comm] using
          s.records_markRead (hstored first hmark) user' thread' bucket
    · intro hnone
      rw [hnone, Marker.mark]
    · cases hmark : fetched.unreadFirst query with
      | none =>
        rw [Marker.mark, hserve, hmark, Marker.mark]
      | some first =>
        have hagain := h.fetch_markRead hfetch hmark
        rw [Marker.mark, Store.marker]
        dsimp only
        rw [serve_of_ok _ _ (congrArg Fetch.outcome hagain), HistoryPage.markFirst_eq,
          HistoryPage.shown_shown, HistoryPage.unreadFirst_shown, hagain, Marker.mark]
    · intro marker hfail
      rw [hserve]
      cases hmark : fetched.unreadFirst query with
      | none => rfl
      | some first =>
        obtain ⟨cause, hcause⟩ := hfail first hmark
        rw [Marker.mark, hcause]

/-- What the general statement says of a page that begins with the only record of bucket two, which
was not read. -/
theorem serve_marks_first_scattered :
    ∃ served page, couples.serve scattered (scattered.reader "ann" ⟨0⟩) (scattered.marker "ann" ⟨0⟩)
        atEpoch 2500 ⟨0⟩ {} = served ∧
      served.outcome = .ok page ∧
      page.records = [(recordAt 2000 "third").withRead true, recordAt 2 "second"] ∧
      served.marked = some (recordAt 2000 "third") ∧
      (served.store.partition "ann" ⟨0⟩ 2).records = [(recordAt 2000 "third").withRead true] ∧
      (served.store.partition "ann" ⟨0⟩ 0).records = [recordAt 2 "second", recordAt 1 "first"] ∧
      couples.serve served.store (served.store.reader "ann" ⟨0⟩) (served.store.marker "ann" ⟨0⟩)
        atEpoch 2500 ⟨0⟩ {} = { served with marked := none } ∧
      couples.serve scattered (scattered.reader "ann" ⟨0⟩) (.failing "read-only") atEpoch 2500 ⟨0⟩
        {} = { served with store := scattered } := by
  have hserved : couples.serve scattered (scattered.reader "ann" ⟨0⟩) (scattered.marker "ann" ⟨0⟩)
      atEpoch 2500 ⟨0⟩ {} = _ := rfl
  obtain ⟨fetched, hfetch, hpage, hmarked, -, hstore, -, hagain, hfail⟩ :=
    couples.serve_marks_first hserved rfl
  obtain rfl : { records := [recordAt 2000 "third", recordAt 2 "second"]
                 next := some { bucket := 0, cursor := ⟨"1"⟩ } } = fetched :=
    Except.ok.inj (congrArg Fetch.outcome hfetch)
  have hfirst := (hmarked (recordAt 2000 "third")).2 ⟨rfl, rfl, rfl⟩
  refine ⟨_, _, rfl, rfl, congrArg HistoryPage.records hpage, hfirst, ?_, ?_, hagain,
    hfail _ fun r _ => ⟨_, rfl⟩⟩
  · exact (hstore "ann" ⟨0⟩ 2).trans rfl
  · exact (hstore "ann" ⟨0⟩ 0).trans rfl

end History

end ChatRelay

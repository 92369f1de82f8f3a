import ChatRelay.Proofs.History.Content
import ChatRelay.Proofs.Store.Cursor
import Mathlib.Data.List.Dedup

/-!
# Cursors and new messages

A cursor counts records from the newest one on. When messages arrive that are newer than all others,
they go in front (`foldl_insertRecord_append`), so that the cursor comes to stand for as many
records earlier as messages have arrived: whoever resumes there is shown that many records once
more, or for the first time, before those that are left, of which none is skipped
(`resumed_after_arrivals`).
-/

namespace ChatRelay

/-- Some records newest first, of each message the one that was stored last. -/
def newestFirst (arrivals : List Record) : List Record :=
  arrivals.foldl (fun records record => insertRecord record records) []

section Lists

variable {record : Record} {front old arrivals records : List Record} {id : MessageId}

/-- Older records do not matter for the place of a newer one. -/
theorem insertRecord_append (h : ∀ r ∈ old, r.messageId < record.messageId) :
    insertRecord record (front ++ old) = insertRecord record front ++ old := by
  induction front with
  | nil => exact insertRecord_of_forall_lt h
  | cons head tail ih =>
    rw [List.cons_append, insertRecord, insertRecord, ih]
    split
    · rfl
    · split <;> rfl

/-- **Newer records go in front**, in their own order. -/
theorem foldl_insertRecord_append (front : List Record)
    (h : ∀ a ∈ arrivals, ∀ r ∈ old, r.messageId < a.messageId) :
    arrivals.foldl (fun records record => insertRecord record records) (front ++ old) =
      arrivals.foldl (fun records record => insertRecord record records) front ++ old := by
  induction arrivals generalizing front with
  | nil => rfl
  | cons arrival arrivals ih =>
    obtain ⟨hfirst, hrest⟩ := List.forall_mem_cons.1 h
    rw [List.foldl_cons, List.foldl_cons, insertRecord_append hfirst, ih _ hrest]

/-- The messages of a list of records after one of them was stored. -/
theorem mem_map_messageId_insertRecord :
    id ∈ (insertRecord record records).map (·.messageId) ↔
      id = record.messageId ∨ id ∈ records.map (·.messageId) := by
  induction records with
  | nil => simp [insertRecord]
  | cons head tail ih =>
    rw [insertRecord]
    split
    · rw [List.map_cons, List.mem_cons, ih, List.map_cons, List.mem_cons]
      exact or_left_comm
    · split
      next heq => simp [heq]
      next => simp

theorem descending_foldl_insertRecord (h : Descending records) :
    Descending (arrivals.foldl (fun records record => insertRecord record records) records) := by
  induction arrivals generalizing records with
  | nil => exact h
  | cons arrival arrivals ih => exact ih (descending_insertRecord h)

theorem mem_map_messageId_foldl_insertRecord :
    id ∈ (arrivals.foldl (fun records record => insertRecord record records) records).map
        (·.messageId) ↔
      id ∈ arrivals.map (·.messageId) ∨ id ∈ records.map (·.messageId) := by
  induction arrivals generalizing records with
  | nil => simp
  | cons arrival arrivals ih =>
    rw [List.foldl_cons, ih, mem_map_messageId_insertRecord, List.map_cons, List.mem_cons]
    exact or_left_comm.trans or_assoc.symm

/-- There is one record for each message that arrived. -/
theorem length_newestFirst (arrivals : List Record) :
    (newestFirst arrivals).length = (arrivals.map (·.messageId)).dedup.length := by
  have hnodup : ((newestFirst arrivals).map (·.messageId)).Nodup :=
    nodup_map_messageId (descending_foldl_insertRecord List.Pairwise.nil)
  have hperm : ((newestFirst arrivals).map (·.messageId)).Perm
      (arrivals.map (·.messageId)).dedup := by
    refine (List.perm_ext_iff_of_nodup hnodup (List.nodup_dedup _)).2 fun id => ?_
    rw [newestFirst, mem_map_messageId_foldl_insertRecord, List.mem_dedup]
    simp
  rw [← hperm.length_eq, List.length_map]

end Lists

namespace Store

variable (s : Store) {user : UserId} {thread : ThreadId} {bucket : Bucket}
  {arrivals : List Record}

/-- What a partition holds after records of its own were stored. -/
theorem partition_foldl_insert
    (h : ∀ r ∈ arrivals, r.threadId = thread ∧ r.bucket = bucket) :
    ((arrivals.foldl (·.insert user ·) s).partition user thread bucket).records =
      arrivals.foldl (fun records record => insertRecord record records)
        (s.partition user thread bucket).records := by
  induction arrivals generalizing s with
  | nil => rfl
  | cons arrival arrivals ih =>
    obtain ⟨⟨hthread, hbucket⟩, hrest⟩ := List.forall_mem_cons.1 h
    rw [List.foldl_cons, List.foldl_cons, ih _ hrest, partition_insert,
      if_pos ⟨rfl, hthread, hbucket⟩, Partition.insert_records]

/-- **Newer messages go in front of a partition.** -/
theorem partition_arrivals
    (h : ∀ r ∈ arrivals, r.threadId = thread ∧ r.bucket = bucket ∧
      ∀ old ∈ (s.partition user thread bucket).records, old.messageId < r.messageId) :
    ((arrivals.foldl (·.insert user ·) s).partition user thread bucket).records =
      newestFirst arrivals ++ (s.partition user thread bucket).records := by
  rw [s.partition_foldl_insert fun r hr => ⟨(h r hr).1, (h r hr).2.1⟩, newestFirst]
  exact foldl_insertRecord_append [] fun r hr => (h r hr).2.2

/-! ## Resuming -/

variable {question : Question} {page : Page} {cursor : Cursor}

/-- **Where a cursor comes to stand when messages arrive.** Take a page of a partition that has a
cursor, and let messages arrive that are newer than all others. A request that resumes at the cursor
gets, as far as its limit goes, first as many records as messages have arrived, namely those that
now stand right before the end of the page, and then exactly the records that follow the last one of
the page. So none of these is skipped; but as soon as anything has arrived, the last record of the
page comes again. -/
theorem resumed_after_arrivals (hread : s.reader user thread question = .ok page)
    (hlimit : 0 < question.limit) (hnext : page.next = some cursor)
    (harrivals : ∀ r ∈ arrivals, r.threadId = thread ∧ r.bucket = question.bucket ∧
      ∀ old ∈ (s.partition user thread question.bucket).records, old.messageId < r.messageId) :
    ∃ (front repeated rest : List Record) (last : Record),
      (s.partition user thread question.bucket).records = front ++ rest ∧
      page.records <:+ front ∧ page.records.getLast? = some last ∧
      rest = (s.partition user thread question.bucket).records.filter (last.NewerThan ·) ∧
      repeated <:+ newestFirst arrivals ++ front ∧
      repeated.length = (arrivals.map (·.messageId)).dedup.length ∧
      (arrivals ≠ [] → repeated.getLast? = some last) ∧
      ∀ limit, ∃ more,
        (arrivals.foldl (·.insert user ·) s).reader user thread
          (.page question.bucket limit (some cursor)) = .ok more ∧
        more.records = (repeated ++ rest).take limit := by
  obtain ⟨offset, -, rfl⟩ := s.exists_page_of_reader user thread hread
  obtain ⟨front, rest, last, hrecords, hpage, hlast, hfront, hcursor⟩ :=
    Partition.page_next_split _ hlimit hnext
  have hnew := s.partition_arrivals harrivals
  have hordered := s.partition_newerThan user thread question.bucket
  rw [hrecords] at hnew hordered ⊢
  refine ⟨front, (newestFirst arrivals ++ front).drop front.length, rest, last, rfl, hpage, hlast,
    ?_, List.drop_suffix _ _, ?_, fun hsome => ?_, fun limit => ⟨_, by rw [reader, hcursor], ?_⟩⟩
  · rw [← Record.drop_eq_filter_newerThan (n := front.length) hordered, List.drop_left]
    rwa [List.take_left]
  · rw [List.length_drop, List.length_append, length_newestFirst, Nat.add_sub_cancel]
  · have hpos : 0 < (newestFirst arrivals).length := by
      rw [length_newestFirst, List.length_pos_iff, ne_eq, List.dedup_eq_nil, List.map_eq_nil_iff]
      exact hsome
    rw [List.getLast?_drop, List.getLast?_append, hfront, List.length_append, if_neg (by omega),
      Option.some_or]
  · have hle : front.length ≤ (newestFirst arrivals ++ front).length := by
      rw [List.length_append]
      omega
    rw [Partition.page_records, hnew, ← List.drop_append_of_le_length hle, List.append_assoc]

/-! ## A message that comes twice -/

/-- A message of bucket zero. -/
def note (id : MessageId) : Record :=
  { messageId := id, threadId := ⟨0⟩, bucket := 0, author := "bob", body := "note" }

/-- Two messages in one bucket. -/
def twoNotes : Store := (empty.insert "ann" (note 1)).insert "ann" (note 2)

/-- The page with the newer of the two, which goes on at a cursor. -/
def newerNote : Page := { records := [note 2], next := some ⟨"1"⟩ }

/-- A cursor does not survive a new message: where one arrives after this page, what the cursor
gives is not what follows the page, but begins with its last record again. -/
theorem cursor_repeats_after_arrival :
    twoNotes.reader "ann" ⟨0⟩ (.page 0 1 none) = .ok newerNote ∧
    newerNote.records.getLast? = some (note 2) ∧
    (∀ old ∈ (twoNotes.partition "ann" ⟨0⟩ 0).records, old.messageId < (note 3).messageId) ∧
    ∃ more, (twoNotes.insert "ann" (note 3)).reader "ann" ⟨0⟩ (.page 0 5 (some ⟨"1"⟩)) =
        .ok more ∧
      more.records = [note 2, note 1] ∧
      more.records ≠ (twoNotes.partition "ann" ⟨0⟩ 0).records.filter ((note 2).NewerThan ·) :=
  ⟨rfl, rfl, by decide, { records := [note 2, note 1] }, rfl, rfl, by decide⟩

/-- What the general statement says of two messages that arrive after this page. -/
theorem resumed_after_two_arrivals :
    twoNotes.reader "ann" ⟨0⟩ (.page 0 1 none) = .ok newerNote ∧
    (∀ r ∈ [note 4, note 3], r.threadId = ⟨0⟩ ∧ r.bucket = 0 ∧
      ∀ old ∈ (twoNotes.partition "ann" ⟨0⟩ 0).records, old.messageId < r.messageId) ∧
    ∃ repeated more, repeated.length = 2 ∧ repeated.getLast? = some (note 2) ∧
      ([note 4, note 3].foldl (·.insert "ann" ·) twoNotes).reader "ann" ⟨0⟩
        (.page 0 5 (some ⟨"1"⟩)) = .ok more ∧
      more.records = repeated ++ [note 1] := by
  have hread : twoNotes.reader "ann" ⟨0⟩ (.page 0 1 none) = .ok newerNote := rfl
  have harrivals : ∀ r ∈ [note 4, note 3], r.threadId = ⟨0⟩ ∧ r.bucket = 0 ∧
      ∀ old ∈ (twoNotes.partition "ann" ⟨0⟩ 0).records, old.messageId < r.messageId := by
    decide
  obtain ⟨front, repeated, rest, last, -, -, hlast, hrest, -, hlength, hrepeated, hresumed⟩ :=
    twoNotes.resumed_after_arrivals hread Nat.one_pos rfl harrivals
  obtain rfl : note 2 = last := Option.some.inj hlast
  have hnote : rest = [note 1] := hrest
  obtain ⟨more, hmore, hrecords⟩ := hresumed 5
  refine ⟨hread, harrivals, repeated, more, hlength, hrepeated (by decide), hmore, ?_⟩
  rw [hrecords, hnote, List.take_of_length_le]
  rw [List.length_append, hlength]
  decide

end Store

end ChatRelay

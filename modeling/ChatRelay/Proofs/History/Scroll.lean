import ChatRelay.Proofs.History.Content

/-!
# Reading a thread backwards to its end

A client reads a page, asks for what comes before its last record, and goes on until a page is empty
(`History.scroll`). Others write meanwhile; as long as they store only what is newer than the client
has read down to, the client gets everything that was within reach when it started, once and in
order (`scroll_complete`). What is still to be read shrinks with each page, so the end comes.
-/

namespace ChatRelay

/-- The query for what comes before a record. -/
def HistoryQuery.olderThan (r : Record) : HistoryQuery :=
  { bucket := some r.bucket, before := some r.messageId }

/-- What goes on around a client that reads page after page: the instant of each request, and what
is written after each page, which may depend on the last record of the page. -/
structure Surroundings where
  now : Nat → Millis
  writes : Nat → Record → List Write

namespace History

/-- Reads pages backwards until one is empty. `i` counts the pages so far. The outcome is `none` if
a page cannot be fetched or no page is empty within the requests that are allowed. -/
def scroll (h : History) (lookUp : ThreadLookup) (user : UserId) (thread : ThreadId)
    (around : Surroundings) :
    (requests i : Nat) → Store → HistoryQuery → Option (List (List Record))
  | 0, _, _, _ => none
  | requests + 1, i, s, query =>
    match (h.fetch (s.reader user thread) lookUp (around.now i) thread query).outcome with
    | .error _ => none
    | .ok page =>
      match page.records.getLast? with
      | none => some []
      | some last =>
        (h.scroll lookUp user thread around requests (i + 1) (s.writeAll (around.writes i last))
          (.olderThan last)).map (page.records :: ·)

variable (h : History) {s : Store} {user : UserId} {thread : ThreadId} {created : Millis}
  {question : Question} {content : List Record} {r : Record}

/-! ## One request after another -/

/-- What the query for older records is about. -/
theorem content?_olderThan (s : Store) (user : UserId) (thread : ThreadId) (created : Millis)
    (hstart : r.bucket ≠ Int64.minValue) (now : Millis) :
    h.content? s user thread created (h.firstQuestion now (.olderThan r)) =
      some ((s.rows user thread (h.reach created r.bucket)).filter (r.NewerThan ·)) := by
  have hbelow : (s.rows user thread (h.below created r.bucket)).filter (r.NewerThan ·) =
      s.rows user thread (h.below created r.bucket) := by
    refine List.filter_eq_self.2 fun x hx => decide_eq_true ?_
    exact .inl (h.lt_of_mem_rows_below hstart hx)
  rw [reach, Store.rows_cons, List.filter_append, hbelow]
  exact congrArg (Option.map _) (s.asked?_before user thread r h.pageSize)

/-- What comes after a record is the same seen from its bucket as from where reading started. -/
theorem filter_reach (hstart : question.bucket ≠ Int64.minValue)
    (hr : r.bucket ∈ h.reach created question.bucket) :
    (s.rows user thread (h.reach created question.bucket)).filter (r.NewerThan ·) =
      (s.rows user thread (h.reach created r.bucket)).filter (r.NewerThan ·) := by
  obtain ⟨newer, hsplit, hnewer⟩ := h.reach_split hstart hr
  have hnone : (s.rows user thread newer).filter (r.NewerThan ·) = [] := by
    refine List.filter_eq_nil_iff.2 fun x hx => ?_
    have hlt := hnewer x.bucket ((s.mem_rows user thread).1 hx).1
    rw [decide_eq_true_eq]
    exact Record.NewerThan.asymm (.inl hlt)
  rw [hsplit, Store.rows_append, List.filter_append, hnone, List.nil_append]

/-- No bucket within reach is the least number, unless reading starts there. -/
theorem ne_minValue_of_mem_reach {start b : Bucket} (hstart : start ≠ Int64.minValue)
    (hb : b ∈ h.reach created start) : b ≠ Int64.minValue := by
  rcases (h.mem_reach hstart).1 hb with rfl | ⟨hle, -⟩
  · exact hstart
  · have hnonneg := h.oldest_nonneg created
    rw [Int64.le_iff_toInt_le] at hle
    exact Bucket.ne_minValue_of_nonneg (by omega)

section Page

variable (hstart : question.bucket ≠ Int64.minValue)
  (hcontent : h.content? s user thread created question = some content) {n : Nat}
  (hlast : (content.take n).getLast? = some r)
include hstart hcontent hlast

/-- What is left after a page is what comes after its last record. -/
theorem drop_eq_filter_reach :
    r.bucket ∈ h.reach created question.bucket ∧
      content.drop n = (s.rows user thread (h.reach created r.bucket)).filter (r.NewerThan ·) := by
  have hsuffix := h.content_suffix hcontent
  have hmem := List.mem_of_mem_take (List.mem_of_getLast? hlast)
  have hr := ((s.mem_rows user thread).1 (hsuffix.subset hmem)).1
  have horder := s.rows_newerThan user thread (h.reach_pairwise created hstart)
  refine ⟨hr, ?_⟩
  rw [Record.drop_eq_filter_newerThan (h.content_newerThan hcontent hstart) hlast,
    Record.filter_newerThan_of_suffix horder hsuffix hmem, h.filter_reach hstart hr]

/-- **What a page leaves is what the next request is about**, read flags aside, whatever others
write between the two that spares what comes after the page. -/
theorem content?_after_page {writes : List Write} (hspares : ∀ w ∈ writes, w.Spares user thread r)
    (now : Millis) :
    (h.firstQuestion now (.olderThan r)).bucket ≠ Int64.minValue ∧
      ∃ rest, h.content? (s.writeAll writes) user thread created
          (h.firstQuestion now (.olderThan r)) = some rest ∧
        rest.map Record.unread = (content.drop n).map Record.unread := by
  obtain ⟨hr, hleft⟩ := h.drop_eq_filter_reach hstart hcontent hlast
  have hrStart : r.bucket ≠ Int64.minValue := h.ne_minValue_of_mem_reach hstart hr
  refine ⟨hrStart, _, h.content?_olderThan (s.writeAll writes) user thread created hrStart now, ?_⟩
  rw [hleft]
  exact s.older_rows_writeAll hspares (h.reach created r.bucket)

end Page

/-! ## To the end -/

variable {lookUp : ThreadLookup} {around : Surroundings}

/-- **Whatever a client asks first, reading on gives all that the question is about**, with at most
one request for each record and one more. -/
theorem scroll_of_content (hcreated : lookUp thread = .ok created)
    (hspares : ∀ i last, ∀ w ∈ around.writes i last, w.Spares user thread last) {requests : Nat}
    (i : Nat) {query : HistoryQuery}
    (hstart : (h.firstQuestion (around.now i) query).bucket ≠ Int64.minValue)
    (hcontent : h.content? s user thread created (h.firstQuestion (around.now i) query) =
      some content)
    (henough : content.length < requests) :
    ∃ pages, h.scroll lookUp user thread around requests i s query = some pages ∧
      pages.flatten.map Record.unread = content.map Record.unread := by
  -- each page that is not empty leaves less to read, so that the requests suffice
  induction requests generalizing i s query content with
  | zero => omega
  | succ requests ih =>
    obtain ⟨page, hpage, hrecords, -⟩ := h.fetch_store hcreated hstart hcontent
    have hpos := h.pageSize_pos
    rw [scroll, hpage]
    dsimp only
    cases hlast : page.records.getLast? with
    | none =>
      rw [List.getLast?_eq_none_iff, hrecords, List.take_eq_nil_iff] at hlast
      refine ⟨[], rfl, ?_⟩
      rw [hlast.resolve_left (by omega)]
      rfl
    | some last =>
      rw [hrecords] at hlast
      obtain ⟨hstart', rest, hrest, hleft⟩ :=
        h.content?_after_page hstart hcontent hlast (hspares i last) (around.now (i + 1))
      have hlen := congrArg List.length hleft
      have hsome := List.length_pos_of_mem (List.mem_of_mem_take (List.mem_of_getLast? hlast))
      rw [List.length_map, List.length_map, List.length_drop] at hlen
      obtain ⟨pages, hpages, hflat⟩ := ih (i + 1) hstart' hrest (by omega)
      refine ⟨page.records :: pages, congrArg (·.map (page.records :: ·)) hpages, ?_⟩
      rw [List.flatten_cons, List.map_append, hflat, hleft, hrecords, ← List.map_append,
        List.take_append_drop]

/-- Where reading starts: in an explicit bucket, or in the current one. -/
def start (now : Millis) (start? : Option Bucket) : Bucket := start?.getD (h.index.atInstant now)

theorem firstQuestion_start {start? : Option Bucket} (hstart : ∀ b ∈ start?, 0 ≤ b) (now : Millis) :
    h.firstQuestion now { bucket := start? } = .page (h.start now start?) h.pageSize none := by
  cases start? with
  | none => rfl
  | some b =>
    rw [firstQuestion]
    exact if_pos (hstart b rfl)

/-- **Reading backwards is complete.** From the current bucket or an explicit one, page after page,
a client gets each record that the starting bucket and the older ones within reach held at the
start, once and newest first, whatever newer records are stored and whatever is marked meanwhile.
The current bucket must not be the least number, which has none below it. -/
theorem scroll_complete (hcreated : lookUp thread = .ok created) {start? : Option Bucket}
    (hexplicit : ∀ b ∈ start?, 0 ≤ b)
    (hcurrent : start? = none → h.index.atInstant (around.now 0) ≠ Int64.minValue)
    (hspares : ∀ i last, ∀ w ∈ around.writes i last, w.Spares user thread last) {requests : Nat}
    (henough :
      (s.rows user thread (h.reach created (h.start (around.now 0) start?))).length < requests) :
    ∃ pages, h.scroll lookUp user thread around requests 0 s { bucket := start? } = some pages ∧
      pages.flatten.map Record.unread =
        (s.rows user thread (h.reach created (h.start (around.now 0) start?))).map Record.unread ∧
      pages.flatten.Pairwise Record.NewerThan ∧
      ∀ r, r ∈ s.rows user thread (h.reach created (h.start (around.now 0) start?)) ↔
        (r.bucket = h.start (around.now 0) start? ∨
          h.oldest created ≤ r.bucket ∧ r.bucket < h.start (around.now 0) start?) ∧
        r ∈ (s.partition user thread r.bucket).records := by
  have hquestion := h.firstQuestion_start hexplicit (around.now 0)
  have hstart : h.start (around.now 0) start? ≠ Int64.minValue := by
    cases start? with
    | none => exact hcurrent rfl
    | some b =>
      have hnonneg : 0 ≤ b := hexplicit b rfl
      rw [Int64.le_iff_toInt_le] at hnonneg
      exact Bucket.ne_minValue_of_nonneg hnonneg
  generalize h.start (around.now 0) start? = start at *
  have hfirst : (h.firstQuestion (around.now 0) { bucket := start? }).bucket ≠ Int64.minValue := by
    rw [hquestion]
    exact hstart
  have hcontent : h.content? s user thread created
      (h.firstQuestion (around.now 0) { bucket := start? }) =
        some (s.rows user thread (h.reach created start)) := by
    rw [hquestion]
    rfl
  obtain ⟨pages, hpages, hflat⟩ := h.scroll_of_content hcreated hspares 0 hfirst hcontent henough
  refine ⟨pages, hpages, hflat, ?_, fun r => ?_⟩
  · -- the order does not look at read flags
    have horder := s.rows_newerThan user thread (h.reach_pairwise created hstart)
    have hunread : (pages.flatten.map Record.unread).Pairwise Record.NewerThan := by
      rw [hflat]
      exact List.pairwise_map.2 horder
    exact (List.pairwise_map (f := Record.unread)).1 hunread
  · rw [s.mem_rows user thread, h.mem_reach hstart]

/-! ## A thread read while it is written -/

/-- Buckets of a second, and two records a page. -/
def couples : History :=
  { index := { size := 1000, epoch := 0, size_pos := BucketIndex.second_pos }, pageSize := 2
    pageSize_pos := Nat.two_pos }

/-- A record of some millisecond. -/
def recordAt (timestamp : Nat) (body : String) : Record :=
  { messageId := .pack timestamp 0 0, threadId := ⟨0⟩
    bucket := couples.index.ofId (.pack timestamp 0 0), author := "bob", body }

/-- Two records of bucket two and one of bucket zero. -/
def threeRecords : Store :=
  [recordAt 1 "first", recordAt 2000 "second", recordAt 2001 "third"].foldl (·.insert "ann" ·)
    Store.empty

/-- After each page, one more record is stored and the oldest one is marked, if that spares what is
still to be read. -/
def busy : Surroundings where
  now _ := 2500
  writes _ last :=
    [.insert "ann" (recordAt 2002 "fourth"), .markRead "ann" ⟨0⟩ 0 (.pack 1 0 0)].filter
      (Write.Spares "ann" ⟨0⟩ last ·)

/-- Every thread was created at the epoch. -/
def atEpoch : ThreadLookup := fun _ => .ok 0

/-- What the general statement says of three records and a busy store. -/
theorem scroll_complete_three :
    ∃ pages, couples.scroll atEpoch "ann" ⟨0⟩ busy 4 0 threeRecords {} = some pages ∧
      pages.flatten.map Record.unread =
        [recordAt 2001 "third", recordAt 2000 "second", recordAt 1 "first"] := by
  have hcreated : atEpoch ⟨0⟩ = .ok 0 := rfl
  have hexplicit : ∀ b ∈ (none : Option Bucket), 0 ≤ b := fun b hb => nomatch hb
  have hcurrent : (none : Option Bucket) = none →
      couples.index.atInstant (busy.now 0) ≠ Int64.minValue := fun _ => by decide
  have hspares : ∀ i last, ∀ w ∈ busy.writes i last, w.Spares "ann" ⟨0⟩ last := fun i last w hw =>
    of_decide_eq_true (List.mem_filter.1 hw).2
  have henough : (threeRecords.rows "ann" ⟨0⟩
      (couples.reach 0 (couples.start (busy.now 0) none))).length < 4 := by decide
  obtain ⟨pages, hpages, hrecords, -⟩ :=
    couples.scroll_complete hcreated hexplicit hcurrent hspares henough
  exact ⟨pages, hpages, hrecords⟩

end History

end ChatRelay

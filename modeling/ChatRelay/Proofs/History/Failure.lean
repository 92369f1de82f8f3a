import ChatRelay.History.Serving
import ChatRelay.Proofs.History.Calls

/-!
# Failures on the way to a page

A bucket that cannot be read, and a thread that cannot be looked up, end a fetch where it comes to
them and not before. So a fetch with failures is the one without them up to the first call that
fails, and all of it if none does (`Fetch.CutOff`, `fetch_cutOff`). What would fail behind the point
where the page is full is never called, and a page that was not fetched marks nothing
(`serve_failingIn`).
-/

namespace ChatRelay

namespace HistoryCall

/-- Whether a call fails with a reader and a lookup, and with what error. -/
inductive Fails (reader : Reader) (lookUp : ThreadLookup) : HistoryCall → HistoryError → Prop
  | ask {question : Question} {cause : StoreError} (h : reader question = .error cause) :
    Fails reader lookUp (.ask question) (.bucketQuery question.bucket cause)
  | lookUp {thread : ThreadId} {cause : StoreError} (h : lookUp thread = .error cause) :
    Fails reader lookUp (.lookUp thread) (.threadLookup thread cause)

/-- Whether a call comes to one of the buckets that cannot be read, or to a thread that cannot be
looked up, and with what error. -/
inductive Meets (failing : List Bucket) (reason : String) (lookUp : ThreadLookup) :
    HistoryCall → HistoryError → Prop
  | bucket {question : Question} (h : question.bucket ∈ failing) :
    Meets failing reason lookUp (.ask question)
      (.bucketQuery question.bucket (.unavailable reason))
  | thread {thread : ThreadId} {cause : StoreError} (h : lookUp thread = .error cause) :
    Meets failing reason lookUp (.lookUp thread) (.threadLookup thread cause)

variable {reader : Reader} {lookUp lookUp' : ThreadLookup} {call : HistoryCall}
  {error : HistoryError}

theorem not_fails_ask {question : Question} {more : Page} (h : reader question = .ok more) :
    ¬(ask question).Fails reader lookUp error := by
  rintro ⟨herror⟩
  exact nomatch h.symm.trans herror

theorem not_fails_lookUp {thread : ThreadId} {created : Millis} (h : lookUp thread = .ok created) :
    ¬(HistoryCall.lookUp thread).Fails reader lookUp error := by
  rintro (_ | herror)
  exact nomatch h.symm.trans herror

/-- A call that is answered where all buckets can be read fails only for what it meets. -/
theorem fails_failingIn_iff {failing : List Bucket} {reason : String}
    (hanswered : ∀ error, ¬call.Fails reader lookUp error) :
    call.Fails (reader.failingIn failing reason) lookUp' error ↔
      call.Meets failing reason lookUp' error := by
  constructor
  · rintro (@⟨question, cause, herror⟩ | herror)
    · rw [Reader.failingIn] at herror
      split at herror
      next hmem =>
        obtain rfl := Except.error.inj herror
        exact .bucket hmem
      next => exact absurd (.ask herror) (hanswered _)
    · exact .thread herror
  · rintro (hmem | herror)
    · exact .ask (if_pos hmem)
    · exact .lookUp herror

end HistoryCall

/-- Whether a fetch is another one as far as this gets without a call that fails. -/
inductive Fetch.CutOff (fails : HistoryCall → HistoryError → Prop) (whole : Fetch) : Fetch → Prop
  | none (h : ∀ call ∈ whole.calls, ∀ error, ¬fails call error) : CutOff fails whole whole
  | first {before : List HistoryCall} {call : HistoryCall} {after : List HistoryCall}
    {error : HistoryError} (hcalls : whole.calls = before ++ call :: after)
    (hbefore : ∀ c ∈ before, ∀ e, ¬fails c e) (hcall : fails call error) :
    CutOff fails whole { calls := before ++ [call], outcome := .error error }

/-- It matters only which of the calls of the whole fetch fail. -/
theorem Fetch.CutOff.congr {fails fails' : HistoryCall → HistoryError → Prop} {whole f : Fetch}
    (h : whole.CutOff fails f)
    (hsame : ∀ call ∈ whole.calls, ∀ error, fails call error ↔ fails' call error) :
    whole.CutOff fails' f := by
  cases h with
  | none hnone =>
    exact .none fun call hcall error herror =>
      hnone call hcall error ((hsame call hcall error).2 herror)
  | first hcalls hbefore hcall =>
    refine .first hcalls (fun c hc e he => hbefore c hc e ((hsame c ?_ e).2 he))
      ((hsame _ ?_ _).1 hcall)
    · simp [hcalls, hc]
    · simp [hcalls]

namespace History

variable (h : History) {reader reader' : Reader} {lookUp lookUp' : ThreadLookup}
  {now created : Millis} {thread : ThreadId} {query : HistoryQuery} {page : HistoryPage}

/-- What was called stays called. -/
theorem exists_calls_walk (reader : Reader) (calls : List HistoryCall) (page : HistoryPage)
    (bucket : Bucket) (count : Nat) :
    ∃ later, (h.walk reader calls page bucket count).calls = calls.reverse ++ later := by
  induction count generalizing calls page bucket with
  | zero => exact ⟨[], (List.append_nil _).symm⟩
  | succ count ih =>
    rw [walk]
    dsimp only
    split
    · exact ⟨_, List.reverse_cons⟩
    · split
      · exact ⟨_, List.reverse_cons⟩
      · obtain ⟨later, hlater⟩ := ih (.ask (.page bucket (h.pageSize - page.records.length) none) ::
          calls) _ (bucket - 1)
        rw [List.reverse_cons, List.append_assoc] at hlater
        exact ⟨_, hlater⟩

/-- The walk asks about its first bucket next. -/
theorem exists_calls_walk_succ (reader : Reader) (calls : List HistoryCall) (page : HistoryPage)
    (bucket : Bucket) (count : Nat) :
    ∃ later, (h.walk reader calls page bucket (count + 1)).calls =
      calls.reverse ++ .ask (.page bucket (h.pageSize - page.records.length) none) :: later := by
  rw [walk]
  dsimp only
  split
  · exact ⟨[], List.reverse_cons⟩
  · split
    · exact ⟨[], List.reverse_cons⟩
    · obtain ⟨later, hlater⟩ := h.exists_calls_walk reader
        (.ask (.page bucket (h.pageSize - page.records.length) none) :: calls) _ (bucket - 1) count
      rw [List.reverse_cons, List.append_assoc] at hlater
      exact ⟨later, hlater⟩

/-- A fetch begins with its first question. -/
theorem exists_calls_fetch (reader : Reader) (lookUp : ThreadLookup) (now : Millis)
    (thread : ThreadId) (query : HistoryQuery) :
    ∃ later, (h.fetch reader lookUp now thread query).calls =
      .ask (h.firstQuestion now query) :: later := by
  rcases h.fetch_cases reader lookUp now thread query with
    ⟨cause, -, hfetch⟩ | ⟨first, -, -, hfetch⟩ | ⟨first, -, -, hfetch⟩
  · rw [hfetch]
    exact ⟨[], rfl⟩
  · rw [hfetch]
    exact ⟨[], rfl⟩
  · rw [hfetch, goOn]
    split
    · exact ⟨[], rfl⟩
    · dsimp only
      split
      · exact ⟨_, rfl⟩
      · obtain ⟨later, hlater⟩ := h.exists_calls_walk reader
          [.lookUp thread, .ask (h.firstQuestion now query)] _ _ _
        exact ⟨_, hlater⟩

/-! ## Up to the first failure -/

section CutOff

variable (hreader : ∀ question more, reader' question = .ok more → reader question = .ok more)
include hreader

/-- **A walk with failures is the one without them up to the first.** -/
theorem walk_cutOff {calls : List HistoryCall} (page : HistoryPage) (bucket : Bucket) (count : Nat)
    (hcalls : ∀ call ∈ calls, ∀ error, ¬call.Fails reader' lookUp' error) :
    (h.walk reader calls page bucket count).CutOff (·.Fails reader' lookUp')
      (h.walk reader' calls page bucket count) := by
  induction count generalizing calls page bucket with
  | zero => exact .none fun call hcall => hcalls call (List.mem_reverse.1 hcall)
  | succ count ih =>
    cases hread : reader' (.page bucket (h.pageSize - page.records.length) none) with
    | error cause =>
      obtain ⟨later, hlater⟩ := h.exists_calls_walk_succ reader calls page bucket count
      have hcut : h.walk reader' calls page bucket (count + 1) =
          { calls := calls.reverse ++ [.ask (.page bucket (h.pageSize - page.records.length) none)]
            outcome := .error (.bucketQuery bucket cause) } := by
        rw [walk, hread, ← List.reverse_cons]
      rw [hcut]
      exact .first hlater (fun call hcall => hcalls call (List.mem_reverse.1 hcall)) (.ask hread)
    | ok more =>
      have hcalls' := List.forall_mem_cons.2 ⟨fun _ => HistoryCall.not_fails_ask hread, hcalls⟩
      rw [walk, walk, hread, hreader _ more hread]
      dsimp only
      split
      · exact .none fun call hcall => hcalls' call (List.mem_reverse.1 hcall)
      · exact ih _ _ hcalls'

/-- **A fetch with failures is the one without them up to the first.** -/
theorem fetch_cutOff
    (hlookUp : ∀ created, lookUp' thread = .ok created → lookUp thread = .ok created)
    (now : Millis) (query : HistoryQuery) :
    (h.fetch reader lookUp now thread query).CutOff (·.Fails reader' lookUp')
      (h.fetch reader' lookUp' now thread query) := by
  cases hread : reader' (h.firstQuestion now query) with
  | error cause =>
    obtain ⟨later, hlater⟩ := h.exists_calls_fetch reader lookUp now thread query
    have hcut : h.fetch reader' lookUp' now thread query =
        { calls := [] ++ [.ask (h.firstQuestion now query)]
          outcome := .error (.bucketQuery (h.firstQuestion now query).bucket cause) } := by
      rw [fetch_of_unanswered hread]
      rfl
    rw [hcut]
    exact .first hlater (fun _ hcall => absurd hcall List.not_mem_nil) (.ask hread)
  | ok first =>
    have hasked : ∀ call ∈ [HistoryCall.ask (h.firstQuestion now query)], ∀ error,
        ¬call.Fails reader' lookUp' error := by
      intro call hcall error
      obtain rfl := List.mem_singleton.1 hcall
      exact HistoryCall.not_fails_ask hread
    by_cases hleast : (h.firstQuestion now query).bucket = Int64.minValue
    · -- both stop the program here
      rw [fetch_of_least hread hleast, fetch_of_least (hreader _ first hread) hleast]
      exact .none hasked
    rw [fetch_of_answered hread hleast, fetch_of_answered (hreader _ first hread) hleast, goOn,
      goOn]
    split
    next => exact .none hasked
    next =>
      cases hcreated : lookUp' thread with
      | error cause =>
        -- whatever the lookup without failures gives, the call of it comes next
        cases lookUp thread with
        | error cause' =>
          have hcalls : [HistoryCall.ask (h.firstQuestion now query), .lookUp thread] =
              [.ask (h.firstQuestion now query)] ++ .lookUp thread :: [] := rfl
          exact .first hcalls hasked (.lookUp hcreated)
        | ok created =>
          obtain ⟨later, hlater⟩ := h.exists_calls_walk reader
            [.lookUp thread, .ask (h.firstQuestion now query)]
            (HistoryPage.extend {} (h.firstQuestion now query).bucket h.pageSize first)
            ((h.firstQuestion now query).bucket - 1)
            (h.older created ((h.firstQuestion now query).bucket - 1)).size
          rw [show [HistoryCall.lookUp thread, .ask (h.firstQuestion now query)].reverse =
            [.ask (h.firstQuestion now query)] ++ [.lookUp thread] from rfl,
            List.append_assoc] at hlater
          exact .first hlater hasked (.lookUp hcreated)
      | ok created =>
        rw [hlookUp created hcreated]
        exact h.walk_cutOff hreader _ _ _
          (List.forall_mem_cons.2 ⟨fun _ => HistoryCall.not_fails_lookUp hcreated, hasked⟩)

end CutOff

/-- A fetch that gives a page had an answer to each of its calls. -/
theorem not_fails_of_fetch (hpage : (h.fetch reader lookUp now thread query).outcome = .ok page) :
    ∀ call ∈ (h.fetch reader lookUp now thread query).calls, ∀ error,
      ¬call.Fails reader lookUp error := by
  have hcut : (h.fetch reader lookUp now thread query).CutOff (·.Fails reader lookUp)
      (h.fetch reader lookUp now thread query) :=
    h.fetch_cutOff (fun _ _ hread => hread) (fun _ hcreated => hcreated) now query
  generalize hfetch : h.fetch reader lookUp now thread query = f at hcut hpage ⊢
  generalize hfetch' : f = f' at hcut
  cases hcut with
  | none hnone => exact hfetch'.symm ▸ hnone
  | first =>
    rw [hfetch'] at hpage
    cases hpage

/-- A cursor that is understood leads to a page, if nothing fails and there is a bucket before the
first one. -/
theorem exists_page_of_cursor (s : Store) (user : UserId) (now : Millis)
    (hstart : h.firstBucket now query ≠ Int64.minValue)
    (hcursor : ∀ cursor, query.cursor = some cursor → ∃ offset, cursor.offset? = some offset)
    (hcreated : lookUp thread = .ok created) :
    ∃ page, (h.fetch (s.reader user thread) lookUp now thread query).outcome = .ok page := by
  obtain ⟨rows, hrows⟩ : ∃ rows, h.firstRows? s user thread now query = some rows := by
    match query with
    | { bucket := none, .. } => exact ⟨_, rfl⟩
    | { bucket := some bucket, before := some id, .. } => exact ⟨_, rfl⟩
    | { bucket := some bucket, before := none, cursor } =>
      simp only [firstRows?]
      split
      · cases cursor with
        | none => exact ⟨_, rfl⟩
        | some cursor =>
          obtain ⟨offset, hoffset⟩ := hcursor cursor rfl
          exact ⟨_, congrArg (Option.map _) hoffset⟩
      · exact ⟨_, rfl⟩
  rw [← h.asked?_firstQuestion] at hrows
  have hcontent := congrArg (Option.map
    (· ++ s.rows user thread (h.below created (h.firstQuestion now query).bucket))) hrows
  rw [← h.firstQuestion_bucket] at hstart
  obtain ⟨page, hpage, -⟩ := h.goesOn_fetch hcreated hstart hcontent
  exact ⟨page, hpage⟩

/-- What is fetched where some buckets cannot be read ends at the first call that meets one of
these, or a thread that cannot be looked up. -/
theorem fetch_failingIn (failing : List Bucket) (reason : String)
    (hpage : (h.fetch reader lookUp now thread query).outcome = .ok page)
    (hlookUp : ∀ created, lookUp' thread = .ok created → lookUp thread = .ok created) :
    (h.fetch reader lookUp now thread query).CutOff (·.Meets failing reason lookUp')
      (h.fetch (reader.failingIn failing reason) lookUp' now thread query) := by
  have hreader : ∀ question more, reader.failingIn failing reason question = .ok more →
      reader question = .ok more := by
    intro question more hread
    rw [Reader.failingIn] at hread
    split at hread
    next => cases hread
    next => exact hread
  exact (h.fetch_cutOff hreader hlookUp now query).congr fun call hcall error =>
    HistoryCall.fails_failingIn_iff (h.not_fails_of_fetch hpage call hcall)

/-- **Where a page fails to be served.** Compare what is served where some buckets cannot be read,
and the thread perhaps not be looked up, with the fetch from the same store that meets no failure;
if the thread can be looked up, with the same time of creation. With a cursor that is understood
this one gives a page. There is an error exactly if one of its calls comes to such a bucket, or to a
lookup that fails, and it is the error of the first call that does. No call is made after that one,
nothing is marked and the store stays as it was. If there is no such call, because every failure is
behind the point where the page is full, the failures do not show at all. The starting bucket must
not be the least number, before which there is none. -/
theorem serve_failingIn (s : Store) (user : UserId) (marker : Marker) (failing : List Bucket)
    (reason : String) {served : Serving}
    (hserved : h.serve s ((s.reader user thread).failingIn failing reason) marker lookUp now thread
      query = served)
    (hstart : h.firstBucket now query ≠ Int64.minValue)
    (hcursor : ∀ cursor, query.cursor = some cursor → ∃ offset, cursor.offset? = some offset)
    (hcreated : ∀ created', lookUp thread = .ok created' → created' = created) :
    ∃ (calls : List HistoryCall) (page : HistoryPage),
      h.fetch (s.reader user thread) (fun _ => .ok created) now thread query =
        { calls, outcome := .ok page } ∧
      ((∃ error, served.outcome = .error error) ↔
        ∃ call ∈ calls, ∃ error, call.Meets failing reason lookUp error) ∧
      (∀ error, served.outcome = .error error →
        ∃ before call after, calls = before ++ call :: after ∧
          (∀ c ∈ before, ∀ e, ¬c.Meets failing reason lookUp e) ∧
          call.Meets failing reason lookUp error ∧
          served =
            { calls := before ++ [call], marked := none, outcome := .error error, store := s }) ∧
      ((∀ call ∈ calls, ∀ error, ¬call.Meets failing reason lookUp error) →
        served =
          h.serve s (s.reader user thread) marker (fun _ => .ok created) now thread query) := by
  obtain ⟨page, hpage⟩ : ∃ page, (h.fetch (s.reader user thread) (fun _ => .ok created) now thread
      query).outcome = .ok page := h.exists_page_of_cursor s user now hstart hcursor rfl
  have hcut := h.fetch_failingIn failing reason hpage fun created' hlookUp =>
    congrArg Except.ok (hcreated created' hlookUp).symm
  refine ⟨_, page, by rw [← hpage], ?_⟩
  generalize hfree : h.fetch (s.reader user thread) (fun _ => .ok created) now thread query = free
    at hpage hcut ⊢
  generalize hfetched : h.fetch ((s.reader user thread).failingIn failing reason) lookUp now thread
    query = fetched at hcut
  cases hcut with
  | none hnone =>
    have hsame : served = h.serve s (s.reader user thread) marker (fun _ => .ok created) now thread
        query := by
      rw [← hserved, serve, serve, fetchMarking, fetchMarking, hfetched, hfree]
    have hok : served.outcome = .ok (page.markFirst query).1 := by
      rw [hsame, serve_of_ok s marker (hfree ▸ hpage)]
    refine ⟨iff_of_false ?_ ?_, fun error herror => ?_, fun _ => hsame⟩
    · rintro ⟨error, herror⟩
      cases hok.symm.trans herror
    · rintro ⟨call, hcall, error, herror⟩
      exact hnone call hcall error herror
    · cases hok.symm.trans herror
  | @first before call after error hcalls hbefore hcall =>
    have hmem : call ∈ free.calls := by simp [hcalls]
    have hserving := serve_of_error s marker (congrArg Fetch.outcome hfetched)
    rw [hserved, hfetched] at hserving
    refine ⟨iff_of_true ⟨error, ?_⟩ ⟨call, hmem, error, hcall⟩, fun error' herror' => ?_,
      fun hnone => absurd hcall (hnone call hmem error)⟩
    · rw [hserving]
    · rw [hserving] at herror'
      obtain rfl := Except.error.inj herror'
      exact ⟨before, call, after, hcalls, hbefore, hcall, hserving⟩

/-- What the general statement says of a page that starts in an empty bucket three and takes the
only record of bucket two, where the two buckets below cannot be read: bucket one comes first. -/
theorem serve_failingIn_scattered :
    couples.firstBucket 2500 { bucket := some 3 } ≠ Int64.minValue ∧
    (∀ cursor, ({ bucket := some 3 } : HistoryQuery).cursor = some cursor →
      ∃ offset, cursor.offset? = some offset) ∧
    (∀ created, atEpoch ⟨0⟩ = .ok created → created = 0) ∧
    ∃ served error,
      couples.serve scattered ((scattered.reader "ann" ⟨0⟩).failingIn [0, 1] "timeout")
        (scattered.marker "ann" ⟨0⟩) atEpoch 2500 ⟨0⟩ { bucket := some 3 } = served ∧
      error = .bucketQuery 1 (.unavailable "timeout") ∧
      ∃ before call after, ([.ask (.page 3 2 none), .lookUp ⟨0⟩, .ask (.page 2 2 none),
          .ask (.page 1 1 none), .ask (.page 0 1 none)] : List HistoryCall) =
            before ++ call :: after ∧
        (∀ c ∈ before, ∀ e, ¬c.Meets [0, 1] "timeout" atEpoch e) ∧
        call.Meets [0, 1] "timeout" atEpoch error ∧
        served = { calls := before ++ [call], marked := none, outcome := .error error
                   store := scattered } := by
  have hstart : couples.firstBucket 2500 { bucket := some 3 } ≠ Int64.minValue := by decide
  have hcursor : ∀ cursor, ({ bucket := some 3 } : HistoryQuery).cursor = some cursor →
      ∃ offset, cursor.offset? = some offset := nofun
  have hcreated : ∀ created, atEpoch ⟨0⟩ = .ok created → created = 0 := fun created h =>
    (Except.ok.inj h).symm
  have hserved : couples.serve scattered ((scattered.reader "ann" ⟨0⟩).failingIn [0, 1] "timeout")
      (scattered.marker "ann" ⟨0⟩) atEpoch 2500 ⟨0⟩ { bucket := some 3 } = _ := rfl
  obtain ⟨calls, page, hfetch, -, hfirst, -⟩ := couples.serve_failingIn scattered "ann"
    (scattered.marker "ann" ⟨0⟩) [0, 1] "timeout" hserved hstart hcursor hcreated
  obtain rfl : _ = calls := congrArg Fetch.calls hfetch
  exact ⟨hstart, hcursor, hcreated, _, _, rfl, rfl, hfirst _ rfl⟩

end History

end ChatRelay

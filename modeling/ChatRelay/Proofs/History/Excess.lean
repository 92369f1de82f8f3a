import ChatRelay.Proofs.History.Resumption

/-!
# Answers beyond what was asked for

A page takes of every answer only what is missing, and decides by what it has taken whether to read
on. So readers that agree up to the limit of each question lead to the same calls and the same
records (`fetch_of_agrees`), and a store that gives all it has, however little it is asked for,
changes nothing but cursors (`fetch_withoutLimit`).
-/

namespace ChatRelay

/-- More records than are wanted do not change the ones that are. -/
theorem Partition.take_page (p : Partition) (offset : Nat) {limit more : Nat} (h : limit ≤ more) :
    (p.page offset more).records.take limit = (p.page offset limit).records := by
  rw [page_records, page_records, List.take_take, Nat.min_eq_left h]

namespace Question

@[simp] theorem bucket_withLimit (limit : Nat) (question : Question) :
    (question.withLimit limit).bucket = question.bucket := by
  cases question <;> rfl

@[simp] theorem limit_withLimit (limit : Nat) (question : Question) :
    (question.withLimit limit).limit = limit := by
  cases question <;> rfl

end Question

namespace Reader

/-- Whether two readers fail alike and give the same records as far as they were asked for, where
these are at most `n`. -/
def AgreesUpTo (n : Nat) (reader reader' : Reader) : Prop :=
  ∀ question, question.limit ≤ n →
    (reader question).map (·.records.take question.limit) =
      (reader' question).map (·.records.take question.limit)

variable {n : Nat} {reader reader' : Reader} {question : Question}

/-- Either both readers fail, or both give records of which the same ones are wanted. -/
theorem AgreesUpTo.cases (h : reader.AgreesUpTo n reader') (hlimit : question.limit ≤ n) :
    (∃ cause, reader question = .error cause ∧ reader' question = .error cause) ∨
    ∃ more more', reader question = .ok more ∧ reader' question = .ok more' ∧
      more.records.take question.limit = more'.records.take question.limit := by
  have hsame := h question hlimit
  cases hread : reader question with
  | error cause =>
    cases hread' : reader' question with
    | error cause' =>
      rw [hread, hread'] at hsame
      exact .inl ⟨cause, rfl, congrArg _ (Except.error.inj hsame).symm⟩
    | ok more' =>
      rw [hread, hread'] at hsame
      cases hsame
  | ok more =>
    cases hread' : reader' question with
    | error cause' =>
      rw [hread, hread'] at hsame
      cases hsame
    | ok more' =>
      rw [hread, hread'] at hsame
      exact .inr ⟨more, more', rfl, rfl, Except.ok.inj hsame⟩

end Reader

namespace Store

variable (s : Store) (user : UserId) (thread : ThreadId)

theorem offset_withLimit (limit : Nat) (question : Question) :
    s.offset user thread (question.withLimit limit) = s.offset user thread question := by
  match question with
  | .page _ _ none => rfl
  | .page _ _ (some _) => rfl
  | .before _ _ _ => rfl

theorem asked?_withLimit (limit : Nat) (question : Question) :
    s.asked? user thread (question.withLimit limit) = s.asked? user thread question := by
  match question with
  | .page _ _ none => rfl
  | .page _ _ (some _) => rfl
  | .before _ _ _ => rfl

/-- A store that is asked for more gives the same records as far as they were asked for. -/
theorem agrees_withLimit {n most : Nat} (hn : n ≤ most) :
    Reader.AgreesUpTo n (fun question => s.reader user thread (question.withLimit most))
      (s.reader user thread) := by
  intro question hlimit
  have hle : question.limit ≤ most := hlimit.trans hn
  dsimp only
  rw [reader_eq_map_offset, reader_eq_map_offset, offset_withLimit, Question.bucket_withLimit,
    Question.limit_withLimit]
  cases s.offset user thread question with
  | error cause => rfl
  | ok offset =>
    simp only [Except.map]
    rw [Partition.take_page _ _ hle, Partition.take_page _ _ (Nat.le_refl _)]

/-- A store that gives all it has agrees with one that keeps to the limit. -/
theorem agrees_withoutLimit {n : Nat} (hn : n < UInt64.size) :
    (s.reader user thread).withoutLimit.AgreesUpTo n (s.reader user thread) :=
  s.agrees_withLimit user thread (by omega)

/-- Without a limit an answer is all that was asked for, if this is no more than can be counted. -/
theorem reader_withoutLimit {question : Question} {rows : List Record}
    (hasked : s.asked? user thread question = some rows) (hrows : rows.length < UInt64.size) :
    (s.reader user thread).withoutLimit question = .ok { records := rows, next := none } := by
  rw [← asked?_withLimit s user thread (UInt64.size - 1) question] at hasked
  rcases s.reader_spec user thread (question.withLimit (UInt64.size - 1)) with
    ⟨hnone, -⟩ | ⟨rows', page, hasked', hread, hrecords, hnext⟩
  · exact nomatch hnone.symm.trans hasked
  obtain rfl := Option.some.inj (hasked'.symm.trans hasked)
  rw [Question.limit_withLimit] at hrecords hnext
  rw [Reader.withoutLimit, hread]
  cases page with
  | mk records next =>
    obtain rfl : next = none := hnext.2 (by omega)
    obtain rfl : records = rows' := hrecords.trans (List.take_of_length_le (by omega))
    rfl

end Store

namespace History

variable (h : History) {reader reader' : Reader} {lookUp : ThreadLookup} {now : Millis}
  {thread : ThreadId} {query : HistoryQuery} {page page' : HistoryPage}

theorem records_extend (page : HistoryPage) (bucket : Bucket) (missing : Nat) (more : Page) :
    (page.extend bucket missing more).records = page.records ++ more.records.take missing := rfl

/-- **The walk makes the same calls and finds the same records** with readers that agree on what is
wanted, whatever the cursors are. -/
theorem walk_of_agrees (hagree : reader.AgreesUpTo h.pageSize reader') (calls : List HistoryCall)
    (bucket : Bucket) (count : Nat) (hpage : page.records = page'.records) :
    (h.walk reader calls page bucket count).calls =
      (h.walk reader' calls page' bucket count).calls ∧
    (h.walk reader calls page bucket count).outcome.map (·.records) =
      (h.walk reader' calls page' bucket count).outcome.map (·.records) := by
  induction count generalizing calls page page' bucket with
  | zero => exact ⟨rfl, congrArg Except.ok hpage⟩
  | succ count ih =>
    rw [walk, walk, ← hpage]
    dsimp only
    have hlimit : (Question.page bucket (h.pageSize - page.records.length) none).limit ≤
        h.pageSize := Nat.sub_le _ _
    rcases hagree.cases hlimit with ⟨cause, hread, hread'⟩ | ⟨more, more', hread, hread', hsame⟩
    · rw [hread, hread']
      exact ⟨rfl, rfl⟩
    · have hextended : (page.extend bucket (h.pageSize - page.records.length) more).records =
          (page'.extend bucket (h.pageSize - page.records.length) more').records := by
        rw [records_extend, records_extend, ← hpage]
        exact congrArg (page.records ++ ·) hsame
      rw [hread, hread']
      dsimp only
      rw [← hextended]
      split
      · exact ⟨rfl, congrArg Except.ok hextended⟩
      · exact ih _ _ hextended

/-- **A fetch makes the same calls and finds the same records** with readers that agree on what is
wanted. -/
theorem fetch_of_agrees (hagree : reader.AgreesUpTo h.pageSize reader') (lookUp : ThreadLookup)
    (now : Millis) (thread : ThreadId) (query : HistoryQuery) :
    (h.fetch reader lookUp now thread query).calls =
      (h.fetch reader' lookUp now thread query).calls ∧
    (h.fetch reader lookUp now thread query).outcome.map (·.records) =
      (h.fetch reader' lookUp now thread query).outcome.map (·.records) := by
  have hlimit := h.firstQuestion_limit now query
  rcases hagree.cases (Nat.le_of_eq hlimit) with
    ⟨cause, hread, hread'⟩ | ⟨first, first', hread, hread', hsame⟩
  · rw [fetch_of_unanswered hread, fetch_of_unanswered hread']
    exact ⟨rfl, rfl⟩
  by_cases hleast : (h.firstQuestion now query).bucket = Int64.minValue
  · rw [fetch_of_least hread hleast, fetch_of_least hread' hleast]
    exact ⟨rfl, rfl⟩
  · have hextended :
        (HistoryPage.extend {} (h.firstQuestion now query).bucket h.pageSize first).records =
          (HistoryPage.extend {} (h.firstQuestion now query).bucket h.pageSize first').records := by
      rwa [hlimit] at hsame
    rw [fetch_of_answered hread hleast, fetch_of_answered hread' hleast, goOn, goOn, ← hextended]
    split
    · exact ⟨rfl, congrArg Except.ok hextended⟩
    · cases lookUp thread with
      | error cause => exact ⟨rfl, rfl⟩
      | ok created => exact h.walk_of_agrees hagree _ _ _ hextended

/-- The walk does not put more on a page than fits. -/
theorem length_walk_le {calls : List HistoryCall} {bucket : Bucket} {count : Nat}
    (hlen : page.records.length ≤ h.pageSize)
    (hpage' : (h.walk reader calls page bucket count).outcome = .ok page') :
    page'.records.length ≤ h.pageSize := by
  induction count generalizing calls page bucket with
  | zero =>
    obtain rfl := Except.ok.inj hpage'
    exact hlen
  | succ count ih =>
    simp only [walk] at hpage'
    split at hpage'
    next => cases hpage'
    next more _ =>
      have hextended :
          (page.extend bucket (h.pageSize - page.records.length) more).records.length ≤
            h.pageSize := by
        rw [records_extend, List.length_append, List.length_take]
        omega
      split at hpage'
      · obtain rfl := Except.ok.inj hpage'
        exact hextended
      · exact ih hextended hpage'

/-- **A page has no more records than fit on it**, whatever the reader gives. -/
theorem length_fetch_le (hpage : (h.fetch reader lookUp now thread query).outcome = .ok page) :
    page.records.length ≤ h.pageSize := by
  rcases h.fetch_cases reader lookUp now thread query with
    ⟨cause, -, hfetch⟩ | ⟨first, -, -, hfetch⟩ | ⟨first, -, -, hfetch⟩
  · rw [hfetch] at hpage
    cases hpage
  · rw [hfetch] at hpage
    cases hpage
  · have hextended : (HistoryPage.extend {} (h.firstQuestion now query).bucket h.pageSize
        first).records.length ≤ h.pageSize := by
      rw [records_extend, List.nil_append, List.length_take]
      omega
    simp only [hfetch, goOn] at hpage
    split at hpage
    · obtain rfl := Except.ok.inj hpage
      exact hextended
    · split at hpage
      next => cases hpage
      next => exact h.length_walk_le hextended hpage

/-- **A store that ignores limits changes nothing but cursors.** It answers each question with all
that was asked for; the calls of the fetch are the same nevertheless, with the same limits and
cursors, and so are the records of the page, or the error if there is one. In either case there are
no more records than fit on a page. The size of a page is a number that limits can be. -/
theorem fetch_withoutLimit (hsize : h.pageSize < UInt64.size) (s : Store) (user : UserId)
    (thread : ThreadId) (lookUp : ThreadLookup) (now : Millis) (query : HistoryQuery) :
    (∀ question rows, s.asked? user thread question = some rows → rows.length < UInt64.size →
      (s.reader user thread).withoutLimit question = .ok { records := rows, next := none }) ∧
    (h.fetch (s.reader user thread).withoutLimit lookUp now thread query).calls =
      (h.fetch (s.reader user thread) lookUp now thread query).calls ∧
    (h.fetch (s.reader user thread).withoutLimit lookUp now thread query).outcome.map (·.records) =
      (h.fetch (s.reader user thread) lookUp now thread query).outcome.map (·.records) ∧
    (∀ page, (h.fetch (s.reader user thread).withoutLimit lookUp now thread query).outcome =
      .ok page → page.records.length ≤ h.pageSize) ∧
    ∀ page, (h.fetch (s.reader user thread) lookUp now thread query).outcome = .ok page →
      page.records.length ≤ h.pageSize := by
  obtain ⟨hcalls, hrecords⟩ :=
    h.fetch_of_agrees (s.agrees_withoutLimit user thread hsize) lookUp now thread query
  exact ⟨fun _ _ => s.reader_withoutLimit user thread, hcalls, hrecords,
    fun _ => h.length_fetch_le, fun _ => h.length_fetch_le⟩

/-- What the general statement says of a page that has room for one of the two records of bucket
zero and is given both. -/
theorem fetch_withoutLimit_scattered :
    couples.pageSize < UInt64.size ∧
    (scattered.reader "ann" ⟨0⟩).withoutLimit (.page 0 1 none) =
      .ok { records := [recordAt 2 "second", recordAt 1 "first"], next := none } ∧
    (couples.fetch (scattered.reader "ann" ⟨0⟩).withoutLimit atEpoch 2500 ⟨0⟩ {}).calls =
      [.ask (.page 2 2 none), .lookUp ⟨0⟩, .ask (.page 1 1 none), .ask (.page 0 1 none)] ∧
    (couples.fetch (scattered.reader "ann" ⟨0⟩).withoutLimit atEpoch 2500 ⟨0⟩ {}).outcome.map
      (·.records) = .ok [recordAt 2000 "third", recordAt 2 "second"] := by
  have hsize : couples.pageSize < UInt64.size := by decide
  obtain ⟨hall, hcalls, hrecords, -⟩ :=
    couples.fetch_withoutLimit hsize scattered "ann" ⟨0⟩ atEpoch 2500 {}
  exact ⟨hsize, hall _ _ rfl (by decide), hcalls.trans rfl, hrecords.trans rfl⟩

end History

end ChatRelay

import ChatRelay.Proofs.History.Resumption

/-!
# What a page asks for

A fetch asks about its first bucket and then, as long as its page has room, about the bucket before
the one that it asked about last, each time for exactly the records that are still missing
(`AsksForMissing`, `calls_walk`). Between the first question and the others it finds out when the
thread was created, and only if there can be others (`calls_fetch`). All this holds for every
reader, also for one that fails or gives more than it was asked for.
-/

namespace ChatRelay

namespace Reader

variable (reader : Reader)

/-- What a question adds to a page: of the records in the answer as many as were asked for. -/
def given (question : Question) : List Record :=
  match reader question with
  | .ok more => more.records.take question.limit
  | .error _ => []

/-- What some questions add to a page, one after the other. -/
def gathered (questions : List Question) : List Record := questions.flatMap reader.given

@[simp] theorem gathered_nil : reader.gathered [] = [] := rfl

@[simp] theorem gathered_cons (question : Question) (questions : List Question) :
    reader.gathered (question :: questions) = reader.given question ++ reader.gathered questions :=
  rfl

variable {reader} {question : Question}

theorem given_of_ok {more : Page} (h : reader question = .ok more) :
    reader.given question = more.records.take question.limit := by
  rw [given, h]

end Reader

@[simp] theorem filterMap_question?_map_ask (asked : List Question) :
    (asked.map HistoryCall.ask).filterMap HistoryCall.question? = asked := by
  rw [List.filterMap_map]
  exact List.filterMap_some

namespace History

variable (h : History) {reader : Reader} {lookUp : ThreadLookup} {now created : Millis}
  {thread : ThreadId} {query : HistoryQuery} {page : HistoryPage} {held : List Record}
  {asked : List Question} {start b : Bucket}

/-- Whether each of some questions, asked for a page that holds some records, is about a bucket as a
whole and wants as many records as are missing by then, at least one; and all but the last are
answered. -/
def AsksForMissing (reader : Reader) (held : List Record) (asked : List Question) : Prop :=
  ∀ earlier question later, asked = earlier ++ question :: later →
    (held ++ reader.gathered earlier).length < h.pageSize ∧
    question = .page question.bucket
      (h.pageSize - (held ++ reader.gathered earlier).length) none ∧
    (later = [] ∨ ∃ more, reader question = .ok more)

theorem AsksForMissing.nil : h.AsksForMissing reader held [] := by
  intro earlier question later heq
  simp at heq

/-- A question for what is missing, and then others for what is missing after its answer. -/
theorem AsksForMissing.cons (hheld : held.length < h.pageSize)
    (hread : asked = [] ∨ ∃ more, reader (.page b (h.pageSize - held.length) none) = .ok more)
    (hasked : h.AsksForMissing reader
      (held ++ reader.given (.page b (h.pageSize - held.length) none)) asked) :
    h.AsksForMissing reader held (.page b (h.pageSize - held.length) none :: asked) := by
  intro earlier question later heq
  cases earlier with
  | nil =>
    obtain ⟨rfl, rfl⟩ := List.cons.inj heq
    rw [Reader.gathered_nil, List.append_nil]
    exact ⟨hheld, rfl, hread⟩
  | cons first earlier =>
    obtain ⟨rfl, hrest⟩ := List.cons.inj heq
    rw [Reader.gathered_cons, ← List.append_assoc]
    exact hasked earlier question later hrest

/-- **The walk asks for what is missing**, and its page is what the answers added. -/
theorem calls_walk (reader : Reader) (calls : List HistoryCall) (bucket : Bucket) (count : Nat)
    (hlen : page.records.length < h.pageSize) :
    ∃ asked : List Question,
      (h.walk reader calls page bucket count).calls = calls.reverse ++ asked.map .ask ∧
      h.AsksForMissing reader page.records asked ∧
      ∀ page', (h.walk reader calls page bucket count).outcome = .ok page' →
        page'.records = page.records ++ reader.gathered asked := by
  induction count generalizing calls page bucket with
  | zero =>
    refine ⟨[], (List.append_nil _).symm, .nil h, fun page' hpage' => ?_⟩
    obtain rfl := Except.ok.inj hpage'
    exact (List.append_nil _).symm
  | succ count ih =>
    have hlast : h.AsksForMissing reader page.records
        [.page bucket (h.pageSize - page.records.length) none] :=
      .cons h hlen (.inl rfl) (.nil h)
    rw [walk]
    dsimp only
    generalize hquestion : Question.page bucket (h.pageSize - page.records.length) none = question
      at hlast ⊢
    have hlimit : question.limit = h.pageSize - page.records.length := by rw [← hquestion]; rfl
    split
    next cause hread =>
      refine ⟨[question], by simp, hlast, ?_⟩
      rintro page' ⟨⟩
    next more hread =>
      have hextended : (page.extend bucket (h.pageSize - page.records.length) more).records =
          page.records ++ reader.given question := by
        rw [Reader.given_of_ok hread, hlimit]
        rfl
      split
      next hfull =>
        refine ⟨[question], by simp, hlast, fun page' hpage' => ?_⟩
        obtain rfl := Except.ok.inj hpage'
        rw [hextended, Reader.gathered_cons, Reader.gathered_nil, List.append_nil]
      next hshort =>
        obtain ⟨asked, hcalls, hmissing, hrecords⟩ :=
          ih (.ask question :: calls) (bucket - 1) (Nat.lt_of_not_le hshort)
        rw [hextended] at hmissing hrecords
        refine ⟨question :: asked, ?_, ?_, fun page' hpage' => ?_⟩
        · rw [hcalls]
          simp
        · subst hquestion
          exact .cons h hlen (.inr ⟨more, hread⟩) hmissing
        · rw [hrecords page' hpage', Reader.gathered_cons, List.append_assoc]

/-! ## One fetch -/

/-- Whether a fetch goes on after its first question: there is room on the page, and there is a
bucket from zero on before the first one. -/
def GoesFurther (reader : Reader) (now : Millis) (query : HistoryQuery) : Prop :=
  (∃ first, reader (h.firstQuestion now query) = .ok first ∧
    first.records.length < h.pageSize) ∧ 1 ≤ h.firstBucket now query

theorem records_extend_firstQuestion {first : Page}
    (hread : reader (h.firstQuestion now query) = .ok first) :
    (HistoryPage.extend {} (h.firstQuestion now query).bucket h.pageSize first).records =
      reader.given (h.firstQuestion now query) := by
  rw [Reader.given_of_ok hread, firstQuestion_limit]
  rfl

/-- A fetch goes on exactly if it has not come to its end with the first answer. -/
theorem goesFurther_iff {first : Page} (hstart : h.firstBucket now query ≠ Int64.minValue)
    (hread : reader (h.firstQuestion now query) = .ok first) :
    h.GoesFurther reader now query ↔
      ¬(h.pageSize ≤ (reader.given (h.firstQuestion now query)).length ∨
        (h.firstQuestion now query).bucket - 1 < 0) := by
  have hpred := Bucket.toInt_pred hstart
  rw [GoesFurther, Reader.given_of_ok hread, firstQuestion_limit, List.length_take,
    firstQuestion_bucket, Int64.le_iff_toInt_le, Int64.lt_iff_toInt_lt, hpred, Int64.toInt_one,
    Int64.toInt_zero]
  constructor
  · rintro ⟨⟨first', hread', hshort⟩, hone⟩
    obtain rfl := Except.ok.inj (hread'.symm.trans hread)
    omega
  · intro hnot
    exact ⟨⟨first, hread, by omega⟩, by omega⟩

/-- A fetch that does not go on has asked one question. -/
theorem calls_of_not_goesFurther (lookUp : ThreadLookup) (thread : ThreadId)
    (hstart : h.firstBucket now query ≠ Int64.minValue) (hstop : ¬h.GoesFurther reader now query) :
    (h.fetch reader lookUp now thread query).calls = [.ask (h.firstQuestion now query)] ∧
    ∀ page, (h.fetch reader lookUp now thread query).outcome = .ok page →
      page.records = reader.given (h.firstQuestion now query) := by
  cases hread : reader (h.firstQuestion now query) with
  | error cause =>
    rw [fetch_of_unanswered hread]
    refine ⟨rfl, fun page hpage => ?_⟩
    cases hpage
  | ok first =>
    have hrecords := h.records_extend_firstQuestion hread
    rw [h.goesFurther_iff hstart hread, not_not, ← hrecords] at hstop
    rw [← h.firstQuestion_bucket] at hstart
    rw [fetch_of_answered hread hstart, goOn, if_pos hstop]
    refine ⟨rfl, fun page hpage => ?_⟩
    obtain rfl := Except.ok.inj hpage
    exact hrecords

/-- A fetch that goes on finds out when the thread was created, and then asks for what is
missing. -/
theorem calls_of_goesFurther (lookUp : ThreadLookup) (thread : ThreadId)
    (hstart : h.firstBucket now query ≠ Int64.minValue) (hon : h.GoesFurther reader now query) :
    ∃ older : List Question,
      (h.fetch reader lookUp now thread query).calls =
        .ask (h.firstQuestion now query) :: .lookUp thread :: older.map .ask ∧
      h.AsksForMissing reader (reader.given (h.firstQuestion now query)) older ∧
      ∀ page, (h.fetch reader lookUp now thread query).outcome = .ok page →
        page.records = reader.given (h.firstQuestion now query) ++ reader.gathered older := by
  obtain ⟨⟨first, hread, -⟩, -⟩ := id hon
  have hrecords := h.records_extend_firstQuestion hread
  rw [h.goesFurther_iff hstart hread, ← hrecords] at hon
  rw [← h.firstQuestion_bucket] at hstart
  rw [fetch_of_answered hread hstart, goOn, if_neg hon, ← hrecords]
  cases lookUp thread with
  | error cause =>
    refine ⟨[], rfl, .nil h, fun page hpage => ?_⟩
    cases hpage
  | ok created =>
    obtain ⟨older, hcalls, hmissing, hpage⟩ := h.calls_walk reader
      [.lookUp thread, .ask (h.firstQuestion now query)] ((h.firstQuestion now query).bucket - 1)
      (h.older created ((h.firstQuestion now query).bucket - 1)).size
      (Nat.lt_of_not_le (not_or.1 hon).1)
    exact ⟨older, hcalls, hmissing, hpage⟩

/-- The walk goes down to the bucket of the thread's creation, but not below bucket zero. -/
theorem oldest_le_iff : h.oldest created ≤ b ↔ h.index.atInstant created ≤ b ∧ 0 ≤ b := by
  have hsize := h.index.size_toInt_pos
  have hcreation := h.atInstant_le_oldest created
  have hnonneg := h.oldest_nonneg created
  rw [Int64.le_iff_toInt_le, Int64.le_iff_toInt_le, Int64.le_iff_toInt_le, Int64.toInt_zero]
  constructor
  · intro hle
    omega
  · rintro ⟨hle, hzero⟩
    rw [h.toInt_oldest]
    rw [BucketIndex.atInstant, h.index.toInt_ofTimestamp] at hle
    rcases Int.le_total 0 (h.index.relative created).toInt with hpast | hpast
    · rwa [Int.max_eq_right hpast]
    · rwa [Int.max_eq_left hpast, Int.zero_ediv]

/-- A fetch asks its first question and then others for what is missing; it finds out when the
thread was created in between, or not at all. -/
theorem exists_older (reader : Reader) (lookUp : ThreadLookup) (thread : ThreadId)
    (hstart : h.firstBucket now query ≠ Int64.minValue) :
    ∃ older : List Question,
      (h.GoesFurther reader now query ∧
          (h.fetch reader lookUp now thread query).calls =
            .ask (h.firstQuestion now query) :: .lookUp thread :: older.map .ask ∨
        ¬h.GoesFurther reader now query ∧ older = [] ∧
          (h.fetch reader lookUp now thread query).calls = [.ask (h.firstQuestion now query)]) ∧
      (h.fetch reader lookUp now thread query).questions = h.firstQuestion now query :: older ∧
      h.AsksForMissing reader (reader.given (h.firstQuestion now query)) older ∧
      ∀ page, (h.fetch reader lookUp now thread query).outcome = .ok page →
        page.records = reader.gathered (h.firstQuestion now query :: older) := by
  by_cases hon : h.GoesFurther reader now query
  · obtain ⟨older, hcalls, hmissing, hrecords⟩ := h.calls_of_goesFurther lookUp thread hstart hon
    refine ⟨older, .inl ⟨hon, hcalls⟩, ?_, hmissing, hrecords⟩
    rw [Fetch.questions, hcalls]
    exact congrArg (h.firstQuestion now query :: ·) (filterMap_question?_map_ask older)
  · obtain ⟨hcalls, hrecords⟩ := h.calls_of_not_goesFurther lookUp thread hstart hon
    refine ⟨[], .inr ⟨hon, rfl, hcalls⟩, ?_, .nil h, fun page hpage => ?_⟩
    · rw [Fetch.questions, hcalls]
      rfl
    · rw [hrecords page hpage, Reader.gathered_cons, Reader.gathered_nil, List.append_nil]

/-- A bucket that the walk comes to after some others. -/
theorem range_of_getElem?_below {i : Nat} (hstart : start ≠ Int64.minValue)
    (hb : (h.below created start)[i]? = some b) :
    b.toInt = start.toInt - (i + 1) ∧ h.index.atInstant created ≤ b ∧ 0 ≤ b := by
  have hmem := (h.mem_below hstart).1 (List.mem_of_getElem? hb)
  refine ⟨?_, h.oldest_le_iff.1 hmem.1⟩
  have hnonneg := h.oldest_nonneg created
  have hpred := Bucket.toInt_pred hstart
  rw [Int64.le_iff_toInt_le, Int64.lt_iff_toInt_lt] at hmem
  rw [Bucket.toInt_of_getElem?_down (h.older_size_le created (by omega)) hb, hpred]
  omega

/-- A question after some others, if all of them are about the buckets below one after the other. -/
theorem range_of_asked_below {earlier later : List Question} {question : Question}
    (hstart : start ≠ Int64.minValue)
    (hbelow : (earlier ++ question :: later).map Question.bucket <+: h.below created start) :
    question.bucket.toInt = start.toInt - (earlier.length + 1) ∧
      h.index.atInstant created ≤ question.bucket ∧ 0 ≤ question.bucket := by
  obtain ⟨rest, hrest⟩ := hbelow
  apply h.range_of_getElem?_below hstart
  rw [← hrest]
  simp

/-- **What a fetch asks for, from the first question to the last.** The first question is about the
bucket in which the page starts and wants a whole page. Only if its answer leaves room on the page
and the bucket is above bucket zero, the fetch finds out, once, when the thread was created. Then
it asks about the buckets below, each time about the one right before, without a cursor and without
a bound on identifiers, and wants exactly as many records as are missing by then, at least one; so
that there is no question after the page is full. It never asks about a bucket before that of the
thread's creation or before bucket zero, and never twice about the same one. A page holds what the
answers added, each cut to what was wanted; where it has room left, there was a question about every
bucket within reach. The starting bucket must not be the least number. -/
theorem calls_fetch (reader : Reader) (lookUp : ThreadLookup) (thread : ThreadId)
    (hstart : h.firstBucket now query ≠ Int64.minValue) :
    ∃ (first : Question) (older : List Question), first = h.firstQuestion now query ∧
      first.bucket = h.firstBucket now query ∧ first.limit = h.pageSize ∧
      (h.GoesFurther reader now query ∧
          (h.fetch reader lookUp now thread query).calls =
            .ask first :: .lookUp thread :: older.map .ask ∨
        ¬h.GoesFurther reader now query ∧ older = [] ∧
          (h.fetch reader lookUp now thread query).calls = [.ask first]) ∧
      (∀ earlier question later, older = earlier ++ question :: later →
        (reader.gathered (first :: earlier)).length < h.pageSize ∧
        question = .page question.bucket
          (h.pageSize - (reader.gathered (first :: earlier)).length) none ∧
        (later = [] ∨ ∃ more, reader question = .ok more) ∧
        question.bucket.toInt = first.bucket.toInt - (earlier.length + 1) ∧
        ∃ created, lookUp thread = .ok created ∧
          h.index.atInstant created ≤ question.bucket ∧ 0 ≤ question.bucket) ∧
      ((first :: older).map Question.bucket).Nodup ∧
      ∀ page, (h.fetch reader lookUp now thread query).outcome = .ok page →
        page.records = reader.gathered (first :: older) ∧
        (page.records.length < h.pageSize → ∀ created, lookUp thread = .ok created →
          ∀ bucket, h.index.atInstant created ≤ bucket → 0 ≤ bucket → bucket < first.bucket →
            bucket ∈ older.map Question.bucket) := by
  obtain ⟨older, hcalls, hquestions, hmissing, hrecords⟩ :=
    h.exists_older reader lookUp thread hstart
  have hfirst := h.firstQuestion_bucket now query
  refine ⟨h.firstQuestion now query, older, rfl, hfirst, h.firstQuestion_limit now query, hcalls,
    ?_⟩
  cases hlookUp : lookUp thread with
  | error cause =>
    rw [h.questions_of_lookUp_error hlookUp] at hquestions
    obtain rfl := (List.cons.inj hquestions).2
    refine ⟨?_, List.nodup_singleton _, fun page hpage => ⟨hrecords page hpage, ?_⟩⟩
    · intro earlier question later heq
      simp at heq
    · intro _ created hcreated
      cases hcreated
  | ok created =>
    obtain ⟨hreach, hall⟩ := h.buckets_fetch reader now query hlookUp
    rw [hquestions] at hreach hall
    rw [hfirst]
    refine ⟨?_, ?_, fun page hpage => ⟨hrecords page hpage, ?_⟩⟩
    · rintro earlier question later rfl
      obtain ⟨hroom, hwant, hread⟩ := hmissing earlier question later rfl
      have hbelow : (earlier ++ question :: later).map Question.bucket <+:
          h.below created (h.firstBucket now query) := (List.cons_prefix_cons.1 hreach).2
      obtain ⟨hbucket, hrange⟩ := h.range_of_asked_below hstart hbelow
      exact ⟨hroom, hwant, hread, hbucket, created, rfl, hrange⟩
    · exact (h.nodup_reach created hstart).sublist hreach.sublist
    · intro hshort created' hcreated bucket hcreation hzero hlt
      obtain rfl := Except.ok.inj hcreated
      have hsame := (List.cons.inj (hall page hpage hshort)).2
      rw [hsame]
      exact (h.mem_below hstart).2 ⟨h.oldest_le_iff.2 ⟨hcreation, hzero⟩, hlt⟩

/-- What the general statement says of a page that starts in an empty bucket three, takes the only
record of bucket two, finds none in bucket one and is full after one of the two in bucket zero. -/
theorem calls_fetch_scattered :
    couples.firstBucket 2500 { bucket := some 3 } ≠ Int64.minValue ∧
    (couples.fetch (scattered.reader "ann" ⟨0⟩) atEpoch 2500 ⟨0⟩ { bucket := some 3 }).calls =
      [.ask (.page 3 2 none), .lookUp ⟨0⟩, .ask (.page 2 2 none), .ask (.page 1 1 none),
        .ask (.page 0 1 none)] ∧
    ∃ older : List Question,
      (couples.fetch (scattered.reader "ann" ⟨0⟩) atEpoch 2500 ⟨0⟩ { bucket := some 3 }).calls =
        .ask (.page 3 2 none) :: .lookUp ⟨0⟩ :: older.map .ask ∧
      ∀ earlier question later, older = earlier ++ question :: later →
        ((scattered.reader "ann" ⟨0⟩).gathered (.page 3 2 none :: earlier)).length < 2 ∧
        question.bucket.toInt = (3 : Int) - (earlier.length + 1) := by
  have hstart : couples.firstBucket 2500 { bucket := some 3 } ≠ Int64.minValue := by decide
  obtain ⟨first, older, rfl, -, -, hcalls, hmissing, -⟩ :=
    couples.calls_fetch (scattered.reader "ann" ⟨0⟩) atEpoch ⟨0⟩ hstart
  have hon : couples.GoesFurther (scattered.reader "ann" ⟨0⟩) 2500 { bucket := some 3 } :=
    ⟨⟨{}, rfl, by decide⟩, by decide⟩
  obtain ⟨-, hcalls⟩ := hcalls.resolve_right fun hstop => hstop.1 hon
  refine ⟨hstart, rfl, older, hcalls, fun earlier question later heq => ?_⟩
  obtain ⟨hroom, -, -, hbucket, -⟩ := hmissing earlier question later heq
  exact ⟨hroom, hbucket⟩

end History

end ChatRelay

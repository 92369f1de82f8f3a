import ChatRelay.History

/-!
# How a fetch begins

A fetch asks its first question, and once it has the answer it computes the bucket before the one
that this is about. `fetch_cases` says what comes of it, and is all that later proofs need to know
of the beginning of a fetch. The program stops there exactly if a first question about the least
bucket is answered (`fetch_eq_overflow_iff`), as it always is by a store
(`fetch_store_overflow_iff`); so a page never starts in the least bucket.
-/

namespace ChatRelay

namespace Bucket

theorem before?_least : before? Int64.minValue = none := if_pos rfl

theorem before?_of_ne {bucket : Bucket} (hbucket : bucket ≠ Int64.minValue) :
    bucket.before? = some (bucket - 1) := if_neg hbucket

end Bucket

namespace History

variable {h : History} {reader : Reader} {lookUp : ThreadLookup} {now : Millis} {thread : ThreadId}
  {query : HistoryQuery}

theorem fetch_of_unanswered {cause : StoreError}
    (hread : reader (h.firstQuestion now query) = .error cause) :
    h.fetch reader lookUp now thread query =
      { calls := [.ask (h.firstQuestion now query)]
        outcome := .error (.bucketQuery (h.firstQuestion now query).bucket cause) } := by
  rw [fetch, hread]

theorem fetch_of_least {first : Page} (hread : reader (h.firstQuestion now query) = .ok first)
    (hleast : (h.firstQuestion now query).bucket = Int64.minValue) :
    h.fetch reader lookUp now thread query =
      { calls := [.ask (h.firstQuestion now query)], outcome := .error .overflow } := by
  rw [fetch, hread, hleast, Bucket.before?_least]

theorem fetch_of_answered {first : Page} (hread : reader (h.firstQuestion now query) = .ok first)
    (hstart : (h.firstQuestion now query).bucket ≠ Int64.minValue) :
    h.fetch reader lookUp now thread query =
      h.goOn reader lookUp thread (h.firstQuestion now query)
        (.extend {} (h.firstQuestion now query).bucket h.pageSize first)
        ((h.firstQuestion now query).bucket - 1) := by
  rw [fetch, hread, Bucket.before?_of_ne hstart]

/-- **All that a fetch can do first**: its first question is not answered, it is answered for the
least bucket, before which there is none, or it is answered for another one. -/
theorem fetch_cases (h : History) (reader : Reader) (lookUp : ThreadLookup) (now : Millis)
    (thread : ThreadId) (query : HistoryQuery) :
    (∃ cause, reader (h.firstQuestion now query) = .error cause ∧
      h.fetch reader lookUp now thread query =
        { calls := [.ask (h.firstQuestion now query)]
          outcome := .error (.bucketQuery (h.firstQuestion now query).bucket cause) }) ∨
    (∃ first, reader (h.firstQuestion now query) = .ok first ∧
      (h.firstQuestion now query).bucket = Int64.minValue ∧
      h.fetch reader lookUp now thread query =
        { calls := [.ask (h.firstQuestion now query)], outcome := .error .overflow }) ∨
    ∃ first, reader (h.firstQuestion now query) = .ok first ∧
      (h.firstQuestion now query).bucket ≠ Int64.minValue ∧
      h.fetch reader lookUp now thread query =
        h.goOn reader lookUp thread (h.firstQuestion now query)
          (.extend {} (h.firstQuestion now query).bucket h.pageSize first)
          ((h.firstQuestion now query).bucket - 1) := by
  cases hread : reader (h.firstQuestion now query) with
  | error cause => exact .inl ⟨cause, rfl, fetch_of_unanswered hread⟩
  | ok first =>
    by_cases hleast : (h.firstQuestion now query).bucket = Int64.minValue
    · exact .inr (.inl ⟨first, rfl, hleast, fetch_of_least hread hleast⟩)
    · exact .inr (.inr ⟨first, rfl, hleast, fetch_of_answered hread hleast⟩)

/-- A page does not start in the least bucket. -/
theorem ne_least_of_fetch {page : HistoryPage}
    (hpage : (h.fetch reader lookUp now thread query).outcome = .ok page) :
    (h.firstQuestion now query).bucket ≠ Int64.minValue := by
  rcases h.fetch_cases reader lookUp now thread query with
    ⟨cause, -, hfetch⟩ | ⟨first, -, -, hfetch⟩ | ⟨first, -, hstart, -⟩
  · rw [hfetch] at hpage
    cases hpage
  · rw [hfetch] at hpage
    cases hpage
  · exact hstart

/-! ## Where the program stops -/

/-- No step of the walk stops the program. -/
theorem walk_ne_overflow (calls : List HistoryCall) (page : HistoryPage) (bucket : Bucket)
    (count : Nat) : (h.walk reader calls page bucket count).outcome ≠ .error .overflow := by
  induction count generalizing calls page bucket with
  | zero => exact nofun
  | succ count ih =>
    rw [walk]
    dsimp only
    split
    · exact nofun
    · split
      · exact nofun
      · exact ih _ _ _

theorem goOn_ne_overflow (question : Question) (page : HistoryPage) (next : Bucket) :
    (h.goOn reader lookUp thread question page next).outcome ≠ .error .overflow := by
  rw [goOn]
  dsimp only
  split
  · exact nofun
  · split
    · exact nofun
    · exact walk_ne_overflow _ _ _ _

/-- **A fetch stops the program exactly if it starts in the least bucket and is answered there**,
whatever the answer is. -/
theorem fetch_eq_overflow_iff :
    (h.fetch reader lookUp now thread query).outcome = .error .overflow ↔
      (h.firstQuestion now query).bucket = Int64.minValue ∧
        ∃ first, reader (h.firstQuestion now query) = .ok first := by
  rcases h.fetch_cases reader lookUp now thread query with
    ⟨cause, hread, hfetch⟩ | ⟨first, hread, hleast, hfetch⟩ | ⟨first, hread, hstart, hfetch⟩
  · rw [hfetch, hread]
    exact iff_of_false nofun nofun
  · rw [hfetch]
    exact iff_of_true rfl ⟨hleast, first, hread⟩
  · rw [hfetch]
    exact iff_of_false (goOn_ne_overflow _ _ _) fun h' => hstart h'.1

/-- A store answers every first question about the least bucket: a cursor goes with other buckets
only. -/
theorem exists_answer_of_least (s : Store) (user : UserId) (thread : ThreadId)
    (hleast : (h.firstQuestion now query).bucket = Int64.minValue) :
    ∃ first, s.reader user thread (h.firstQuestion now query) = .ok first := by
  rcases query with ⟨_ | bucket, _ | id, cursor⟩ <;> simp only [firstQuestion] at hleast ⊢
  · exact ⟨_, rfl⟩
  · exact ⟨_, rfl⟩
  · split at hleast
    next hnonneg =>
      obtain rfl : bucket = Int64.minValue := hleast
      exact absurd hnonneg (by decide)
    next hneg =>
      rw [if_neg hneg]
      exact ⟨_, rfl⟩
  · exact ⟨_, rfl⟩

/-- **A page from a store stops the program exactly if it is to start in the least bucket.** -/
theorem fetch_store_overflow_iff {s : Store} {user : UserId} :
    (h.fetch (s.reader user thread) lookUp now thread query).outcome = .error .overflow ↔
      (h.firstQuestion now query).bucket = Int64.minValue :=
  fetch_eq_overflow_iff.trans
    (and_iff_left_of_imp (exists_answer_of_least s user thread))

end History

end ChatRelay

import ChatRelay.Proofs.History.Content

/-!
# The newest record

A page of the newest messages begins with the newest record that its buckets hold, however many
empty buckets lie between it and the present one (`fetch_newest`); the page counts as a sign that
this record was read (`markFirst_records`).
-/

namespace ChatRelay

/-- In a list that is in order, what nothing comes before is in front. -/
theorem Record.eq_cons_of_newest {rows : List Record} {r : Record}
    (hrows : rows.Pairwise Record.NewerThan) (hr : r ∈ rows)
    (hnewest : ∀ x ∈ rows, ¬x.NewerThan r) : ∃ older, rows = r :: older := by
  cases rows with
  | nil => exact absurd hr List.not_mem_nil
  | cons first older =>
    rcases List.mem_cons.1 hr with rfl | hr
    · exact ⟨older, rfl⟩
    · have hfirst := (List.pairwise_cons.1 hrows).1 r hr
      exact absurd hfirst (hnewest first List.mem_cons_self)

/-- The record in front of a first page comes back as read. -/
theorem HistoryPage.markFirst_records {page : HistoryPage} {newest : Record} {older : List Record}
    (h : page.records = newest :: older) :
    (page.markFirst {}).1.records = newest.withRead true :: older := by
  rw [markFirst, h]
  dsimp only
  split
  next hread =>
    rw [h, Record.withRead, ← hread]
  next => rfl

namespace History

/-- **The bucket of a message is within reach** of every later instant, if the thread was created
before the message. -/
theorem ofId_mem_reach {h : History} {g : Generator} {id : MessageId} {created now : Millis}
    (hepoch : h.index.epoch = g.epoch.toInt64) (hsmall : g.epoch.toNat < 2 ^ 63)
    (hcreated : created.toNat ≤ g.unixMillis id) (hlater : g.unixMillis id ≤ now.toNat)
    (hnow : now.toNat < 2 ^ 63) :
    h.index.atInstant now ≠ Int64.minValue ∧
      h.index.ofId id ∈ h.reach created (h.index.atInstant now) := by
  have htimestamp := id.timestamp_le
  have hsize := h.index.size_toInt_pos
  rw [Generator.unixMillis] at hcreated hlater
  have hpresent : (h.index.atInstant now).toInt =
      ((now.toNat : Int) - g.epoch.toNat) / h.index.size.toInt := by
    rw [BucketIndex.atInstant, h.index.toInt_ofTimestamp,
      h.index.toInt_relative hepoch (by omega) (by omega)]
  have holdest : (h.oldest created).toInt =
      max 0 ((created.toNat : Int) - g.epoch.toNat) / h.index.size.toInt := by
    rw [h.toInt_oldest, h.index.toInt_relative hepoch (by omega) (by omega)]
  have hmessage := h.index.toInt_ofId id
  have hnonneg : 0 ≤ (h.index.ofId id).toInt := by
    rw [hmessage]
    exact Int.ediv_nonneg (by omega) (Int.le_of_lt hsize)
  have holder : (h.oldest created).toInt ≤ (h.index.ofId id).toInt := by
    rw [holdest, hmessage]
    exact Int.ediv_le_ediv hsize (by omega)
  have hnewer : (h.index.ofId id).toInt ≤ (h.index.atInstant now).toInt := by
    rw [hpresent, hmessage]
    exact Int.ediv_le_ediv hsize (by omega)
  have hstart : h.index.atInstant now ≠ Int64.minValue :=
    Bucket.ne_minValue_of_nonneg (by omega)
  refine ⟨hstart, (h.mem_reach hstart).2 ?_⟩
  rw [Int64.le_iff_toInt_le, Int64.lt_iff_toInt_lt, ← Int64.toInt_inj]
  omega

variable (h : History) {s : Store} {user : UserId} {thread : ThreadId} {lookUp : ThreadLookup}
  {created now : Millis} {r : Record}

/-- **A page of the newest messages begins with the newest record**, if its bucket is within
reach. -/
theorem fetch_newest (hcreated : lookUp thread = .ok created)
    (hcurrent : h.index.atInstant now ≠ Int64.minValue)
    (hr : r ∈ (s.partition user thread r.bucket).records)
    (hreach : r.bucket ∈ h.reach created (h.index.atInstant now))
    (hnewest : ∀ bucket, ∀ x ∈ (s.partition user thread bucket).records, ¬x.NewerThan r) :
    ∃ page older, (h.fetch (s.reader user thread) lookUp now thread {}).outcome = .ok page ∧
      page.records = r :: older := by
  have hcontent : h.content? s user thread created (h.firstQuestion now {}) =
      some (s.rows user thread (h.reach created (h.index.atInstant now))) := rfl
  have hstart : (h.firstQuestion now {}).bucket ≠ Int64.minValue := hcurrent
  obtain ⟨page, hpage, hrecords, -⟩ := h.fetch_store hcreated hstart hcontent
  obtain ⟨older, hrows⟩ := Record.eq_cons_of_newest
    (s.rows_newerThan user thread (h.reach_pairwise created hcurrent))
    ((s.mem_rows user thread).2 ⟨hreach, hr⟩)
    fun x hx => hnewest x.bucket x ((s.mem_rows user thread).1 hx).2
  obtain ⟨limit, hlimit⟩ := Nat.exists_eq_add_of_lt h.pageSize_pos
  refine ⟨page, older.take limit, hpage, ?_⟩
  rw [hrecords, hrows, hlimit, Nat.zero_add, List.take_succ_cons]

end History

end ChatRelay

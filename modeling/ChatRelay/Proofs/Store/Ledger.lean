import ChatRelay.Proofs.Store.Arrivals

/-!
# The store as one table

Seen from outside, a store is a finite map from users, threads, buckets and messages to records: the
record that was stored last for a key is the one that counts, and a mark is set on a record that is
there (`Ledger`). Each write does to the map what it does to the store (`Ledger.Describes.write`),
and a partition lists what the map has for it, newest first (`Ledger.Describes.rows_eq`). So the
answers of a store are those of the map (`refines_ledger`), and depend on the order of writes only
as far as the map does.
-/

namespace ChatRelay

/-! ## Records by their keys -/

/-- What a record is found by. -/
structure RecordKey where
  place : PartitionKey
  id : MessageId
  deriving DecidableEq, Repr

namespace RecordKey

/-- The key under which a user's record is stored. -/
def of (user : UserId) (record : Record) : RecordKey :=
  ⟨⟨user, record.threadId, record.bucket⟩, record.messageId⟩

/-- Keys are ordered by place, then by message. -/
def order : RecordKey → RecordKey → Ordering := compareLex (compareOn place) (compareOn id)

instance : Ord RecordKey := ⟨order⟩

instance : Std.TransOrd RecordKey :=
  inferInstanceAs (Std.TransCmp (compareLex (compareOn place) (compareOn id)))

instance : Std.LawfulEqOrd RecordKey where
  compare_self := Std.ReflOrd.compare_self
  eq_of_compare {a b} h := by
    have h : order a b = .eq := h
    simp only [order, compareLex, compareOn, Ordering.then_eq_eq,
      Std.LawfulEqOrd.compare_eq_iff_eq] at h
    cases a; cases b; simp_all

end RecordKey

/-- The records of all users by their keys. -/
abbrev Ledger := Std.ExtTreeMap RecordKey Record

namespace Ledger

/-- The last record stored under a key counts, and only a record that is there can be marked. -/
def write (m : Ledger) : Write → Ledger
  | .insert user record => m.insert (.of user record) record
  | .markRead user thread bucket id => m.modify ⟨⟨user, thread, bucket⟩, id⟩ (·.withRead true)

/-- The ledger after some writes, one after the other. -/
def writeAll (m : Ledger) (writes : List Write) : Ledger := writes.foldl write m

/-- The records at a place, newest first. -/
def rows (m : Ledger) (place : PartitionKey) : List Record :=
  ((m.toList.filter (·.1.place = place)).map (·.2)).mergeSort fun a b => b.messageId ≤ a.messageId

/-- Records stored under different keys can be stored in either order. -/
theorem insert_comm (m : Ledger) {k k' : RecordKey} (h : k ≠ k') (r r' : Record) :
    (m.insert k r).insert k' r' = (m.insert k' r').insert k r := by
  refine Std.ExtTreeMap.ext_getElem? fun key => ?_
  simp only [Std.ExtTreeMap.getElem?_insert, Std.LawfulEqOrd.compare_eq_iff_eq]
  by_cases hk : k = key
  · have hk' : k' ≠ key := fun heq => h (hk.trans heq.symm)
    simp [hk, hk']
  · simp [hk]

/-- **Records stored under different keys can be stored in any order.** -/
theorem writeAll_inserts_of_perm (m : Ledger) {arrivals arrivals' : List (UserId × Record)}
    (hperm : arrivals.Perm arrivals') (hkeys : (arrivals.map fun a => RecordKey.of a.1 a.2).Nodup) :
    m.writeAll (arrivals.map fun a => .insert a.1 a.2) =
      m.writeAll (arrivals'.map fun a => .insert a.1 a.2) := by
  rw [writeAll, writeAll, List.foldl_map, List.foldl_map]
  refine hperm.foldl_eq' (fun a ha b hb m => ?_) m
  by_cases hsame : a = b
  · rw [hsame]
  · have hkey : RecordKey.of a.1 a.2 ≠ RecordKey.of b.1 b.2 := fun heq =>
      hsame (List.inj_on_of_nodup_map hkeys ha hb heq)
    exact insert_comm m hkey a.2 b.2

end Ledger

/-! ## What a store holds of a message -/

section Lists

variable {record : Record} {records : List Record} {id : MessageId}

/-- A record that was stored is the one of its message, and the only one that has changed. -/
theorem find?_insertRecord (id : MessageId) :
    (insertRecord record records).find? (·.messageId = id) =
      if record.messageId = id then some record else records.find? (·.messageId = id) := by
  induction records with
  | nil => by_cases heq : record.messageId = id <;> simp [insertRecord, heq]
  | cons head tail ih =>
    simp only [insertRecord]
    split
    next hlt =>
      -- the head is of a newer message, so it is found only if the record is not
      rw [List.find?_cons, List.find?_cons, ih]
      by_cases hhead : head.messageId = id
      · have hne : record.messageId ≠ id := fun heq => UInt64.lt_irrefl _ (heq ▸ hhead ▸ hlt)
        simp [hhead, hne]
      · simp [hhead]
    next =>
      split
      next heq => simp only [List.find?_cons, heq]; split <;> simp_all
      next => simp only [List.find?_cons]; split <;> simp_all

/-- A mark is set on the record of its message. -/
theorem find?_markRecord (id' : MessageId) :
    (markRecord id records).find? (·.messageId = id') =
      (records.find? (·.messageId = id')).map fun r =>
        if id = id' then r.withRead true else r := by
  have hid (r : Record) :
      (if r.messageId = id then r.withRead true else r).messageId = r.messageId := by
    split <;> rfl
  rw [markRecord, List.find?_map]
  simp only [Function.comp_def, hid]
  refine Option.map_congr fun r hr => ?_
  have hfound : r.messageId = id' := by simpa using List.find?_some hr
  rw [hfound]
  simp only [eq_comm]

end Lists

/-- The record of a message is the one in the partition that has its identifier. -/
theorem Partition.find?_eq_some_iff (p : Partition) {id : MessageId} {r : Record} :
    p.records.find? (·.messageId = id) = some r ↔ r ∈ p.records ∧ r.messageId = id := by
  constructor
  · intro hfind
    exact ⟨List.mem_of_find?_eq_some hfind, by simpa using List.find?_some hfind⟩
  · rintro ⟨hr, rfl⟩
    cases hfind : p.records.find? (·.messageId = r.messageId) with
    | none => simpa using List.find?_eq_none.1 hfind r hr
    | some found =>
      have hid : found.messageId = r.messageId := by simpa using List.find?_some hfind
      rw [p.eq_of_messageId_eq (List.mem_of_find?_eq_some hfind) hr hid]

namespace Ledger

/-- Whether a ledger has under each key what a store has of the message at that place. -/
def Describes (m : Ledger) (s : Store) : Prop :=
  ∀ user thread bucket id, m[(⟨⟨user, thread, bucket⟩, id⟩ : RecordKey)]? =
    (s.partition user thread bucket).records.find? (·.messageId = id)

theorem describes_empty : Describes ∅ Store.empty := fun _ _ _ _ => by
  simp [Store.empty, Store.partition, Partition.empty]

variable {m m' : Ledger} {s s' : Store} {user : UserId} {thread : ThreadId} {bucket : Bucket}

/-- **A write does to the ledger what it does to the store.** -/
theorem Describes.write (h : m.Describes s) (w : Write) : (m.write w).Describes (s.write w) := by
  intro user thread bucket id
  cases w with
  | insert user' record =>
    simp only [Ledger.write, Store.write, Std.ExtTreeMap.getElem?_insert, RecordKey.of,
      Std.LawfulEqOrd.compare_eq_iff_eq, Store.partition_insert, RecordKey.mk.injEq,
      PartitionKey.mk.injEq]
    by_cases hplace : user' = user ∧ record.threadId = thread ∧ record.bucket = bucket
    · obtain ⟨rfl, rfl, rfl⟩ := hplace
      simp only [true_and, and_self, if_true, Partition.insert_records, find?_insertRecord]
      rw [h]
    · rw [if_neg fun hkey => hplace hkey.1, if_neg hplace, h]
  | markRead user' thread' bucket' id' =>
    simp only [Ledger.write, Store.write, Std.ExtTreeMap.getElem?_modify,
      Std.LawfulEqOrd.compare_eq_iff_eq, Store.partition_markRead, RecordKey.mk.injEq,
      PartitionKey.mk.injEq]
    by_cases hplace : user' = user ∧ thread' = thread ∧ bucket' = bucket
    · obtain ⟨rfl, rfl, rfl⟩ := hplace
      simp only [true_and, and_self, if_true, Partition.markRead, find?_markRecord]
      rw [h, h]
      by_cases hid : id' = id
      · simp [hid]
      · simp [hid]
    · rw [if_neg fun hkey => hplace hkey.1, if_neg hplace, h]

/-- **Writes do to the ledger what they do to the store.** -/
theorem Describes.writeAll (h : m.Describes s) (writes : List Write) :
    (m.writeAll writes).Describes (s.writeAll writes) := by
  induction writes generalizing m s with
  | nil => exact h
  | cons w writes ih => exact ih (h.write w)

/-- The records of a place are found under their identifiers. -/
theorem Describes.mem_toList_iff (h : m.Describes s) {id : MessageId} {r : Record} :
    ((⟨⟨user, thread, bucket⟩, id⟩ : RecordKey), r) ∈ m.toList ↔
      r ∈ (s.partition user thread bucket).records ∧ r.messageId = id := by
  rw [Std.ExtTreeMap.mem_toList_iff_getElem?_eq_some, h, Partition.find?_eq_some_iff]

theorem Describes.mem_rows_iff (h : m.Describes s) {r : Record} :
    r ∈ m.rows ⟨user, thread, bucket⟩ ↔ r ∈ (s.partition user thread bucket).records := by
  rw [rows, List.mem_mergeSort, List.mem_map]
  constructor
  · rintro ⟨⟨⟨place, id⟩, r⟩, hentry, rfl⟩
    obtain ⟨hmem, hplace⟩ := List.mem_filter.1 hentry
    obtain rfl := of_decide_eq_true hplace
    exact (h.mem_toList_iff.1 hmem).1
  · intro hr
    refine ⟨(⟨⟨user, thread, bucket⟩, r.messageId⟩, r), List.mem_filter.2 ⟨?_, ?_⟩, rfl⟩
    · exact h.mem_toList_iff.2 ⟨hr, rfl⟩
    · exact decide_eq_true rfl

theorem Describes.nodup_rows (h : m.Describes s) : (m.rows ⟨user, thread, bucket⟩).Nodup := by
  have hentries : m.toList.Nodup := Std.ExtTreeMap.distinct_keys_toList.imp fun hkey heq =>
    hkey (Std.LawfulEqOrd.compare_eq_iff_eq.2 (congrArg Prod.fst heq))
  rw [rows, (List.mergeSort_perm _ _).nodup_iff]
  refine (hentries.filter _).map_on ?_
  -- a record is found under one identifier only
  rintro ⟨⟨place, id⟩, r⟩ hentry ⟨⟨place', id'⟩, r'⟩ hentry' rfl
  obtain ⟨hmem, hplace⟩ := List.mem_filter.1 hentry
  obtain ⟨hmem', hplace'⟩ := List.mem_filter.1 hentry'
  obtain rfl := of_decide_eq_true hplace
  obtain rfl := of_decide_eq_true hplace'
  rw [← (h.mem_toList_iff.1 hmem).2, ← (h.mem_toList_iff.1 hmem').2]

theorem pairwise_rows (m : Ledger) (place : PartitionKey) :
    (m.rows place).Pairwise fun a b => b.messageId ≤ a.messageId := by
  refine (List.pairwise_mergeSort (fun a b c hab hbc => ?_) (fun a b => ?_) _).imp of_decide_eq_true
  · exact decide_eq_true (UInt64.le_trans (of_decide_eq_true hbc) (of_decide_eq_true hab))
  · simpa using UInt64.le_total b.messageId a.messageId

/-- **A partition lists what the ledger has for it**, newest first. -/
theorem Describes.rows_eq (h : m.Describes s) (user : UserId) (thread : ThreadId)
    (bucket : Bucket) :
    m.rows ⟨user, thread, bucket⟩ = (s.partition user thread bucket).records := by
  have hdescending := (s.partition user thread bucket).descending
  have hnodup := (nodup_map_messageId hdescending).of_map
  have hperm := (List.perm_ext_iff_of_nodup h.nodup_rows hnodup).2 fun r => h.mem_rows_iff
  refine List.Perm.eq_of_pairwise (fun a b ha hb hle hge => ?_) (m.pairwise_rows _)
    (hdescending.imp UInt64.le_of_lt) hperm
  exact Partition.eq_of_messageId_eq _ (h.mem_rows_iff.1 ha) hb (UInt64.le_antisymm hge hle)

/-- Stores with the same ledger answer alike. -/
theorem Describes.reader_eq (h : m.Describes s) (h' : m.Describes s') (user : UserId)
    (thread : ThreadId) : s'.reader user thread = s.reader user thread := by
  have hpartition (bucket : Bucket) :
      s'.partition user thread bucket = s.partition user thread bucket :=
    Partition.ext_records <|
      (h'.rows_eq user thread bucket).symm.trans (h.rows_eq user thread bucket)
  funext question
  match question with
  | .page bucket limit none => rw [Store.reader, Store.reader, hpartition]
  | .page bucket limit (some cursor) => rw [Store.reader, Store.reader, hpartition]
  | .before bucket limit id => rw [Store.reader, Store.reader, hpartition]

end Ledger

/-! ## The answers of a store -/

/-- Whether a page holds the first of some records, as many as the limit allows, and goes on exactly
if records remain. -/
structure Page.IsStart (page : Page) (limit : Nat) (wanted : List Record) : Prop where
  records : page.records = wanted.take limit
  next : page.next.isSome ↔ limit < wanted.length

theorem Partition.isStart_page (p : Partition) (offset limit : Nat) :
    (p.page offset limit).IsStart limit (p.records.drop offset) where
  records := p.page_records
  next := by
    rw [Option.isSome_iff_ne_none, ne_eq, p.page_next_eq_none_iff, Nat.not_le]

namespace Store

/-- **A store is a finite map from keys to records.** Take a store and a ledger after the same
writes. Under each key the ledger has the record that the store has of the message at that place. A
partition is what the ledger has for its user, thread and bucket, newest first, with strictly
descending identifiers and no record of another thread or bucket. The answer to a question about a
bucket begins with the first of these records, with those behind the offset of the cursor, or with
those of messages before the bound; it holds as many as the limit allows, and has a cursor exactly
if more remain. It is the same if the sum of the offset and the limit stops at the greatest word, in
a partition whose records can be counted. And more records under different keys may be stored in any
order: the answers are the same. -/
theorem refines_ledger {writes : List Write} {s : Store} {m : Ledger}
    (hs : Store.empty.writeAll writes = s) (hm : Ledger.writeAll ∅ writes = m) (user : UserId)
    (thread : ThreadId) :
    (∀ bucket id, m[(⟨⟨user, thread, bucket⟩, id⟩ : RecordKey)]? =
      (s.partition user thread bucket).records.find? (·.messageId = id)) ∧
    (∀ bucket, (s.partition user thread bucket).records = m.rows ⟨user, thread, bucket⟩ ∧
      Descending (s.partition user thread bucket).records ∧
      ∀ r ∈ (s.partition user thread bucket).records, r.threadId = thread ∧ r.bucket = bucket) ∧
    (∀ bucket limit, ∃ page, s.reader user thread (.page bucket limit none) = .ok page ∧
      page.IsStart limit (m.rows ⟨user, thread, bucket⟩)) ∧
    (∀ bucket limit cursor offset, cursor.offset? = some offset →
      ∃ page, s.reader user thread (.page bucket limit (some cursor)) = .ok page ∧
        page.IsStart limit ((m.rows ⟨user, thread, bucket⟩).drop offset)) ∧
    (∀ bucket limit id, ∃ page, s.reader user thread (.before bucket limit id) = .ok page ∧
      page.IsStart limit ((m.rows ⟨user, thread, bucket⟩).filter (·.messageId < id))) ∧
    (∀ bucket, (s.partition user thread bucket).size < UInt64.size → ∀ offset limit,
      (s.partition user thread bucket).page offset limit =
        (s.partition user thread bucket).between (min offset (s.partition user thread bucket).size)
          (min (min (min offset (s.partition user thread bucket).size + limit) (UInt64.size - 1))
            (s.partition user thread bucket).size)) ∧
    ∀ arrivals arrivals' : List (UserId × Record), arrivals.Perm arrivals' →
      (arrivals.map fun a => RecordKey.of a.1 a.2).Nodup →
      (s.writeAll (arrivals.map fun a => .insert a.1 a.2)).reader user thread =
        (s.writeAll (arrivals'.map fun a => .insert a.1 a.2)).reader user thread := by
  have hdescribes : m.Describes s := hs ▸ hm ▸ Ledger.describes_empty.writeAll writes
  have hrows := hdescribes.rows_eq user thread
  refine ⟨hdescribes user thread, fun bucket => ⟨(hrows bucket).symm, ?_, ?_⟩, ?_, ?_, ?_,
    fun bucket hsize => (s.partition user thread bucket).page_eq_saturated hsize, ?_⟩
  · exact (s.partition user thread bucket).descending
  · exact fun r => s.filed_partition
  · intro bucket limit
    rw [hrows]
    exact ⟨_, rfl, Partition.isStart_page _ 0 limit⟩
  · intro bucket limit cursor offset hoffset
    rw [hrows, reader, hoffset]
    exact ⟨_, rfl, Partition.isStart_page _ offset limit⟩
  · intro bucket limit id
    rw [hrows, ← Partition.drop_offsetBefore]
    exact ⟨_, rfl, Partition.isStart_page _ _ limit⟩
  · intro arrivals arrivals' hperm hkeys
    have hdescribes' := hdescribes.writeAll (arrivals'.map fun a => .insert a.1 a.2)
    rw [← m.writeAll_inserts_of_perm hperm hkeys] at hdescribes'
    exact hdescribes'.reader_eq (hdescribes.writeAll _) user thread

/-- What the general statement says of two messages in one bucket, of which the older is marked, and
of two that are stored after them. -/
theorem refines_ledger_notes :
    ∃ s m, Store.empty.writeAll [.insert "ann" (note 1), .insert "ann" (note 2),
        .markRead "ann" ⟨0⟩ 0 1] = s ∧
      Ledger.writeAll ∅ [.insert "ann" (note 1), .insert "ann" (note 2),
        .markRead "ann" ⟨0⟩ 0 1] = m ∧
      m.rows ⟨"ann", ⟨0⟩, 0⟩ = [note 2, (note 1).withRead true] ∧
      (s.partition "ann" ⟨0⟩ 0).size < UInt64.size ∧
      (s.partition "ann" ⟨0⟩ 0).page 1 (UInt64.size - 1) =
        (s.partition "ann" ⟨0⟩ 0).between 1 2 ∧
      Cursor.offset? ⟨"1"⟩ = some 1 ∧
      (∃ page, s.reader "ann" ⟨0⟩ (.page 0 5 (some ⟨"1"⟩)) = .ok page ∧
        page.IsStart 5 [(note 1).withRead true]) ∧
      [("ann", note 3), ("ann", note 4)].Perm [("ann", note 4), ("ann", note 3)] ∧
      ([("ann", note 3), ("ann", note 4)].map fun a => RecordKey.of a.1 a.2).Nodup ∧
      ((s.insert "ann" (note 3)).insert "ann" (note 4)).reader "ann" ⟨0⟩ =
        ((s.insert "ann" (note 4)).insert "ann" (note 3)).reader "ann" ⟨0⟩ := by
  have hcursor : Cursor.offset? ⟨"1"⟩ = some 1 := by decide
  have hperm : [("ann", note 3), ("ann", note 4)].Perm [("ann", note 4), ("ann", note 3)] :=
    List.Perm.swap _ _ _
  have hkeys : ([("ann", note 3), ("ann", note 4)].map fun a => RecordKey.of a.1 a.2).Nodup := by
    decide
  obtain ⟨s, hs⟩ : ∃ s, Store.empty.writeAll [.insert "ann" (note 1), .insert "ann" (note 2),
      .markRead "ann" ⟨0⟩ 0 1] = s := ⟨_, rfl⟩
  obtain ⟨m, hm⟩ : ∃ m, Ledger.writeAll ∅ [.insert "ann" (note 1), .insert "ann" (note 2),
      .markRead "ann" ⟨0⟩ 0 1] = m := ⟨_, rfl⟩
  have hrecords : (s.partition "ann" ⟨0⟩ 0).records = [note 2, (note 1).withRead true] := by
    rw [← hs]
    rfl
  have hsize : (s.partition "ann" ⟨0⟩ 0).size = 2 := congrArg List.length hrecords
  have hlt : (s.partition "ann" ⟨0⟩ 0).size < UInt64.size := by
    rw [hsize]
    decide
  obtain ⟨-, hrows, -, hpage, -, hsaturated, hany⟩ := refines_ledger hs hm "ann" ⟨0⟩
  have hlisted := (hrows 0).1.symm.trans hrecords
  have hsame := hany _ _ hperm hkeys
  simp only [List.map_cons, List.map_nil, writeAll, List.foldl_cons, List.foldl_nil, write] at hsame
  refine ⟨s, m, hs, hm, hlisted, hlt, ?_, hcursor, ?_, hperm, hkeys, hsame⟩
  · have hstop : min (min (min 1 2 + (UInt64.size - 1)) (UInt64.size - 1)) 2 = 2 := by decide
    rw [hsaturated 0 hlt, hsize, hstop]
    rfl
  · obtain ⟨page, hread, hstart⟩ := hpage 0 5 ⟨"1"⟩ 1 hcursor
    rw [hlisted] at hstart
    exact ⟨page, hread, hstart⟩

end Store

end ChatRelay

import ChatRelay.Store
import ChatRelay.Proofs.Bucket
import ChatRelay.Proofs.Store.Partition

/-!
# The records of some buckets

`Store.rows` lists what a user has of a thread in some buckets, bucket after bucket. Read from newer
to older buckets it is in the order of records (`rows_newerThan`). Others may write meanwhile: what
is older than a record stays the same, read flags aside, as long as they only store newer ones and
mark (`older_rows_writeAll`).
-/

namespace ChatRelay

/-- Of two records that are filed under their identifiers, the newer one has the larger
identifier. -/
theorem Record.NewerThan.messageId_lt {index : BucketIndex} {a b : Record} (h : a.NewerThan b)
    (ha : a.bucket = index.ofId a.messageId) (hb : b.bucket = index.ofId b.messageId) :
    b.messageId < a.messageId := by
  rcases h with hlt | ⟨-, hlt⟩
  · rw [← UInt64.not_le]
    intro hle
    have hbuckets := index.ofId_mono hle
    rw [← ha, ← hb, Int64.le_iff_toInt_le] at hbuckets
    rw [Int64.lt_iff_toInt_lt] at hlt
    omega
  · exact hlt

/-- One thing that is done to a store. -/
inductive Write where
  | insert (user : UserId) (record : Record)
  | markRead (user : UserId) (thread : ThreadId) (bucket : Bucket) (id : MessageId)
  deriving DecidableEq, Repr

namespace Store

/-- What a user has of a thread in some buckets, bucket after bucket. -/
def rows (s : Store) (user : UserId) (thread : ThreadId) (buckets : List Bucket) : List Record :=
  buckets.flatMap fun bucket => (s.partition user thread bucket).records

variable (s : Store) (user : UserId) (thread : ThreadId)

@[simp] theorem rows_nil : s.rows user thread [] = [] := rfl

@[simp] theorem rows_cons (bucket : Bucket) (buckets : List Bucket) :
    s.rows user thread (bucket :: buckets) =
      (s.partition user thread bucket).records ++ s.rows user thread buckets := rfl

@[simp] theorem rows_append (buckets buckets' : List Bucket) :
    s.rows user thread (buckets ++ buckets') =
      s.rows user thread buckets ++ s.rows user thread buckets' :=
  List.flatMap_append

theorem bucket_of_mem_partition {bucket : Bucket} {r : Record}
    (h : r ∈ (s.partition user thread bucket).records) : r.bucket = bucket :=
  (s.filed_partition h).2

/-- A record that is there after another one was stored is that one, or was there before. -/
theorem mem_partition_insert {user user' : UserId} {thread : ThreadId} {bucket : Bucket}
    {record r : Record} (h : r ∈ ((s.insert user' record).partition user thread bucket).records) :
    r = record ∨ r ∈ (s.partition user thread bucket).records := by
  rw [partition_insert] at h
  split at h
  next hkey =>
    obtain ⟨rfl, -⟩ := hkey
    exact Partition.mem_insert h
  next => exact .inr h

theorem mem_rows {buckets : List Bucket} {r : Record} :
    r ∈ s.rows user thread buckets ↔
      r.bucket ∈ buckets ∧ r ∈ (s.partition user thread r.bucket).records := by
  simp only [rows, List.mem_flatMap]
  constructor
  · rintro ⟨bucket, hbucket, hr⟩
    obtain rfl := s.bucket_of_mem_partition user thread hr
    exact ⟨hbucket, hr⟩
  · rintro ⟨hbucket, hr⟩
    exact ⟨r.bucket, hbucket, hr⟩

/-- A partition is in the order of records. -/
theorem partition_newerThan (bucket : Bucket) :
    (s.partition user thread bucket).records.Pairwise Record.NewerThan := by
  refine List.Pairwise.imp_of_mem (fun {a b} ha hb hlt => ?_)
    (s.partition user thread bucket).descending
  have hbuckets : a.bucket = b.bucket :=
    (s.bucket_of_mem_partition user thread ha).trans (s.bucket_of_mem_partition user thread hb).symm
  exact .inr ⟨hbuckets, hlt⟩

/-- Newer buckets first, the records are in their order. -/
theorem rows_newerThan {buckets : List Bucket} (h : buckets.Pairwise (· > ·)) :
    (s.rows user thread buckets).Pairwise Record.NewerThan := by
  induction buckets with
  | nil => exact List.Pairwise.nil
  | cons bucket buckets ih =>
    obtain ⟨hbucket, hbuckets⟩ := List.pairwise_cons.1 h
    rw [rows_cons, List.pairwise_append]
    refine ⟨s.partition_newerThan user thread bucket, ih hbuckets, fun a ha b hb => ?_⟩
    have hlt := hbucket b.bucket ((s.mem_rows user thread).1 hb).1
    exact .inl (s.bucket_of_mem_partition user thread ha ▸ hlt)

/-! ## Writes -/

/-- The store after a write. -/
def write (s : Store) : Write → Store
  | .insert user record => s.insert user record
  | .markRead user thread bucket id => s.markRead user thread bucket id

/-- The store after some writes, one after the other. -/
def writeAll (s : Store) (writes : List Write) : Store := writes.foldl write s

end Store

/-- Whether a write leaves alone what a user has of a thread after a record, read flags aside. -/
def Write.Spares (user : UserId) (thread : ThreadId) (r : Record) : Write → Prop
  | .insert user' record => user' = user → record.threadId = thread → record.NewerThan r
  | .markRead .. => True

instance (user : UserId) (thread : ThreadId) (r : Record) :
    DecidablePred (Write.Spares user thread r)
  | .insert user' record =>
    inferInstanceAs (Decidable (user' = user → record.threadId = thread → record.NewerThan r))
  | .markRead .. => .isTrue trivial

namespace Store

variable {user : UserId} {thread : ThreadId} {r : Record}

/-- A write that spares what comes after a record does so in each bucket. -/
theorem older_partition_write (s : Store) {w : Write} (hw : w.Spares user thread r)
    (bucket : Bucket) :
    (((s.write w).partition user thread bucket).records.filter (r.NewerThan ·)).map Record.unread =
      ((s.partition user thread bucket).records.filter (r.NewerThan ·)).map Record.unread := by
  cases w with
  | insert user' record =>
    rw [write, partition_insert]
    split
    next h =>
      obtain ⟨rfl, hthread, rfl⟩ := h
      have hnew : ¬r.NewerThan record := (hw rfl hthread).asymm
      rw [Partition.insert_records, filter_insertRecord (decide_eq_false hnew)]
      intro r' hr' hid
      have hbucket := s.bucket_of_mem_partition user' thread hr'
      refine decide_eq_false fun h => hnew ?_
      rwa [Record.NewerThan, hbucket, hid] at h
    next => rfl
  | markRead user' thread' bucket' id =>
    rw [write, partition_markRead]
    split
    next h =>
      obtain ⟨rfl, rfl, rfl⟩ := h
      exact map_unread_filter_markRecord fun _ => rfl
    next => rfl

/-- **Writes that spare what comes after a record leave it as it was**, read flags aside. -/
theorem older_rows_writeAll (s : Store) {writes : List Write}
    (hw : ∀ w ∈ writes, w.Spares user thread r) (buckets : List Bucket) :
    (((s.writeAll writes).rows user thread buckets).filter (r.NewerThan ·)).map Record.unread =
      ((s.rows user thread buckets).filter (r.NewerThan ·)).map Record.unread := by
  induction writes generalizing s with
  | nil => rfl
  | cons w writes ih =>
    rw [writeAll, List.foldl_cons]
    refine (ih (s.write w) fun w' hw' => hw w' (by simp [hw'])).trans ?_
    have hstep := s.older_partition_write (hw w (by simp))
    simp only [rows, List.filter_flatMap, List.map_flatMap, hstep]

end Store

end ChatRelay

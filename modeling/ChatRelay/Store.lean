import ChatRelay.Store.Partition
import Std.Data.ExtTreeMap

/-!
# The message store

A store keeps the records of every user, thread and bucket in a partition of its own. Every record
stands in the partition of its thread and bucket.
-/

namespace ChatRelay

/-- What a partition is found by. -/
structure PartitionKey where
  user : UserId
  thread : ThreadId
  bucket : Bucket
  deriving DecidableEq, Repr

namespace PartitionKey

/-- Keys are ordered by user, then by thread, then by bucket. -/
def order : PartitionKey → PartitionKey → Ordering :=
  compareLex (compareOn user) (compareLex (compareOn thread) (compareOn bucket))

instance : Ord PartitionKey := ⟨order⟩

instance : Std.TransOrd PartitionKey :=
  inferInstanceAs (Std.TransCmp
    (compareLex (compareOn user) (compareLex (compareOn thread) (compareOn bucket))))

instance : Std.LawfulEqOrd PartitionKey where
  compare_self := Std.ReflOrd.compare_self
  eq_of_compare {a b} h := by
    have h : order a b = .eq := h
    simp only [order, compareLex, compareOn, Ordering.then_eq_eq,
      Std.LawfulEqOrd.compare_eq_iff_eq] at h
    cases a; cases b; simp_all

end PartitionKey

/-- The records of all users. -/
structure Store where
  partitions : Std.ExtTreeMap PartitionKey Partition := ∅
  filed : ∀ (key : PartitionKey) (p : Partition), partitions[key]? = some p →
    ∀ record ∈ p.records, record.threadId = key.thread ∧ record.bucket = key.bucket := by simp

namespace Store

/-- The store without records. -/
def empty : Store := {}

/-- The partition of a user, a thread and a bucket. -/
def partition (s : Store) (user : UserId) (thread : ThreadId) (bucket : Bucket) : Partition :=
  (s.partitions[(⟨user, thread, bucket⟩ : PartitionKey)]?).getD .empty

theorem ext_partitions {s t : Store} (h : s.partitions = t.partitions) : s = t := by
  cases s; cases t; simp_all

/-- Every record of a partition is of its thread and bucket. -/
theorem filed_partition (s : Store) {user : UserId} {thread : ThreadId} {bucket : Bucket}
    {record : Record} (h : record ∈ (s.partition user thread bucket).records) :
    record.threadId = thread ∧ record.bucket = bucket := by
  unfold partition at h
  cases hp : s.partitions[(⟨user, thread, bucket⟩ : PartitionKey)]? with
  | none => simp [hp, Partition.empty] at h
  | some p => exact s.filed _ p hp record (by simpa [hp] using h)

/-- Stores a record for a user; it replaces one of the same message in its partition. -/
def insert (s : Store) (user : UserId) (record : Record) : Store where
  partitions := s.partitions.insert ⟨user, record.threadId, record.bucket⟩
    ((s.partition user record.threadId record.bucket).insert record)
  filed key p hp r hr := by
    rw [Std.ExtTreeMap.getElem?_insert] at hp
    split at hp
    · next hkey =>
      obtain rfl := Std.LawfulEqOrd.eq_of_compare hkey
      obtain rfl := Option.some.inj hp
      rcases Partition.mem_insert hr with rfl | hr
      · exact ⟨rfl, rfl⟩
      · exact s.filed_partition hr
    · exact s.filed key p hp r hr

/-- Sets the read flag of a user's record of a message. -/
def markRead (s : Store) (user : UserId) (thread : ThreadId) (bucket : Bucket) (id : MessageId) :
    Store where
  partitions := s.partitions.modify ⟨user, thread, bucket⟩ (·.markRead id)
  filed key p hp r hr := by
    have hmark {q : Partition} (hr : r ∈ (q.markRead id).records) :
        ∃ r' ∈ q.records, r'.threadId = r.threadId ∧ r'.bucket = r.bucket := by
      obtain ⟨r', hr', rfl⟩ := List.mem_map.1 hr
      refine ⟨r', hr', ?_⟩
      split <;> exact ⟨rfl, rfl⟩
    rw [Std.ExtTreeMap.getElem?_modify] at hp
    split at hp
    · next hkey =>
      obtain ⟨q, hq, rfl⟩ := Option.map_eq_some_iff.1 hp
      obtain rfl := Std.LawfulEqOrd.eq_of_compare hkey
      obtain ⟨r', hr', hthread, hbucket⟩ := hmark hr
      exact hthread ▸ hbucket ▸ s.filed _ q hq r' hr'
    · exact s.filed key p hp r hr

theorem partition_insert (s : Store) (user user' : UserId) (record : Record) (thread : ThreadId)
    (bucket : Bucket) :
    (s.insert user record).partition user' thread bucket =
      if user = user' ∧ record.threadId = thread ∧ record.bucket = bucket then
        (s.partition user thread bucket).insert record
      else s.partition user' thread bucket := by
  simp only [partition, insert, Std.ExtTreeMap.getElem?_insert,
    Std.LawfulEqOrd.compare_eq_iff_eq, PartitionKey.mk.injEq]
  split
  · next h => obtain ⟨rfl, rfl, rfl⟩ := h; rfl
  · rfl

theorem partition_markRead (s : Store) (user user' : UserId) (thread thread' : ThreadId)
    (bucket bucket' : Bucket) (id : MessageId) :
    (s.markRead user thread bucket id).partition user' thread' bucket' =
      if user = user' ∧ thread = thread' ∧ bucket = bucket' then
        (s.partition user thread bucket).markRead id
      else s.partition user' thread' bucket' := by
  simp only [partition, markRead, Std.ExtTreeMap.getElem?_modify,
    Std.LawfulEqOrd.compare_eq_iff_eq, PartitionKey.mk.injEq]
  split
  · next h =>
    obtain ⟨rfl, rfl, rfl⟩ := h
    cases s.partitions[(⟨user, thread, bucket⟩ : PartitionKey)]? <;> rfl
  · rfl

end Store

end ChatRelay

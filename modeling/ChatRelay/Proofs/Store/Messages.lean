import ChatRelay.Store
import ChatRelay.Proofs.Store.Partition

/-!
# The messages of a store

What a store holds, read flags aside. To mark a record does not show there, and to store the newest
message of a partition is to put it in front. To mark what was just stored is to store it as read
(`markRead_insert`), and what is stored for different users can be stored in either order
(`insert_comm`).
-/

namespace ChatRelay.Store

/-- What a user has of a thread in a bucket, as it was before anybody read it. -/
def messages (s : Store) (user : UserId) (thread : ThreadId) (bucket : Bucket) : List Record :=
  (s.partition user thread bucket).records.map Record.unread

variable (s : Store) (user : UserId)

/-! ## Partitions -/

theorem getElem?_insert (record : Record) (key : PartitionKey) :
    (s.insert user record).partitions[key]? =
      if ⟨user, record.threadId, record.bucket⟩ = key then
        some ((s.partition user record.threadId record.bucket).insert record)
      else s.partitions[key]? := by
  simp only [insert, Std.ExtTreeMap.getElem?_insert, Std.LawfulEqOrd.compare_eq_iff_eq]

theorem getElem?_markRead (thread : ThreadId) (bucket : Bucket) (id : MessageId)
    (key : PartitionKey) :
    (s.markRead user thread bucket id).partitions[key]? =
      if ⟨user, thread, bucket⟩ = key then (s.partitions[key]?).map (·.markRead id)
      else s.partitions[key]? := by
  simp only [markRead, Std.ExtTreeMap.getElem?_modify, Std.LawfulEqOrd.compare_eq_iff_eq]
  split
  next h => rw [h]
  next => rfl

/-- To mark what was just stored is to store it as read. -/
theorem markRead_insert (record : Record) :
    (s.insert user record).markRead user record.threadId record.bucket record.messageId =
      s.insert user (record.withRead true) := by
  refine ext_partitions (Std.ExtTreeMap.ext_getElem? fun key => ?_)
  rw [getElem?_markRead, getElem?_insert, getElem?_insert]
  by_cases hkey : ⟨user, record.threadId, record.bucket⟩ = key
  · rw [if_pos hkey, if_pos hkey, Option.map_some, Partition.markRead_insert]
    exact (if_pos hkey).symm
  · rw [if_neg hkey, if_neg hkey]
    exact (if_neg hkey).symm

/-- **What is stored for different users can be stored in either order.** -/
theorem insert_comm {user user' : UserId} (h : user ≠ user') (record record' : Record) :
    (s.insert user record).insert user' record' =
      (s.insert user' record').insert user record := by
  refine ext_partitions (Std.ExtTreeMap.ext_getElem? fun key => ?_)
  simp only [getElem?_insert, partition_insert, h, Ne.symm h, false_and, if_false]
  by_cases hkey : ⟨user, record.threadId, record.bucket⟩ = key
  · have hother : ⟨user', record'.threadId, record'.bucket⟩ ≠ key := fun hkey' =>
      h (congrArg PartitionKey.user (hkey.trans hkey'.symm))
    rw [if_neg hother, if_pos hkey]
    exact (if_pos hkey).symm
  · rw [if_neg hkey]
    exact (if_neg hkey).symm

/-! ## Messages -/

@[simp] theorem messages_empty (user : UserId) (thread : ThreadId) (bucket : Bucket) :
    empty.messages user thread bucket = [] := by
  simp [messages, partition, empty, Partition.empty]

@[simp] theorem messages_markRead (thread : ThreadId) (bucket : Bucket) (id : MessageId) :
    (s.markRead user thread bucket id).messages = s.messages := by
  funext user' thread' bucket'
  rw [messages, partition_markRead]
  split
  next h =>
    obtain ⟨rfl, rfl, rfl⟩ := h
    exact map_unread_markRecord
  next => rfl

/-- The record of the newest message of its partition goes to the front. -/
theorem map_unread_insert {thread : ThreadId} {bucket : Bucket} {record : Record}
    (h : ∀ r ∈ s.messages user thread bucket, r.messageId < record.messageId) :
    ((s.partition user thread bucket).insert record).records.map Record.unread =
      record.unread :: s.messages user thread bucket := by
  have hnew : ∀ r ∈ (s.partition user thread bucket).records, r.messageId < record.messageId :=
    fun r hr => h r.unread (List.mem_map_of_mem hr)
  rw [Partition.insert_records, insertRecord_of_forall_lt hnew]
  rfl

end ChatRelay.Store

import ChatRelay.Message
import ChatRelay.Proofs.Bucket.Range
import Mathlib.Data.Prod.Lex

/-!
# One order of identifiers, fields and buckets

An identifier is put together from its fields without loss, also where its timestamp is beyond those
that are minted, and identifiers compare as their fields do in lexicographic order
(`MessageId.lt_iff_key`). The bucket of an identifier follows this order. So among records that are
filed under their identifiers, to compare buckets first makes no difference, and sorting by bucket
and identifier is sorting by identifier (`BucketIndex.orders_agree`).
-/

namespace ChatRelay

namespace MessageId

/-- The fields in the order in which they count. -/
def Parts.key (p : Parts) : Nat ×ₗ Nat ×ₗ Nat := toLex (p.timestamp, toLex (p.node, p.sequence))

variable {a b : MessageId}

/-- **An identifier is the union of its fields**, each moved to its place. -/
theorem fields_or (id : MessageId) :
    UInt64.ofNat id.decompose.timestamp <<< 22 ||| UInt64.ofNat id.decompose.node <<< 12 |||
      UInt64.ofNat id.decompose.sequence = id :=
  (pack_eq_or_of_fits id.timestamp_le id.node_lt id.sequence_lt).symm.trans id.pack_fields

/-- **Identifiers compare as their fields do.** -/
theorem lt_iff_key : a < b ↔ a.decompose.key < b.decompose.key := by
  rw [lt_iff_fields, Parts.key, Parts.key, Prod.Lex.toLex_lt_toLex, Prod.Lex.toLex_lt_toLex]
  rfl

end MessageId

/-! ## Records -/

namespace Record

/-- Records compared by their buckets, and by their identifiers within a bucket. -/
def byBucket : Record → Record → Ordering := compareLex (compareOn bucket) (compareOn messageId)

/-- Records compared by their identifiers. -/
def byId : Record → Record → Ordering := compareOn messageId

end Record

namespace BucketIndex

variable (index : BucketIndex) {records : List Record}

/-- The buckets of identifiers, compared first, never decide against the identifiers. -/
theorem compare_ofId_then (a b : MessageId) :
    (compare (index.ofId a) (index.ofId b)).then (compare a b) = compare a b := by
  cases hids : compare a b with
  | eq =>
    obtain rfl := Std.LawfulEqOrd.eq_of_compare hids
    rw [Std.ReflOrd.compare_self]
    rfl
  | lt =>
    have hle := index.ofId_mono (UInt64.le_of_lt (Std.compare_eq_lt.1 hids))
    rcases Int64.lt_or_eq_of_le hle with hlt | heq
    · rw [Std.compare_eq_lt.2 hlt]
      rfl
    · rw [heq, Std.ReflOrd.compare_self]
      rfl
  | gt =>
    have hle := index.ofId_mono (UInt64.le_of_lt (Std.compare_eq_gt.1 hids))
    rcases Int64.lt_or_eq_of_le hle with hlt | heq
    · rw [Std.compare_eq_gt.2 hlt]
      rfl
    · rw [heq, Std.ReflOrd.compare_self]
      rfl

/-- Records that are filed under their identifiers compare as these do. -/
theorem byBucket_eq_byId {a b : Record} (ha : a.bucket = index.ofId a.messageId)
    (hb : b.bucket = index.ofId b.messageId) : a.byBucket b = a.byId b := by
  rw [Record.byBucket, compareLex, compareOn, ha, hb]
  exact index.compare_ofId_then a.messageId b.messageId

/-- To sort such records by bucket and identifier is to sort them by identifier. -/
theorem mergeSort_byBucket (h : ∀ r ∈ records, r.bucket = index.ofId r.messageId) :
    (records.mergeSort fun a b => (a.byBucket b).isLE) =
      records.mergeSort fun a b => (a.byId b).isLE := by
  have hsame : ∀ a ∈ records, ∀ b ∈ records, (a.byBucket b).isLE = (a.byId b).isLE :=
    fun a ha b hb => congrArg Ordering.isLE (index.byBucket_eq_byId (h a ha) (h b hb))
  have hsorted := List.map_mergeSort (s := fun a b => (Record.byId a b).isLE) (f := id) hsame
  rwa [List.map_id, List.map_id] at hsorted

/-- **Identifiers, their fields and their buckets are in one order.** The fields of any identifier
are its bits from bit 22, from bit 12 and from bit 0 on, and put side by side they are the
identifier; identifiers compare as their fields do, the timestamp first, then the node, then the
sequence number. Later identifiers are in later buckets, or in the same one. So records that are
filed under their identifiers compare by bucket and identifier as they do by identifier, and sorting
them one way or the other gives one list. -/
theorem orders_agree :
    (∀ id : MessageId,
      id.decompose =
        { timestamp := (id >>> 22).toNat, node := (id >>> 12 &&& 0x3FF).toNat
          sequence := (id &&& 0xFFF).toNat } ∧
      UInt64.ofNat id.decompose.timestamp <<< 22 ||| UInt64.ofNat id.decompose.node <<< 12 |||
        UInt64.ofNat id.decompose.sequence = id) ∧
    (∀ a b : MessageId, a < b ↔ a.decompose.key < b.decompose.key) ∧
    ∀ index : BucketIndex,
      (∀ a b : MessageId, a ≤ b → index.ofId a ≤ index.ofId b) ∧
      ∀ records : List Record, (∀ r ∈ records, r.bucket = index.ofId r.messageId) →
        (∀ a ∈ records, ∀ b ∈ records, a.byBucket b = a.byId b) ∧
        (records.mergeSort fun a b => (a.byBucket b).isLE) =
          records.mergeSort fun a b => (a.byId b).isLE := by
  refine ⟨fun id => ⟨?_, id.fields_or⟩, fun a b => MessageId.lt_iff_key, fun index => ⟨?_, ?_⟩⟩
  · rw [MessageId.decompose, id.timestamp_eq_shiftRight, id.node_eq_and, id.sequence_eq_and]
  · exact fun a b => index.ofId_mono
  · exact fun records h => ⟨fun a ha b hb => index.byBucket_eq_byId (h a ha) (h b hb),
      index.mergeSort_byBucket h⟩

/-- A record of a message, in the bucket of its identifier. -/
def filed (messageId : MessageId) (author : UserId) : Record :=
  { messageId, threadId := ⟨0⟩, bucket := seconds.ofId messageId, author, body := "" }

/-- Records of which the first has the greatest of all identifiers, and two have the same one. -/
def scattered : List Record :=
  [filed 0xFFFFFFFFFFFFFFFF "ann", filed (.pack 1999 1023 4095) "bob", filed (.pack 2000 0 0) "ann",
    filed 5 "carl", filed (.pack 1999 1023 4095) "dan"]

/-- What the general statement says of them. -/
theorem orders_agree_scattered :
    (UInt64.ofNat 0x3FFFFFFFFFF <<< 22 ||| UInt64.ofNat 1023 <<< 12 ||| UInt64.ofNat 4095 =
      (0xFFFFFFFFFFFFFFFF : MessageId)) ∧
    MessageId.Parts.key ⟨1999, 1023, 4095⟩ < MessageId.Parts.key ⟨2000, 0, 0⟩ ∧
    seconds.ofId (.pack 1999 1023 4095) ≤ seconds.ofId (.pack 2000 0 0) ∧
    (∀ r ∈ scattered, r.bucket = seconds.ofId r.messageId) ∧
    (scattered.mergeSort fun a b => (a.byBucket b).isLE) =
      scattered.mergeSort fun a b => (a.byId b).isLE := by
  obtain ⟨hfields, hkey, hindex⟩ := orders_agree
  obtain ⟨hbuckets, hrecords⟩ := hindex seconds
  have hgreatest : MessageId.decompose 0xFFFFFFFFFFFFFFFF = ⟨0x3FFFFFFFFFF, 1023, 4095⟩ := by decide
  have hearlier : (MessageId.pack 1999 1023 4095).decompose = ⟨1999, 1023, 4095⟩ := by decide
  have hlater : (MessageId.pack 2000 0 0).decompose = ⟨2000, 0, 0⟩ := by decide
  have hlt : MessageId.pack 1999 1023 4095 < .pack 2000 0 0 := by decide
  have hfiled : ∀ r ∈ scattered, r.bucket = seconds.ofId r.messageId := by decide
  refine ⟨?_, ?_, hbuckets _ _ (UInt64.le_of_lt hlt), hfiled, (hrecords _ hfiled).2⟩
  · have hunion := (hfields 0xFFFFFFFFFFFFFFFF).2
    rwa [hgreatest] at hunion
  · have hkeys := (hkey _ _).1 hlt
    rwa [hearlier, hlater] at hkeys

end BucketIndex

end ChatRelay

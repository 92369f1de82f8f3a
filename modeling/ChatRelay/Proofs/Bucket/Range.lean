import ChatRelay.Proofs.Bucket
import ChatRelay.Proofs.MessageId

/-!
# Ranges of buckets

A bucket covers an interval of time, which may begin before the epoch and may end after the last
instant that sixty-four bits can tell (`Covers`). The buckets between two identifiers are those of
the identifiers between them, and none else: a bucket between those of the two has a first instant,
and this is the timestamp of some identifier (`mem_between_iff`). The buckets from an instant on are
those that still cover an instant from there on (`mem_fromTimestamp_iff`). Either way each bucket is
listed once, in ascending order (`ranges_exact`).
-/

namespace ChatRelay

/-! ## Listing -/

namespace BucketRange

variable {range : BucketRange} {bucket : Bucket}

theorem mem_iff_toInt : bucket ∈ range ↔
    range.first.toInt ≤ bucket.toInt ∧ bucket.toInt ≤ range.last.toInt := by
  rw [← Int64.le_iff_toInt_le, ← Int64.le_iff_toInt_le]
  rfl

/-- The buckets that are listed have the numbers from the first one on. -/
theorem toInt_first_add {i : Nat} (hi : i < range.size) :
    (Int64.ofInt (range.first.toInt + i)).toInt = range.first.toInt + i := by
  have hfirst := range.first.le_toInt
  have hlast := range.last.toInt_lt
  rw [size] at hi
  exact Int64.toInt_ofInt_of_le (by omega) (by omega)

theorem toList_eq_map : range.toList =
    (List.range range.size).map fun (i : Nat) => Int64.ofInt (range.first.toInt + i) := by
  rw [toList, oldest, Nat.min_self]

/-- A range lists the buckets that are in it. -/
theorem mem_toList : bucket ∈ range.toList ↔ bucket ∈ range := by
  rw [toList_eq_map, List.mem_map, mem_iff_toInt]
  constructor
  · rintro ⟨i, hi, rfl⟩
    rw [List.mem_range] at hi
    rw [toInt_first_add hi]
    rw [size] at hi
    omega
  · rintro ⟨hfirst, hlast⟩
    have hi : (bucket.toInt - range.first.toInt).toNat < range.size := by
      rw [size]
      omega
    refine ⟨_, List.mem_range.2 hi, Int64.toInt_inj.1 ?_⟩
    rw [toInt_first_add hi]
    omega

/-- A range lists its buckets in ascending order, so each of them once. -/
theorem toList_pairwise (range : BucketRange) : range.toList.Pairwise (· < ·) := by
  rw [toList_eq_map, List.pairwise_map]
  refine List.pairwise_lt_range.imp_of_mem fun {i j} hi hj hlt => ?_
  rw [Int64.lt_iff_toInt_lt, toInt_first_add (List.mem_range.1 hi),
    toInt_first_add (List.mem_range.1 hj)]
  omega

/-- A range lists nothing where it ends before it starts. -/
theorem toList_eq_nil (h : range.last < range.first) : range.toList = [] := by
  rw [List.eq_nil_iff_forall_not_mem]
  intro bucket hbucket
  obtain ⟨hfirst, hlast⟩ := mem_iff_toInt.1 (mem_toList.1 hbucket)
  rw [Int64.lt_iff_toInt_lt] at h
  omega

end BucketRange

/-! ## Buckets as intervals -/

/-- Below an identifier there is one of every smaller timestamp. -/
theorem MessageId.exists_le_of_timestamp {id : MessageId} {timestamp : Nat}
    (h : timestamp ≤ id.timestamp) : ∃ x : MessageId, x ≤ id ∧ x.timestamp = timestamp := by
  have hlt := id.toNat_lt
  have hx : (UInt64.ofNat (timestamp * 4194304)).toNat = timestamp * 4194304 := by
    simp only [MessageId.timestamp, nodeCount, sequenceCount] at h
    exact UInt64.toNat_ofNat_of_lt' (show timestamp * 4194304 < 2 ^ 64 by omega)
  refine ⟨UInt64.ofNat (timestamp * 4194304), ?_, ?_⟩
  · rw [UInt64.le_iff_toNat_le, hx]
    simp only [MessageId.timestamp, nodeCount, sequenceCount] at h
    omega
  · rw [MessageId.timestamp, hx]
    simp only [nodeCount, sequenceCount]
    omega

namespace BucketIndex

variable (index : BucketIndex)

/-- Whether a bucket covers an instant, relative to the epoch: the instants of a bucket are as many
as its size says, and those of the next bucket follow them. -/
def Covers (bucket : Bucket) (instant : Int) : Prop :=
  bucket.toInt * index.size.toInt ≤ instant ∧ instant < (bucket.toInt + 1) * index.size.toInt

variable {index} {bucket last : Bucket} {timestamp : Int64} {first id : MessageId}

theorem covers_iff_ediv {instant : Int} :
    index.Covers bucket instant ↔ instant / index.size.toInt = bucket.toInt := by
  have hsize := index.size_toInt_pos
  rw [Covers, ← Int.le_ediv_iff_mul_le hsize, ← Int.ediv_lt_iff_lt_mul hsize]
  omega

/-- A time is in the bucket that covers it. -/
theorem ofTimestamp_eq_iff : index.ofTimestamp timestamp = bucket ↔
    index.Covers bucket timestamp.toInt := by
  rw [covers_iff_ediv, ← Int64.toInt_inj, index.toInt_ofTimestamp]

/-- A message is in the bucket that covers its timestamp. -/
theorem ofId_eq_iff : index.ofId id = bucket ↔ index.Covers bucket id.timestamp := by
  rw [covers_iff_ediv, ← Int64.toInt_inj, index.toInt_ofId]

/-- A bucket covers an instant from a given one on if it ends after this. -/
theorem exists_covers_iff {instant : Int} : (∃ later, instant ≤ later ∧ index.Covers bucket later) ↔
    instant < (bucket.toInt + 1) * index.size.toInt := by
  have hsize := index.size_toInt_pos
  have hend := Int.add_mul bucket.toInt 1 index.size.toInt
  constructor
  · rintro ⟨later, hle, -, hlt⟩
    exact Int.lt_of_le_of_lt hle hlt
  · intro hlt
    exact ⟨max instant (bucket.toInt * index.size.toInt), Int.le_max_left _ _,
      Int.le_max_right _ _, by omega⟩

/-! ## Ranges -/

/-- A bucket after that of one identifier and not after that of another begins between the two. -/
theorem exists_id_of_lt_of_le (hfirst : index.ofId first < bucket)
    (hlast : bucket ≤ index.ofId id) :
    ∃ x : MessageId, first ≤ x ∧ x ≤ id ∧ index.ofId x = bucket := by
  have hsize := index.size_toInt_pos
  rw [Int64.lt_iff_toInt_lt, index.toInt_ofId, Int.ediv_lt_iff_lt_mul hsize] at hfirst
  rw [Int64.le_iff_toInt_le, index.toInt_ofId, Int.le_ediv_iff_mul_le hsize] at hlast
  obtain ⟨start, hstart⟩ :=
    Int.eq_ofNat_of_zero_le (a := bucket.toInt * index.size.toInt) (by omega)
  rw [hstart] at hfirst hlast
  have hreach : start ≤ id.timestamp := by omega
  obtain ⟨x, hle, hx⟩ := MessageId.exists_le_of_timestamp hreach
  have hlt : first < x := (MessageId.lt_iff_fields first x).2 (.inl (by omega))
  refine ⟨x, UInt64.le_of_lt hlt, hle, ?_⟩
  rw [ofId_eq_iff, covers_iff_ediv, hx, ← hstart, Int.mul_ediv_cancel _ (by omega)]

/-- **The buckets between two identifiers** are those of the identifiers between them. -/
theorem mem_between_iff {last : MessageId} (h : first ≤ last) :
    bucket ∈ index.between first last ↔
      ∃ x, first ≤ x ∧ x ≤ last ∧ index.ofId x = bucket := by
  constructor
  · rintro ⟨hfirst, hlast⟩
    rcases Int64.lt_or_eq_of_le hfirst with hlt | heq
    · exact exists_id_of_lt_of_le hlt hlast
    · exact ⟨first, UInt64.le_refl first, h, heq⟩
  · rintro ⟨x, hfirst, hlast, rfl⟩
    exact ⟨index.ofId_mono hfirst, index.ofId_mono hlast⟩

/-- **The buckets from an instant on** are those that end after it. -/
theorem mem_fromTimestamp_iff : bucket ∈ index.fromTimestamp timestamp last ↔
    bucket ≤ last ∧ timestamp.toInt < (bucket.toInt + 1) * index.size.toInt := by
  rw [BucketRange.mem_iff_toInt, ← Int.ediv_lt_iff_lt_mul index.size_toInt_pos,
    Int64.le_iff_toInt_le]
  simp only [fromTimestamp, index.toInt_ofTimestamp]
  omega

/-- **Ranges of buckets are exact.** The buckets between two identifiers are those of the
identifiers that are not before the first nor after the last one; if the last one is before the
first, and in another bucket, there are none. The buckets from a time on, up to a last one, are
those up to it that cover an instant from this time on, that is those that end after it, also before
the epoch and where the instant is beyond sixty-four bits. Each bucket is listed once, in ascending
order. -/
theorem ranges_exact (index : BucketIndex) :
    (∀ first last : MessageId, first ≤ last → ∀ bucket,
      bucket ∈ (index.between first last).toList ↔
        ∃ id, first ≤ id ∧ id ≤ last ∧ index.ofId id = bucket) ∧
    (∀ first last : MessageId, last < first → index.ofId first ≠ index.ofId last →
      (index.between first last).toList = []) ∧
    (∀ timestamp last bucket, bucket ∈ (index.fromTimestamp timestamp last).toList ↔
      bucket ≤ last ∧ ∃ instant, timestamp.toInt ≤ instant ∧ index.Covers bucket instant) ∧
    (∀ timestamp last bucket, bucket ∈ (index.fromTimestamp timestamp last).toList ↔
      bucket ≤ last ∧ timestamp.toInt < (bucket.toInt + 1) * index.size.toInt) ∧
    (∀ timestamp bucket, index.ofTimestamp timestamp = bucket ↔
      index.Covers bucket timestamp.toInt) ∧
    (∀ first last, (index.between first last).toList.Pairwise (· < ·)) ∧
    ∀ timestamp last, (index.fromTimestamp timestamp last).toList.Pairwise (· < ·) := by
  refine ⟨fun first last h bucket => ?_, fun first last hlt hne => ?_,
    fun timestamp last bucket => ?_, fun timestamp last bucket => ?_,
    fun _ _ => ofTimestamp_eq_iff, fun _ _ => BucketRange.toList_pairwise _,
    fun _ _ => BucketRange.toList_pairwise _⟩
  · rw [BucketRange.mem_toList, mem_between_iff h]
  · have hle := index.ofId_mono (UInt64.le_of_lt hlt)
    exact BucketRange.toList_eq_nil (Int64.lt_of_le_of_ne hle hne.symm)
  · rw [BucketRange.mem_toList, mem_fromTimestamp_iff, exists_covers_iff]
  · rw [BucketRange.mem_toList, mem_fromTimestamp_iff]

/-- Buckets of a second each, from the beginning of 1970 on. -/
def seconds : BucketIndex :=
  { size := 1000, epoch := 0, size_pos := second_pos }

/-- What the general statement says of the identifiers of two instants, in order and in the reverse
order, and of the last millisecond before the epoch. -/
theorem ranges_exact_seconds :
    (∃ id, MessageId.pack 2500 1023 7 ≤ id ∧ id ≤ .pack 5100 0 0 ∧ seconds.ofId id = 3) ∧
      (seconds.between (.pack 5100 0 0) (.pack 2500 1023 7)).toList = [] ∧
      -1 ∈ (seconds.fromTimestamp (-1) 0).toList ∧ -2 ∉ (seconds.fromTimestamp (-1) 0).toList := by
  obtain ⟨hbetween, hempty, -, hfrom, -⟩ := ranges_exact seconds
  exact ⟨(hbetween _ _ (by decide) 3).1 (by decide), hempty _ _ (by decide) (by decide),
    (hfrom _ _ _).2 (by decide), fun h => absurd ((hfrom _ _ _).1 h) (by decide)⟩

end BucketIndex

end ChatRelay

import ChatRelay.Bucket
import Mathlib.Algebra.Group.Int.Defs
import Mathlib.Algebra.Group.Nat.Defs

/-!
# Buckets from one on downwards

Reading backwards goes from a bucket to the one before it, `Bucket.down`. As long as it stays at
bucket zero or above, this lists every bucket of an interval once, newest first (`mem_down`,
`down_pairwise`), and what follows a bucket in the list starts from the one before it
(`down_split`).
-/

namespace ChatRelay

namespace Bucket

/-- The bucket before, where there is one. -/
theorem toInt_pred {b : Bucket} (h : b ≠ Int64.minValue) : (b - 1).toInt = b.toInt - 1 := by
  have hle := b.le_toInt
  have hlt := b.toInt_lt
  have hne : b.toInt ≠ Int64.minValue.toInt := fun h' => h (Int64.toInt_inj.1 h')
  rw [Int64.toInt_minValue] at hne
  rw [Int64.toInt_sub, Int64.toInt_one]
  apply Int.bmod_eq_of_le <;> omega

theorem ne_minValue_of_nonneg {b : Bucket} (h : 0 ≤ b.toInt) : b ≠ Int64.minValue := by
  rintro rfl
  simp at h

/-- As many buckets as `count` says, from a bucket on downwards. -/
def down (bucket : Bucket) : (count : Nat) → List Bucket
  | 0 => []
  | count + 1 => bucket :: down (bucket - 1) count

variable {bucket b : Bucket} {count : Nat}

@[simp] theorem length_down (bucket : Bucket) (count : Nat) :
    (down bucket count).length = count := by
  induction count generalizing bucket with
  | zero => rfl
  | succ count ih => rw [down, List.length_cons, ih]

theorem mem_down (hcount : count ≤ bucket.toInt + 1) :
    b ∈ down bucket count ↔ bucket.toInt - count < b.toInt ∧ b.toInt ≤ bucket.toInt := by
  induction count generalizing bucket with
  | zero =>
    simp only [down, List.not_mem_nil, false_iff]
    omega
  | succ count ih =>
    have hpred := toInt_pred (ne_minValue_of_nonneg (b := bucket) (by omega))
    rw [down, List.mem_cons, ih (by omega), ← Int64.toInt_inj, hpred]
    omega

theorem down_pairwise (hcount : count ≤ bucket.toInt + 1) :
    (down bucket count).Pairwise (· > ·) := by
  induction count generalizing bucket with
  | zero => exact List.Pairwise.nil
  | succ count ih =>
    have hpred := toInt_pred (ne_minValue_of_nonneg (b := bucket) (by omega))
    refine List.pairwise_cons.2 ⟨fun b hb => ?_, ih (by omega)⟩
    rw [mem_down (by omega), hpred] at hb
    exact Int64.lt_iff_toInt_lt.2 (by omega)

/-- Each bucket of the list has the number before that of the one that it follows. -/
theorem toInt_of_getElem?_down {i : Nat} (hcount : count ≤ bucket.toInt + 1)
    (hb : (down bucket count)[i]? = some b) : b.toInt = bucket.toInt - i := by
  induction count generalizing bucket i with
  | zero => simp [down] at hb
  | succ count ih =>
    cases i with
    | zero =>
      obtain rfl := Option.some.inj hb
      omega
    | succ i =>
      have hpred := toInt_pred (ne_minValue_of_nonneg (b := bucket) (by omega))
      rw [ih (by omega) hb, hpred]
      omega

/-- From a bucket of the list on, the list is the one that starts there. -/
theorem down_split (hcount : count ≤ bucket.toInt + 1) (hb : b ∈ down bucket count) :
    ∃ newer rest, down bucket count = newer ++ b :: down (b - 1) rest ∧ (∀ x ∈ newer, b < x) ∧
      (rest : Int) = b.toInt - (bucket.toInt - count) - 1 := by
  induction count generalizing bucket with
  | zero => simp [down] at hb
  | succ count ih =>
    have hpred := toInt_pred (ne_minValue_of_nonneg (b := bucket) (by omega))
    rcases List.mem_cons.1 hb with rfl | hb
    · exact ⟨[], count, rfl, by simp, by omega⟩
    · obtain ⟨newer, rest, heq, hnewer, hrest⟩ := ih (by omega) hb
      have hlt : b < bucket := by
        rw [mem_down (by omega), hpred] at hb
        exact Int64.lt_iff_toInt_lt.2 (by omega)
      exact ⟨bucket :: newer, rest, by rw [down, heq, List.cons_append],
        List.forall_mem_cons.2 ⟨hlt, hnewer⟩, by omega⟩

end Bucket

namespace BucketIndex

variable (index : BucketIndex)

theorem size_toInt_pos : 0 < index.size.toInt := by
  simpa [Int64.lt_iff_toInt_lt] using index.size_pos

/-- A second is a size of buckets. -/
theorem second_pos : (0 : Int64) < 1000 := by decide

/-- Dividing by the size stays in the range of bucket numbers. -/
theorem toInt_ofTimestamp (timestamp : Int64) :
    (index.ofTimestamp timestamp).toInt = timestamp.toInt / index.size.toInt := by
  have hsize := index.size_toInt_pos
  have hle := timestamp.le_toInt
  have hlt := timestamp.toInt_lt
  have hbelow : -2 ^ 63 ≤ timestamp.toInt / index.size.toInt :=
    Int.le_ediv_of_mul_le hsize (by omega)
  have habove : timestamp.toInt / index.size.toInt < 2 ^ 63 :=
    Int.ediv_lt_of_lt_mul hsize (by omega)
  rw [ofTimestamp, Int64.toInt_ofInt_of_le hbelow habove]

/-- The bucket of an identifier comes from its timestamp, whatever this is. -/
theorem toInt_ofId (id : MessageId) :
    (index.ofId id).toInt = (id.timestamp : Int) / index.size.toInt := by
  have hle := id.timestamp_le
  rw [ofId, index.toInt_ofTimestamp, Int64.toInt_ofNat_of_lt (by omega)]

/-- Later identifiers are in later buckets, or in the same one. -/
theorem ofId_mono {a b : MessageId} (h : a ≤ b) : index.ofId a ≤ index.ofId b := by
  have hle : a.timestamp ≤ b.timestamp := by
    rw [UInt64.le_iff_toNat_le] at h
    exact Nat.div_le_div_right (Nat.div_le_div_right h)
  rw [Int64.le_iff_toInt_le, index.toInt_ofId, index.toInt_ofId]
  exact Int.ediv_le_ediv index.size_toInt_pos (by omega)

/-- An instant as a signed number. -/
theorem toInt_toInt64 (instant : Millis) :
    instant.toInt64.toInt = (instant.toNat : Int).bmod (2 ^ 64) :=
  BitVec.toInt_eq_toNat_bmod instant.toBitVec

/-- Instants are taken relative to the epoch, as far as the difference is in range. -/
theorem toInt_relative {epoch instant : Millis} (hepoch : index.epoch = epoch.toInt64)
    (hbelow : -2 ^ 63 ≤ (instant.toNat : Int) - epoch.toNat)
    (habove : (instant.toNat : Int) - epoch.toNat < 2 ^ 63) :
    (index.relative instant).toInt = instant.toNat - epoch.toNat := by
  rw [relative, hepoch, Int64.toInt_sub, toInt_toInt64, toInt_toInt64, Int.bmod_sub_bmod,
    Int.sub_bmod_bmod]
  exact Int.bmod_eq_of_le (by omega) (by omega)

end BucketIndex

end ChatRelay

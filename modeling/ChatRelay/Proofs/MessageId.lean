import ChatRelay.MessageId
import Mathlib.Algebra.Group.Nat.Defs

/-!
# The fields of an identifier

Packing and taking apart are inverse on the fields that are minted (`timestamp_pack`, `node_pack`,
`sequence_pack`), and packing the fields of any identifier gives it back (`pack_fields`).
Identifiers compare as their fields do, the timestamp first (`lt_iff_fields`). In bits, the fields
stand side by side (`pack_eq_or_of_fits`); what is minted leaves the first bit zero
(`testBit_pack`).
-/

namespace ChatRelay.MessageId

theorem one_lt_nodeCount : 1 < nodeCount := by decide

theorem one_lt_sequenceCount : 1 < sequenceCount := by decide

theorem sequenceCount_pos : 0 < sequenceCount := by decide

variable {timestamp node sequence : Nat}

/-- Fields with a timestamp of up to forty-two bits fit into 64 bits. -/
theorem toNat_pack_of_fits (ht : timestamp ≤ 0x3FFFFFFFFFF) (hn : node < nodeCount)
    (hs : sequence < sequenceCount) :
    (pack timestamp node sequence).toNat =
      (timestamp * nodeCount + node) * sequenceCount + sequence := by
  simp only [nodeCount, sequenceCount] at hn hs
  rw [pack, UInt64.toNat_ofNat', Nat.mod_eq_of_lt]
  simp only [nodeCount, sequenceCount]
  omega

/-- A timestamp that can be minted has fewer bits than one that is read. -/
theorem fits_of_le_max (ht : timestamp ≤ maxTimestamp) : timestamp ≤ 0x3FFFFFFFFFF :=
  Nat.le_trans ht (by decide)

/-- The fields that are minted fit into 64 bits. -/
theorem toNat_pack (ht : timestamp ≤ maxTimestamp) (hn : node < nodeCount)
    (hs : sequence < sequenceCount) :
    (pack timestamp node sequence).toNat =
      (timestamp * nodeCount + node) * sequenceCount + sequence :=
  toNat_pack_of_fits (fits_of_le_max ht) hn hs

theorem timestamp_pack (ht : timestamp ≤ maxTimestamp) (hn : node < nodeCount)
    (hs : sequence < sequenceCount) : (pack timestamp node sequence).timestamp = timestamp := by
  rw [MessageId.timestamp, toNat_pack ht hn hs]
  simp only [nodeCount, sequenceCount] at hn hs ⊢
  omega

theorem node_pack (ht : timestamp ≤ maxTimestamp) (hn : node < nodeCount)
    (hs : sequence < sequenceCount) : (pack timestamp node sequence).node = node := by
  rw [MessageId.node, toNat_pack ht hn hs]
  simp only [nodeCount, sequenceCount] at hn hs ⊢
  omega

theorem sequence_pack (ht : timestamp ≤ maxTimestamp) (hn : node < nodeCount)
    (hs : sequence < sequenceCount) : (pack timestamp node sequence).sequence = sequence := by
  rw [MessageId.sequence, toNat_pack ht hn hs]
  simp only [sequenceCount] at hs ⊢
  omega

/-- An identifier comes apart into the fields that it was packed from. -/
theorem decompose_pack (ht : timestamp ≤ maxTimestamp) (hn : node < nodeCount)
    (hs : sequence < sequenceCount) :
    (pack timestamp node sequence).decompose = { timestamp, node, sequence } := by
  rw [decompose, timestamp_pack ht hn hs, node_pack ht hn hs, sequence_pack ht hn hs]

/-! ## Fields of any identifier -/

theorem node_lt (id : MessageId) : id.node < nodeCount :=
  Nat.mod_lt _ (Nat.lt_trans Nat.zero_lt_one one_lt_nodeCount)

theorem sequence_lt (id : MessageId) : id.sequence < sequenceCount :=
  Nat.mod_lt _ sequenceCount_pos

/-- An identifier is packed from its fields. -/
theorem pack_fields (id : MessageId) : pack id.timestamp id.node id.sequence = id := by
  apply UInt64.toNat_inj.1
  rw [toNat_pack_of_fits id.timestamp_le id.node_lt id.sequence_lt]
  simp only [MessageId.timestamp, MessageId.node, MessageId.sequence, nodeCount, sequenceCount]
  omega

/-- **Identifiers compare by timestamp, then by node, then by sequence number.** -/
theorem lt_iff_fields (a b : MessageId) :
    a < b ↔ a.timestamp < b.timestamp ∨ a.timestamp = b.timestamp ∧
      (a.node < b.node ∨ a.node = b.node ∧ a.sequence < b.sequence) := by
  rw [UInt64.lt_iff_toNat_lt]
  simp only [MessageId.timestamp, MessageId.node, MessageId.sequence, nodeCount, sequenceCount]
  omega

/-! ## Bits -/

/-- The timestamp is read by a shift. -/
theorem timestamp_eq_shiftRight (id : MessageId) : id.timestamp = (id >>> 22).toNat := by
  have hplace : (22 : UInt64).toNat % 64 = 22 := rfl
  rw [UInt64.toNat_shiftRight, hplace, Nat.shiftRight_eq_div_pow, MessageId.timestamp,
    Nat.div_div_eq_div_mul]
  rfl

/-- The node is read by a shift and a mask. -/
theorem node_eq_and (id : MessageId) : id.node = (id >>> 12 &&& 0x3FF).toNat := by
  have hplace : (12 : UInt64).toNat % 64 = 12 := rfl
  rw [UInt64.toNat_and, UInt64.toNat_shiftRight, hplace, Nat.shiftRight_eq_div_pow]
  exact (Nat.and_two_pow_sub_one_eq_mod _ 10).symm

/-- The sequence number is read by a mask. -/
theorem sequence_eq_and (id : MessageId) : id.sequence = (id &&& 0xFFF).toNat := by
  rw [UInt64.toNat_and]
  exact (Nat.and_two_pow_sub_one_eq_mod _ 12).symm

/-- A field that fits is moved to its place without loss. -/
theorem toNat_shiftLeft {field : Nat} {place : UInt64} (hplace : place.toNat < 64)
    (hfits : field * 2 ^ place.toNat < 2 ^ 64) :
    (UInt64.ofNat field <<< place).toNat = field * 2 ^ place.toNat := by
  have hfield : field < 2 ^ 64 :=
    Nat.lt_of_le_of_lt (Nat.le_mul_of_pos_right field (Nat.two_pow_pos _)) hfits
  rw [UInt64.toNat_shiftLeft, Nat.mod_eq_of_lt hplace, UInt64.toNat_ofNat_of_lt' hfield,
    Nat.shiftLeft_eq, Nat.mod_eq_of_lt hfits]

/-- **Packing puts the fields side by side**, from bit 22, from bit 12 and from bit 0 on; none
spills into another. -/
theorem pack_eq_or_of_fits (ht : timestamp ≤ 0x3FFFFFFFFFF) (hn : node < nodeCount)
    (hs : sequence < sequenceCount) :
    pack timestamp node sequence =
      UInt64.ofNat timestamp <<< 22 ||| UInt64.ofNat node <<< 12 ||| UInt64.ofNat sequence := by
  apply UInt64.toNat_inj.1
  rw [toNat_pack_of_fits ht hn hs, UInt64.toNat_or, UInt64.toNat_or]
  simp only [nodeCount, sequenceCount] at hn hs ⊢
  have hhighest : (UInt64.ofNat timestamp <<< 22).toNat = timestamp * 2 ^ 22 :=
    toNat_shiftLeft (by decide) (show timestamp * 2 ^ 22 < 2 ^ 64 by omega)
  have hmiddle : (UInt64.ofNat node <<< 12).toNat = node * 2 ^ 12 :=
    toNat_shiftLeft (by decide) (show node * 2 ^ 12 < 2 ^ 64 by omega)
  have hlowest : (UInt64.ofNat sequence).toNat = sequence :=
    UInt64.toNat_ofNat_of_lt' (Nat.lt_trans hs (by decide))
  rw [hhighest, hmiddle, hlowest]
  -- from the lowest field up, a sum is a union of bits that do not meet
  have hlow : node * 2 ^ 12 ||| sequence = node * 2 ^ 12 + sequence := by
    rw [← Nat.shiftLeft_eq, Nat.shiftLeft_add_eq_or_of_lt (by omega)]
  have hhigh : timestamp * 2 ^ 22 ||| (node * 2 ^ 12 + sequence) =
      timestamp * 2 ^ 22 + (node * 2 ^ 12 + sequence) := by
    rw [← Nat.shiftLeft_eq timestamp, Nat.shiftLeft_add_eq_or_of_lt (by omega)]
  rw [Nat.or_assoc, hlow, hhigh]
  omega

/-- What is minted has its fields side by side. -/
theorem pack_eq_or (ht : timestamp ≤ maxTimestamp) (hn : node < nodeCount)
    (hs : sequence < sequenceCount) :
    pack timestamp node sequence =
      UInt64.ofNat timestamp <<< 22 ||| UInt64.ofNat node <<< 12 ||| UInt64.ofNat sequence :=
  pack_eq_or_of_fits (fits_of_le_max ht) hn hs

/-- The first bit of a minted identifier is zero. -/
theorem testBit_pack (ht : timestamp ≤ maxTimestamp) (hn : node < nodeCount)
    (hs : sequence < sequenceCount) : (pack timestamp node sequence).toNat.testBit 63 = false := by
  rw [toNat_pack ht hn hs]
  apply Nat.testBit_lt_two_pow
  simp only [maxTimestamp, nodeCount, sequenceCount] at ht hn hs ⊢
  omega

end ChatRelay.MessageId

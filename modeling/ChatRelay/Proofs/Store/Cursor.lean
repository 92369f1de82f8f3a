import ChatRelay.History.Reader
import ChatRelay.Proofs.Json.Numeral
import ChatRelay.Proofs.Store.Partition

/-!
# Where a partition goes on

The cursor of a page says how many records come before what is left of the partition, and it is
always understood: a partition has no more records than there are identifiers, so that the number is
one that cursors can hold (`Partition.page_next`).
-/

namespace ChatRelay

namespace Cursor

/-- The number that a cursor was made for is read back. -/
theorem offset?_ofOffset {offset : Nat} (h : offset < UInt64.size) :
    (ofOffset offset).offset? = some offset := by
  obtain ⟨c, cs, hdigits, hc⟩ := Json.Numeral.exists_toDigits offset
  have hread := Json.Numeral.read?_toDigits offset
  have htoken : (ofOffset offset).token.toList = Nat.toDigits 10 offset := Nat.toList_repr
  rw [hdigits] at hread
  rw [offset?, htoken, hdigits, Decimal.readBounded?]
  · simp [hread, h]
  · -- a numeral does not begin with a sign
    intro cs' heq
    rw [(List.cons.inj heq).1] at hc
    exact absurd hc (by decide)

end Cursor

/-- There are as many identifiers below that of a record as records after it, or more. -/
theorem length_le_of_descending {record : Record} {records : List Record}
    (h : Descending (record :: records)) : records.length ≤ record.messageId.toNat := by
  induction records generalizing record with
  | nil => exact Nat.zero_le _
  | cons next rest ih =>
    obtain ⟨hnext, hrest⟩ := List.pairwise_cons.1 h
    have hlt := UInt64.lt_iff_toNat_lt.1 (hnext next List.mem_cons_self)
    have hle := ih hrest
    rw [List.length_cons]
    omega

namespace Partition

variable (p : Partition) {offset limit : Nat} {cursor : Cursor}

/-- A partition has no more records than there are identifiers. -/
theorem size_le : p.size ≤ UInt64.size := by
  obtain ⟨records, hrecords⟩ := p
  cases records with
  | nil => exact Nat.zero_le _
  | cons record records =>
    have hle := length_le_of_descending hrecords
    have hlt := record.messageId.toNat_lt_size
    rw [size, List.length_cons]
    omega

/-- **A page goes on behind its last record**, at a cursor that is understood. -/
theorem page_next (h : (p.page offset limit).next = some cursor) :
    offset + limit < p.size ∧ cursor.offset? = some (offset + limit) := by
  rw [page_eq] at h
  dsimp only at h
  split at h
  next hlt =>
    obtain rfl := Option.some.inj h
    have hle := p.size_le
    exact ⟨hlt, Cursor.offset?_ofOffset (by omega)⟩
  next => cases h

/-- A page that goes on is the end of what its cursor counts. -/
theorem page_next_split (hlimit : 0 < limit) (h : (p.page offset limit).next = some cursor) :
    ∃ (front rest : List Record) (last : Record), p.records = front ++ rest ∧
      (p.page offset limit).records <:+ front ∧
      (p.page offset limit).records.getLast? = some last ∧ front.getLast? = some last ∧
      cursor.offset? = some front.length := by
  obtain ⟨hsize, hcursor⟩ := p.page_next h
  rw [size] at hsize
  have hpage : (p.page offset limit).records = (p.records.drop offset).take limit := p.page_records
  have hfront : p.records.take (offset + limit) =
      p.records.take offset ++ (p.records.drop offset).take limit := List.take_add
  obtain ⟨last, hlast⟩ : ∃ last, ((p.records.drop offset).take limit).getLast? = some last := by
    refine ⟨_, List.getLast?_eq_some_getLast fun hnil => ?_⟩
    have hzero := congrArg List.length hnil
    rw [List.length_take, List.length_drop, List.length_nil] at hzero
    omega
  rw [hpage]
  refine ⟨p.records.take (offset + limit), p.records.drop (offset + limit), last,
    (List.take_append_drop _ _).symm, ⟨_, hfront.symm⟩, hlast, ?_, ?_⟩
  · rw [hfront, List.getLast?_append, hlast, Option.some_or]
  · rw [hcursor, List.length_take_of_le (Nat.le_of_lt hsize)]

end Partition

end ChatRelay

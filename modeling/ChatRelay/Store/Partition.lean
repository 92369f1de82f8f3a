import ChatRelay.Store.Search
import ChatRelay.Thread
import ChatRelay.Text.Decimal

/-!
# Partitions

The records that one user has of one thread in one bucket, newest first: identifiers strictly
decrease along the list, so that there is one record for each message, and a search finds where a
record belongs. A page is a part of the list; its cursor is the number of records up to its end.
-/

namespace ChatRelay

/-- A token that says where to resume. -/
structure Cursor where
  token : String
  deriving DecidableEq, Repr

namespace Cursor

/-- The cursor for a number of records to skip. -/
def ofOffset (offset : Nat) : Cursor := ⟨offset.repr⟩

/-- The number of records to skip: a decimal numeral below 2 ^ 64 with an optional plus sign. -/
def offset? (cursor : Cursor) : Option Nat :=
  Decimal.readBounded? UInt64.size cursor.token.toList

end Cursor

/-- A part of a partition. -/
structure Page where
  /-- Newest first. -/
  records : List Record := []
  /-- Where to resume, if records are left. -/
  next : Option Cursor := none
  deriving DecidableEq, Repr

/-- Newest first, one record for each message. -/
def Descending (records : List Record) : Prop :=
  records.Pairwise fun a b => b.messageId < a.messageId

theorem descending_iff {records : List Record} :
    Descending records ↔ (records.map (·.messageId)).Pairwise fun a b => b < a := by
  rw [Descending, List.pairwise_map]

/-- What a search for a message asks of a record. Newer records come first, so what is compared is
the message with the record. -/
def MessageId.search (id : MessageId) (r : Record) : Ordering := compare id r.messageId

namespace Descending

variable {record : Record} {records : List Record} {found : Except Nat Nat}

/-- Newest first is the order of a search. -/
theorem inOrder (h : Descending records) (id : MessageId) : InOrder id.search records :=
  h.imp fun hab =>
    ⟨fun hlt => Std.compare_eq_lt.2 (UInt64.lt_trans (Std.compare_eq_lt.1 hlt) hab),
      fun hgt => Std.compare_eq_gt.2 (UInt64.lt_trans hab (Std.compare_eq_gt.1 hgt))⟩

/-- **A record is put where a search finds its message**, and the order stays. -/
theorem putAt (h : Descending records) (hfound : Found record.messageId.search records found) :
    Descending (putAt record records found) := by
  cases hfound with
  | @present position r hr heq =>
    -- the identifiers stay as they are
    have hid : record.messageId = r.messageId := Std.compare_eq_iff_eq.1 heq
    have hget : (records.map (·.messageId))[position]? = some record.messageId := by
      rw [List.getElem?_map, hr, hid, Option.map_some]
    obtain ⟨hlt, hget⟩ := List.getElem?_eq_some_iff.1 hget
    rw [descending_iff] at h ⊢
    rwa [ChatRelay.putAt, List.map_set, ← hget, List.set_getElem_self]
  | @missing position hbefore hafter =>
    rw [Descending, ← List.take_append_drop position records, List.pairwise_append] at h
    obtain ⟨htake, hdrop, hcross⟩ := h
    refine List.pairwise_append.2 ⟨htake, List.pairwise_cons.2 ⟨fun r hr => ?_, hdrop⟩, ?_⟩
    · exact Std.compare_eq_gt.1 (hafter r hr)
    · intro a ha b hb
      rcases List.mem_cons.1 hb with rfl | hb
      · exact Std.compare_eq_lt.1 (hbefore a ha)
      · exact hcross a ha b hb

end Descending

/-- Sets the read flag of the record of a message. -/
def markRecord (id : MessageId) (records : List Record) : List Record :=
  records.map fun record => if record.messageId = id then record.withRead true else record

theorem descending_markRecord {id : MessageId} {records : List Record} (h : Descending records) :
    Descending (markRecord id records) := by
  refine List.pairwise_map.2 (h.imp fun {a b} hab => ?_)
  have hid (r : Record) :
      (if r.messageId = id then r.withRead true else r).messageId = r.messageId := by
    split <;> rfl
  rwa [hid, hid]

/-- The records of one user, thread and bucket. -/
structure Partition where
  records : List Record := []
  descending : Descending records := by exact List.Pairwise.nil
  deriving DecidableEq, Repr

namespace Partition

instance : Inhabited Partition := ⟨{}⟩

/-- The partition without records. -/
def empty : Partition := {}

/-- The number of records. -/
def size (p : Partition) : Nat := p.records.length

/-- Stores a record where a search finds its message; it replaces one of the same message. -/
def insert (p : Partition) (record : Record) : Partition :=
  ⟨putAt record p.records (searchBy record.messageId.search p.records),
    p.descending.putAt (p.descending.inOrder _).found_searchBy⟩

theorem mem_insert {p : Partition} {record r : Record} (h : r ∈ (p.insert record).records) :
    r = record ∨ r ∈ p.records := mem_putAt h

/-- Sets the read flag of a message. -/
def markRead (p : Partition) (id : MessageId) : Partition :=
  ⟨markRecord id p.records, descending_markRecord p.descending⟩

/-- The records between two positions. -/
def between (p : Partition) (start stop : Nat) : Page :=
  { records := (p.records.take stop).drop start
    next := if stop < p.size then some (.ofOffset stop) else none }

/-- At most `limit` records after the first `offset` ones. Positions behind the end count as the
end, and with them a sum that is too large. -/
def page (p : Partition) (offset limit : Nat) : Page :=
  let start := min offset p.size
  p.between start (min (start + limit) p.size)

/-- The number of records that are not older than a message. -/
def offsetBefore (p : Partition) (id : MessageId) : Nat :=
  partitionPoint (fun r => decide (id ≤ r.messageId)) p.records

/-- At most `limit` records that are older than a message. -/
def pageBefore (p : Partition) (id : MessageId) (limit : Nat) : Page :=
  p.page (p.offsetBefore id) limit

end Partition

end ChatRelay

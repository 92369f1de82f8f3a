import ChatRelay.Store.Partition
import Mathlib.Data.List.Nodup

/-!
# The order of stored records

Records go by bucket and then by identifier, newest first (`Record.NewerThan`), and a partition is
in that order. What a page before a message is about is exactly the records with smaller
identifiers (`drop_offsetBefore`). What a search does to a partition when a record is stored can be
said record by record (`insertRecord_of_found`): the newest one is put in front
(`insertRecord_of_forall_lt`), and records from a message on do not disturb the ones before it
(`filter_insertRecord`). Marking changes read flags only, which `Record.unread` puts out of sight.
-/

namespace ChatRelay

namespace Record

/-- The record as it was before anybody read it. -/
def unread (r : Record) : Record := r.withRead false

/-- Whether a record comes before another one when a thread is read backwards. -/
def NewerThan (a b : Record) : Prop :=
  b.bucket < a.bucket ∨ a.bucket = b.bucket ∧ b.messageId < a.messageId

instance : DecidableRel NewerThan := fun a b =>
  inferInstanceAs
    (Decidable (b.bucket < a.bucket ∨ a.bucket = b.bucket ∧ b.messageId < a.messageId))

theorem NewerThan.asymm {a b : Record} (hab : a.NewerThan b) : ¬b.NewerThan a := by
  simp only [NewerThan, Int64.lt_iff_toInt_lt, ← Int64.toInt_inj, UInt64.lt_iff_toNat_lt] at *
  omega

section Ordered

variable {records : List Record} (hrecords : records.Pairwise NewerThan) {n : Nat}
include hrecords

/-- What comes after a record of an end of the list is in that end. -/
theorem mem_suffix_of_newerThan {rest : List Record} {a b : Record} (hrest : rest <:+ records)
    (ha : a ∈ rest) (hb : b ∈ records) (hab : a.NewerThan b) : b ∈ rest := by
  obtain ⟨front, rfl⟩ := hrest
  rcases List.mem_append.1 hb with hb | hb
  · exact absurd ((List.pairwise_append.1 hrecords).2.2 b hb a ha) hab.asymm
  · exact hb

/-- What follows the first `n` records is what comes after the last one of them. -/
theorem drop_eq_filter_newerThan {last : Record} (hlast : (records.take n).getLast? = some last) :
    records.drop n = records.filter (last.NewerThan ·) := by
  obtain ⟨front, hfront⟩ := List.getLast?_eq_some_iff.1 hlast
  rw [← List.take_append_drop n records, List.pairwise_append, hfront,
    List.pairwise_append] at hrecords
  obtain ⟨⟨-, -, hbefore⟩, -, hafter⟩ := hrecords
  have htake : (records.take n).filter (last.NewerThan ·) = [] := by
    rw [hfront, List.filter_eq_nil_iff]
    intro r hr
    rw [decide_eq_true_eq]
    rcases List.mem_append.1 hr with hr | hr
    · exact (hbefore r hr last (by simp)).asymm
    · obtain rfl := List.mem_singleton.1 hr
      exact fun h => h.asymm h
  have hdrop : (records.drop n).filter (last.NewerThan ·) = records.drop n :=
    List.filter_eq_self.2 fun r hr => decide_eq_true (hafter last (by simp) r hr)
  calc records.drop n
      = (records.take n).filter (last.NewerThan ·) ++
          (records.drop n).filter (last.NewerThan ·) := by
        rw [htake, hdrop, List.nil_append]
    _ = records.filter (last.NewerThan ·) := by
        rw [← List.filter_append, List.take_append_drop]

/-- What comes after a record of an end of the list is all in that end. -/
theorem filter_newerThan_of_suffix {rest : List Record} {r : Record} (hrest : rest <:+ records)
    (hr : r ∈ rest) : rest.filter (r.NewerThan ·) = records.filter (r.NewerThan ·) := by
  obtain ⟨front, rfl⟩ := hrest
  have hfront : front.filter (r.NewerThan ·) = [] := by
    refine List.filter_eq_nil_iff.2 fun x hx => ?_
    rw [decide_eq_true_eq]
    exact ((List.pairwise_append.1 hrecords).2.2 x hx r hr).asymm
  rw [List.filter_append, hfront, List.nil_append]

end Ordered

end Record

/-- Puts a record at its place, instead of a record of the same message if there is one. -/
def insertRecord (record : Record) : List Record → List Record
  | [] => [record]
  | head :: tail =>
    if record.messageId < head.messageId then head :: insertRecord record tail
    else if record.messageId = head.messageId then record :: tail
    else record :: head :: tail

section Lists

variable {record : Record} {front back records : List Record} {position : Nat} {id : MessageId}

/-- What is stored is there. -/
theorem mem_insertRecord_self (record : Record) (records : List Record) :
    record ∈ insertRecord record records := by
  induction records with
  | nil => exact List.mem_singleton_self record
  | cons head tail ih =>
    rw [insertRecord]
    split
    · exact List.mem_cons_of_mem head ih
    · split <;> exact List.mem_cons_self

/-- The record of the newest message goes to the front. -/
theorem insertRecord_of_forall_lt (h : ∀ r ∈ records, r.messageId < record.messageId) :
    insertRecord record records = record :: records := by
  cases records with
  | nil => rfl
  | cons head tail =>
    have hlt := h head (by simp)
    have hnot : ¬record.messageId < head.messageId := fun h => UInt64.lt_asymm h hlt
    have hne : record.messageId ≠ head.messageId := fun h => UInt64.lt_irrefl _ (h ▸ hlt)
    rw [insertRecord, if_neg hnot, if_neg hne]

/-- A record goes behind all newer ones. -/
theorem insertRecord_append_newer (h : ∀ r ∈ front, record.messageId < r.messageId) :
    insertRecord record (front ++ back) = front ++ insertRecord record back := by
  induction front with
  | nil => rfl
  | cons head tail ih =>
    obtain ⟨hhead, htail⟩ := List.forall_mem_cons.1 h
    rw [List.cons_append, insertRecord, if_pos hhead, ih htail, List.cons_append]

/-- **To store a record is to search for its message** and to put the record at the position that
was found. -/
theorem insertRecord_of_found {found : Except Nat Nat} (h : Descending records)
    (hfound : Found record.messageId.search records found) :
    insertRecord record records = putAt record records found := by
  cases hfound with
  | @present position r hr heq =>
    obtain ⟨hlt, hget⟩ := List.getElem?_eq_some_iff.1 hr
    have hid : record.messageId = r.messageId := Std.compare_eq_iff_eq.1 heq
    have hsplit : records = records.take position ++ r :: records.drop (position + 1) := by
      rw [← hget, List.getElem_cons_drop, List.take_append_drop]
    have hnewer : ∀ r' ∈ records.take position, record.messageId < r'.messageId := by
      intro r' hr'
      rw [Descending, hsplit, List.pairwise_append] at h
      exact hid ▸ h.2.2 r' hr' r List.mem_cons_self
    rw [putAt, List.set_eq_take_append_cons_drop, if_pos hlt]
    conv_lhs => rw [hsplit, insertRecord_append_newer hnewer]
    rw [insertRecord, if_neg (hid ▸ UInt64.lt_irrefl _), if_pos hid]
  | @missing position hbefore hafter =>
    have hnewer : ∀ r ∈ records.take position, record.messageId < r.messageId := fun r hr =>
      Std.compare_eq_lt.1 (hbefore r hr)
    have holder : ∀ r ∈ records.drop position, r.messageId < record.messageId := fun r hr =>
      Std.compare_eq_gt.1 (hafter r hr)
    rw [putAt]
    conv_lhs => rw [← List.take_append_drop position records, insertRecord_append_newer hnewer,
      insertRecord_of_forall_lt holder]

theorem descending_insertRecord (h : Descending records) :
    Descending (insertRecord record records) := by
  have hfound := (h.inOrder record.messageId).found_searchBy
  rw [insertRecord_of_found h hfound]
  exact h.putAt hfound

/-- Marking leaves the records of other messages alone. -/
theorem markRecord_of_forall_ne (h : ∀ r ∈ records, r.messageId ≠ id) :
    markRecord id records = records := by
  have hmap : markRecord id records = records.map fun r => r :=
    List.map_congr_left fun r hr => if_neg (h r hr)
  rw [hmap, List.map_id']

theorem markRecord_cons_self :
    markRecord record.messageId (record :: records) =
      record.withRead true :: markRecord record.messageId records := by
  simp [markRecord]

/-- To mark what was just stored is to store it as read. -/
theorem markRecord_insertRecord (h : Descending records) :
    markRecord record.messageId (insertRecord record records) =
      insertRecord (record.withRead true) records := by
  have hid : (record.withRead true).messageId = record.messageId := rfl
  induction records with
  | nil => simp [insertRecord, markRecord]
  | cons head tail ih =>
    obtain ⟨hhead, htail⟩ := List.pairwise_cons.1 h
    simp only [insertRecord, hid]
    split
    next hlt =>
      -- the head is newer and not marked
      have hne : head.messageId ≠ record.messageId := fun heq => UInt64.lt_irrefl _ (heq ▸ hlt)
      rw [← ih htail]
      simp [markRecord, hne]
    next hnot =>
      split
      next heq =>
        rw [markRecord_cons_self, markRecord_of_forall_ne]
        intro r hr hr'
        have hlt := hhead r hr
        rw [hr', heq] at hlt
        exact UInt64.lt_irrefl _ hlt
      next hne =>
        rw [markRecord_cons_self, markRecord_of_forall_ne]
        intro r hr hr'
        rcases List.mem_cons.1 hr with rfl | hr
        · exact hne hr'.symm
        · exact hnot (hr' ▸ hhead r hr)

/-- A selection that leaves out every record of a message does not see it stored. -/
theorem filter_insertRecord {p : Record → Bool} (hp : p record = false)
    (h : ∀ r ∈ records, r.messageId = record.messageId → p r = false) :
    (insertRecord record records).filter p = records.filter p := by
  induction records with
  | nil => simp [insertRecord, hp]
  | cons head tail ih =>
    have htail := ih fun r hr => h r (by simp [hr])
    rw [insertRecord]
    split
    · rw [List.filter_cons, List.filter_cons, htail]
    · split
      next heq =>
        have hhead := h head (by simp) heq.symm
        simp [hp, hhead]
      next => simp [hp]

/-- Marking changes read flags only, also in a selection that does not look at them. -/
theorem map_unread_filter_markRecord {p : Record → Bool} (hp : ∀ r, p (r.withRead true) = p r) :
    ((markRecord id records).filter p).map Record.unread =
      (records.filter p).map Record.unread := by
  have hcomp : (p ∘ fun r => if r.messageId = id then r.withRead true else r) = p := by
    funext r
    rw [Function.comp_apply]
    split
    · exact hp r
    · rfl
  rw [markRecord, List.filter_map, List.map_map, hcomp]
  refine List.map_congr_left fun r _ => ?_
  rw [Function.comp_apply]
  split <;> rfl

theorem map_unread_markRecord :
    (markRecord id records).map Record.unread = records.map Record.unread := by
  have hall : ((markRecord id records).filter fun _ => true).map Record.unread =
      (records.filter fun _ => true).map Record.unread := map_unread_filter_markRecord fun _ => rfl
  rwa [List.filter_eq_self.2 fun _ _ => rfl, List.filter_eq_self.2 fun _ _ => rfl] at hall

/-- Records in order are of different messages. -/
theorem nodup_map_messageId (h : Descending records) : (records.map (·.messageId)).Nodup := by
  apply List.pairwise_map.2
  apply h.imp
  intro a b hlt heq
  rw [heq] at hlt
  exact UInt64.lt_irrefl _ hlt

end Lists

namespace Partition

variable (p : Partition) {offset limit : Nat}

/-- Records that are not older than a message come first, and those that are older follow. -/
theorem drop_offsetBefore (id : MessageId) :
    p.records.drop (p.offsetBefore id) = p.records.filter fun r => r.messageId < id := by
  have hdivides : (∀ r ∈ p.records.take (p.offsetBefore id), decide (id ≤ r.messageId) = true) ∧
      ∀ r ∈ p.records.drop (p.offsetBefore id), decide (id ≤ r.messageId) = false :=
    partitionPoint_divides <| p.descending.imp fun hab hle =>
      decide_eq_true (UInt64.le_of_lt (UInt64.lt_of_le_of_lt (of_decide_eq_true hle) hab))
  have hfront : (p.records.take (p.offsetBefore id)).filter (·.messageId < id) = [] :=
    List.filter_eq_nil_iff.2 fun r hr => by
      simpa using of_decide_eq_true (hdivides.1 r hr)
  have hback : (p.records.drop (p.offsetBefore id)).filter (·.messageId < id) =
      p.records.drop (p.offsetBefore id) :=
    List.filter_eq_self.2 fun r hr => by
      simpa using of_decide_eq_false (hdivides.2 r hr)
  conv_rhs => rw [← List.take_append_drop (p.offsetBefore id) p.records, List.filter_append, hfront,
    hback, List.nil_append]

@[simp] theorem insert_records (record : Record) :
    (p.insert record).records = insertRecord record p.records :=
  (insertRecord_of_found p.descending (p.descending.inOrder _).found_searchBy).symm

@[simp] theorem markRead_records (id : MessageId) :
    (p.markRead id).records = markRecord id p.records := rfl

theorem ext_records {p p' : Partition} (h : p.records = p'.records) : p = p' := by
  cases p
  cases p'
  simp_all

/-- There is one record for each message. -/
theorem eq_of_messageId_eq {a b : Record} (ha : a ∈ p.records) (hb : b ∈ p.records)
    (h : a.messageId = b.messageId) : a = b :=
  List.inj_on_of_nodup_map (nodup_map_messageId p.descending) ha hb h

theorem markRead_insert (record : Record) :
    (p.insert record).markRead record.messageId = p.insert (record.withRead true) := by
  refine ext_records ?_
  rw [markRead_records, insert_records, insert_records, markRecord_insertRecord p.descending]

/-- A page is a number of records that follow an offset, and goes on behind them if more remain. -/
theorem page_eq (offset limit : Nat) :
    p.page offset limit =
      { records := (p.records.drop offset).take limit
        next := if offset + limit < p.size then some (.ofOffset (offset + limit)) else none } := by
  rw [page, between]
  rcases Nat.lt_or_ge (offset + limit) p.size with hinside | hbehind
  · rw [Nat.min_eq_left (by omega : offset ≤ p.size), Nat.min_eq_left (Nat.le_of_lt hinside),
      List.take_drop]
  · have hstop : min (min offset p.size + limit) p.size = p.size := by omega
    have hstart : p.records.drop (min offset p.size) = p.records.drop offset := by
      rcases Nat.le_total offset p.size with hle | hle
      · rw [Nat.min_eq_left hle]
      · rw [Nat.min_eq_right hle, List.drop_of_length_le hle, size, List.drop_length]
    have hlimit : (p.records.drop offset).length ≤ limit := by
      rw [List.length_drop, ← size]
      omega
    rw [hstop, if_neg (by omega), if_neg (by omega), size, List.take_length, ← size, hstart,
      List.take_of_length_le hlimit]

theorem page_records : (p.page offset limit).records = (p.records.drop offset).take limit := by
  rw [page_eq]

/-- **Pages do not see where numbers end**: a sum that stops at the greatest word leads to the same
page. -/
theorem page_eq_saturated (hsize : p.size < UInt64.size) (offset limit : Nat) :
    p.page offset limit =
      p.between (min offset p.size)
        (min (min (min offset p.size + limit) (UInt64.size - 1)) p.size) := by
  have hstop (sum : Nat) : min (min sum (UInt64.size - 1)) p.size = min sum p.size := by omega
  rw [page, hstop]

/-- A page has no cursor exactly if it is all that is left. -/
theorem page_next_eq_none_iff :
    (p.page offset limit).next = none ↔ (p.records.drop offset).length ≤ limit := by
  rw [page_eq, List.length_drop]
  split
  next h =>
    rw [size] at h
    simp only [reduceCtorEq, false_iff]
    omega
  next h =>
    rw [size] at h
    simp only [true_iff]
    omega

end Partition

end ChatRelay

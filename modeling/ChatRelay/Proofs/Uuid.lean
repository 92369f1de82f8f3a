import ChatRelay.Proofs.Text.Hex
import ChatRelay.Thread

/-!
# Written identifiers

The digits of a UUID are read back from its groups, and so is the UUID (`Uuid.ofText?_text`). Hence
threads have topics of their own (`ThreadId.topic_injective`). The times that UUIDs hold are small
(`Uuid.unixMillis?_lt`).
-/

namespace ChatRelay

namespace Uuid

variable {cs rest : List Char} {count n : Nat}

/-- Written digits are read as they stand, whatever follows. -/
theorem readDigits_digits :
    readDigits count (Hex.digits count n ++ rest) = some (Hex.digits count n, rest) := by
  have htake : (Hex.digits count n ++ rest).take count = Hex.digits count n :=
    List.take_left' (Hex.length_digits count n)
  have hdrop : (Hex.digits count n ++ rest).drop count = rest :=
    List.drop_left' (Hex.length_digits count n)
  rw [readDigits, htake, hdrop, if_pos ⟨Hex.length_digits count n, Hex.all_isDigit_digits count n⟩]

/-- Groups of written digits are read as they stand. -/
theorem readGroups_intercalate (parts : List (Nat × Nat)) :
    readGroups (parts.map (·.1))
        (['-'].intercalate (parts.map fun (count, n) => Hex.digits count n)) =
      some (parts.flatMap fun (count, n) => Hex.digits count n) := by
  induction parts with
  | nil => rfl
  | cons part parts ih =>
    obtain ⟨count, n⟩ := part
    cases parts with
    | nil =>
      have hread : readDigits count (Hex.digits count n ++ []) = _ := readDigits_digits
      rw [List.append_nil] at hread
      simp [List.intercalate, readGroups, hread]
    | cons part parts =>
      have hsplit : ['-'].intercalate (((count, n) :: part :: parts).map
            fun (count, n) => Hex.digits count n) =
          Hex.digits count n ++
            '-' :: ['-'].intercalate ((part :: parts).map fun (count, n) => Hex.digits count n) :=
        rfl
      rw [hsplit, List.map_cons, List.map_cons, readGroups, readDigits_digits]
      · show (_ ++ ·) <$> readGroups ((part :: parts).map (·.1)) _ = _
        rw [ih]
        rfl
      · simp

/-- A written identifier begins with eight digits and a hyphen. -/
theorem exists_toChars (id : Uuid) :
    ∃ rest, id.toChars = Hex.digits 8 (id.field 0 8) ++ '-' :: rest := ⟨_, rfl⟩

/-- A written identifier is no sequence of thirty-two digits. -/
theorem readDigits_toChars (id : Uuid) : readDigits 32 id.toChars = none := by
  obtain ⟨rest, hchars⟩ := id.exists_toChars
  have hhyphen : '-' ∈ (id.toChars).take 32 := by
    rw [hchars, List.take_append, Hex.length_digits]
    exact List.mem_append_right _ List.mem_cons_self
  rw [readDigits, if_neg]
  rintro ⟨-, hall⟩
  exact absurd (List.all_eq_true.1 hall _ hhyphen) (by decide)

/-- There is nothing around a written identifier, which begins with a digit. -/
theorem unwrap_toChars (id : Uuid) : unwrap id.toChars = id.toChars := by
  obtain ⟨rest, hchars⟩ := id.exists_toChars
  obtain ⟨v, hv, digits, hdigits⟩ := Hex.exists_digits_succ 7 (id.field 0 8)
  have hfirst : ∀ v < 16, Hex.digit v ≠ '{' ∧ (Hex.digit v).toLower ≠ 'u' := by decide
  rw [hchars, hdigits, List.cons_append, unwrap, if_neg, if_neg]
  · intro h
    exact (hfirst v hv).2 (List.cons.inj h).1
  · rintro ⟨h, -⟩
    exact (hfirst v hv).1 (Option.some.inj h)

/-- The digits of an identifier, without the hyphens, write its number. -/
theorem value_fields (id : Uuid) :
    Hex.value 0 ((groups.map fun (start, count) => (count, id.field start count)).flatMap
      fun (count, n) => Hex.digits count n) = some id.bits.toNat := by
  have hbound := id.bits.isLt
  simp only [groups, List.map_cons, List.map_nil, List.flatMap_cons, List.flatMap_nil,
    Hex.value_append, Hex.value_digits, Option.bind_some, Hex.value, field,
    Nat.shiftRight_eq_div_pow, Nat.one_shiftLeft, Option.some.injEq]
  omega

/-- **A written identifier is read back.** -/
theorem ofText?_text (id : Uuid) : ofText? id.text = some id := by
  have hgroups := readGroups_intercalate
    (groups.map fun (start, count) => (count, id.field start count))
  have hchars : ofText? id.text = ofChars? id.toChars := by
    rw [ofText?, text, String.toList_ofList]
  have hread : readGroups (groups.map (·.2)) (unwrap id.toChars) =
      some ((groups.map fun (start, count) => (count, id.field start count)).flatMap
        fun (count, n) => Hex.digits count n) := by
    rw [unwrap_toChars]
    exact hgroups
  rw [hchars, ofChars?, readDigits_toChars, hread]
  show ofNat <$> Hex.value 0 _ = some id
  rw [value_fields]
  show some (ofNat id.bits.toNat) = some id
  rw [ofNat, BitVec.ofNat_toNat, BitVec.setWidth_eq]

theorem text_injective : Function.Injective text := fun a b h =>
  Option.some.inj <| by rw [← ofText?_text a, h, ofText?_text]

/-! ## Timestamps -/

theorem field_lt (id : Uuid) (start count : Nat) : id.field start count < 2 ^ (4 * count) := by
  rw [field, Nat.one_shiftLeft]
  exact Nat.mod_lt _ (Nat.two_pow_pos _)

/-- Gregorian ticks are written with sixty bits. -/
theorem gregorianTicks?_lt {id : Uuid} {ticks : Nat} (h : id.gregorianTicks? = some ticks) :
    ticks < 2 ^ 60 := by
  have hlow := id.field_lt 0 8
  have hmiddle := id.field_lt 8 4
  have hhigh := id.field_lt 13 3
  rw [gregorianTicks?] at h
  split at h
  · obtain rfl := Option.some.inj h
    rw [Nat.shiftLeft_eq, Nat.shiftLeft_eq]
    omega
  · split at h
    · obtain rfl := Option.some.inj h
      rw [Nat.shiftLeft_eq, Nat.shiftLeft_eq]
      omega
    · exact nomatch h

/-- The Unix time in milliseconds that a time-based identifier holds. Ticks before 1970 count as
missing. -/
def unixMillis? (id : Uuid) : Option Nat :=
  if id.version = 7 then some (id.field 0 12)
  else do
    let ticks ← id.gregorianTicks?
    if ticks < gregorianOffset then none else some ((ticks - gregorianOffset) / 10000)

/-- **The times that identifiers hold** are written with forty-eight bits. -/
theorem unixMillis?_lt {id : Uuid} {millis : Nat} (h : id.unixMillis? = some millis) :
    millis < 2 ^ 48 := by
  rw [unixMillis?] at h
  split at h
  · obtain rfl := Option.some.inj h
    exact id.field_lt 0 12
  · obtain ⟨ticks, hticks, h⟩ := Option.bind_eq_some_iff.1 h
    have hlt := gregorianTicks?_lt hticks
    split at h
    · exact nomatch h
    · obtain rfl := Option.some.inj h
      rw [gregorianOffset]
      omega

end Uuid

/-- **Threads have topics of their own.** -/
theorem ThreadId.topic_injective : Function.Injective ThreadId.topic := fun a b h =>
  Uuid.text_injective <| String.toList_injective <| by
    have h := congrArg String.toList h
    rwa [topic, topic, String.toList_append, String.toList_append, List.append_cancel_left_eq] at h

end ChatRelay

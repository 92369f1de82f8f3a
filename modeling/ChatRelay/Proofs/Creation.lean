import ChatRelay.Proofs.Uuid

/-!
# When threads were created

The octets of an identifier write what its digits do (`Uuid.toNat_word`), so that the ticks that the
lookup puts together are those that a decoder reads (`Uuid.rawTicks?_eq`). Hence its test that they
are not before 1970 keeps the difference in the decoder in range, and the lookup finds the
milliseconds that the identifier holds (`ThreadLookup.embedded_eq`), whichever decoder it uses and
however the ticks are laid out (`ThreadLookup.creation_of_decoder`).
-/

namespace ChatRelay

namespace Uuid

variable {id : Uuid} {ticks millis : Nat}

/-! ## Octets -/

theorem toNat_octet {i : Nat} (h : i < id.octets.length) :
    id.octets[i].toNat = id.bits.toNat >>> (8 * (15 - i)) % 2 ^ 8 := by
  simp only [octets, List.getElem_map, List.getElem_range, UInt8.toNat_ofBitVec,
    BitVec.extractLsb'_toNat]

/-- Two more digits are one more octet. -/
theorem field_add_two (id : Uuid) {start count : Nat} (h : start + count < 16) :
    id.field (2 * start) (2 * (count + 1)) =
      id.field (2 * start) (2 * count) * 2 ^ 8 +
        id.bits.toNat >>> (8 * (15 - (start + count))) % 2 ^ 8 := by
  have hshift : 4 * (32 - 2 * start - 2 * count) = 8 * (15 - (start + count)) + 8 := by omega
  have hshift' : 4 * (32 - 2 * start - 2 * (count + 1)) = 8 * (15 - (start + count)) := by omega
  have hwidth : 4 * (2 * (count + 1)) = 8 + 4 * (2 * count) := by omega
  rw [field, field, hshift, hshift', hwidth, Nat.one_shiftLeft, Nat.one_shiftLeft, Nat.pow_add,
    Nat.mod_mul, Nat.shiftRight_add, Nat.shiftRight_eq_div_pow _ 8]
  omega

/-- **Octets are read as digits are**, two of them for each octet. -/
theorem toNat_word (id : Uuid) (start count : Nat) (hcount : count ≤ 8)
    (hstop : start + count ≤ 16) :
    (id.word start (start + count)).toNat = id.field (2 * start) (2 * count) := by
  have hlength : id.octets.length = 16 := by simp [octets]
  induction count with
  | zero =>
    have hnone : (id.octets.take start).drop start = [] := by simp
    rw [Nat.add_zero, word, hnone, field]
    simp [Nat.mod_one]
  | succ count ih =>
    have hinside : start + count < id.octets.length := by omega
    have hoctets : (id.octets.take (start + (count + 1))).drop start =
        (id.octets.take (start + count)).drop start ++ [id.octets[start + count]] := by
      rw [← Nat.add_assoc, List.take_add_one, List.getElem?_eq_getElem hinside,
        List.drop_append_of_le_length (by simp; omega)]
      rfl
    have hearlier := ih (by omega) (by omega)
    have hfits := id.field_lt (2 * start) (2 * count)
    have hpow : 2 ^ (4 * (2 * count)) * 2 ^ 8 ≤ 2 ^ 64 := by
      rw [← Nat.pow_add]
      exact Nat.pow_le_pow_right (by decide) (by omega)
    have hoctet := toNat_octet hinside
    rw [word] at hearlier
    rw [word, hoctets, List.foldl_append, List.foldl_cons, List.foldl_nil, UInt64.toNat_or,
      UInt64.toNat_shiftLeft, hearlier, UInt8.toNat_toUInt64, hoctet, id.field_add_two (by omega)]
    have hplace : (8 : UInt64).toNat % 64 = 8 := rfl
    rw [hplace, Nat.mod_eq_of_lt (by rw [Nat.shiftLeft_eq]; omega),
      ← Nat.shiftLeft_add_eq_or_of_lt (Nat.mod_lt _ (Nat.two_pow_pos _)), Nat.shiftLeft_eq]

/-! ## Ticks -/

/-- A number that is moved to its place in front of another does not meet it. -/
theorem toNat_shiftLeft_or {a b place : UInt64} (hplace : place.toNat < 64)
    (ha : a.toNat * 2 ^ place.toNat < 2 ^ 64) (hb : b.toNat < 2 ^ place.toNat) :
    (a <<< place ||| b).toNat = a.toNat * 2 ^ place.toNat + b.toNat := by
  rw [UInt64.toNat_or, UInt64.toNat_shiftLeft, Nat.mod_eq_of_lt hplace, Nat.shiftLeft_eq,
    Nat.mod_eq_of_lt ha, ← Nat.shiftLeft_eq, Nat.shiftLeft_add_eq_or_of_lt hb]

/-- The digits of three that follow the version. -/
theorem toNat_versionWord (id : Uuid) : (id.word 6 8 &&& 0x0fff).toNat = id.field 13 3 := by
  have hword : (id.word 6 8).toNat = id.field 12 4 :=
    id.toNat_word 6 2 (by decide) (by decide)
  have hmask : (0x0fff : UInt64).toNat = 2 ^ 12 - 1 := rfl
  rw [UInt64.toNat_and, hword, hmask, Nat.and_two_pow_sub_one_eq_mod, field, field,
    Nat.one_shiftLeft, Nat.one_shiftLeft, Nat.mod_mod_of_dvd _ (Nat.pow_dvd_pow 2 (by decide))]

/-- **The ticks that are put together from octets** are those that the digits hold. -/
theorem rawTicks?_eq (id : Uuid) : id.rawTicks?.map UInt64.toNat = id.gregorianTicks? := by
  have hlow : (id.word 0 4).toNat = id.field 0 8 :=
    id.toNat_word 0 4 (by decide) (by decide)
  have hmiddle : (id.word 4 6).toNat = id.field 8 4 :=
    id.toNat_word 4 2 (by decide) (by decide)
  have hhigh := id.toNat_versionWord
  have hlowest := id.field_lt 0 8
  have hmiddlest := id.field_lt 8 4
  have hhighest := id.field_lt 13 3
  rw [rawTicks?, gregorianTicks?]
  split
  next hversion =>
    have hlower : (id.word 4 6 <<< 32 ||| id.word 0 4).toNat =
        id.field 8 4 * 2 ^ 32 + id.field 0 8 := by
      rw [toNat_shiftLeft_or] <;> simp only [hmiddle, hlow, UInt64.reduceToNat] <;> omega
    rw [if_pos hversion, Option.map_some, UInt64.or_assoc, toNat_shiftLeft_or] <;>
      simp only [hlower, hhigh, UInt64.reduceToNat, Nat.shiftLeft_eq, Nat.add_assoc] <;> omega
  next hversion =>
    have hlower : (id.word 4 6 <<< 12 ||| (id.word 6 8 &&& 0x0fff)).toNat =
        id.field 8 4 * 2 ^ 12 + id.field 13 3 := by
      rw [toNat_shiftLeft_or] <;> simp only [hmiddle, hhigh, UInt64.reduceToNat] <;> omega
    rw [if_neg (by omega), if_pos hversion, Option.map_some, UInt64.or_assoc,
      toNat_shiftLeft_or] <;>
      simp only [hlower, hlow, UInt64.reduceToNat, Nat.shiftLeft_eq, Nat.add_assoc] <;> omega
  next hversion hversion' =>
    rw [if_neg hversion, if_neg hversion', Option.map_none]

/-- What the lookup tests before it decodes an identifier. -/
theorem any_rawTicks?_iff :
    id.rawTicks?.any (· < gregorianOffset.toUInt64) = true ↔
      ∃ ticks, id.gregorianTicks? = some ticks ∧ ticks < gregorianOffset := by
  have hoffset : gregorianOffset.toUInt64.toNat = gregorianOffset := rfl
  rw [← id.rawTicks?_eq]
  cases id.rawTicks? with
  | none => simp
  | some ticks => simp [UInt64.lt_iff_toNat_lt, hoffset]

end Uuid

/-! ## Instants -/

namespace UnixTime

variable {time : UnixTime} {ticks millis : Nat}

/-- The milliseconds of an instant, if their number has 64 bits. -/
theorem toNat_millis (h : time.seconds.toNat * 1000 + time.nanos.toNat / 1000000 < 2 ^ 64) :
    (time.seconds * 1000 + time.nanos.toUInt64 / 1000000).toNat =
      time.seconds.toNat * 1000 + time.nanos.toNat / 1000000 := by
  rw [UInt64.toNat_add, UInt64.toNat_mul, UInt64.toNat_div, UInt32.toNat_toUInt64]
  simp only [UInt64.reduceToNat]
  omega

/-- Milliseconds are split into seconds and nanoseconds without loss. -/
theorem millis_ofMillis (h : millis < 2 ^ 48) :
    (ofMillis millis).seconds.toNat * 1000 + (ofMillis millis).nanos.toNat / 1000000 = millis := by
  have hseconds : millis / 1000 < 2 ^ 64 := by omega
  have hnanos : millis % 1000 * 1000000 < 2 ^ 32 := by omega
  rw [ofMillis, Nat.toUInt64_eq, Nat.toUInt32_eq, UInt64.toNat_ofNat_of_lt' hseconds,
    UInt32.toNat_ofNat_of_lt' hnanos]
  omega

/-- Ticks are split into seconds and nanoseconds that make up the same milliseconds. -/
theorem millis_ofTicks (h : ticks < 2 ^ 60) :
    (ofTicks ticks).seconds.toNat * 1000 + (ofTicks ticks).nanos.toNat / 1000000 =
      ticks / 10000 := by
  have hseconds : ticks / 10000000 < 2 ^ 64 := by omega
  have hnanos : ticks % 10000000 * 100 < 2 ^ 32 := by omega
  rw [ofTicks, Nat.toUInt64_eq, Nat.toUInt32_eq, UInt64.toNat_ofNat_of_lt' hseconds,
    UInt32.toNat_ofNat_of_lt' hnanos]
  omega

end UnixTime

namespace Uuid

variable {id : Uuid} {ticks millis : Nat}

/-- Identifiers of versions 1 and 6 hold ticks, no others. -/
theorem gregorianTicks?_eq_none_iff :
    id.gregorianTicks? = none ↔ id.version ≠ 1 ∧ id.version ≠ 6 := by
  rw [gregorianTicks?]
  split
  · simp [*]
  · split <;> simp [*]

theorem version_ne_of_gregorianTicks? (h : id.gregorianTicks? = some ticks) : id.version ≠ 7 := by
  intro hversion
  have hnone : id.gregorianTicks? = none := gregorianTicks?_eq_none_iff.2 (by omega)
  exact nomatch hnone.symm.trans h

/-- An identifier holds ticks before 1970, or no time at all, or an instant. -/
theorem unixTime?_cases (id : Uuid) :
    (∃ ticks, id.gregorianTicks? = some ticks ∧ ticks < gregorianOffset) ∧ id.unixMillis? = none ∨
    (¬∃ ticks, id.gregorianTicks? = some ticks ∧ ticks < gregorianOffset) ∧
      (id.unixTime? = none ∧ id.unixMillis? = none ∨
        ∃ time millis, id.unixTime? = some time ∧ id.unixMillis? = some millis ∧
          time.seconds.toNat * 1000 + time.nanos.toNat / 1000000 = millis) := by
  rw [unixTime?, unixMillis?]
  cases hticks : id.gregorianTicks? with
  | none =>
    refine .inr ⟨by simp, ?_⟩
    split
    · exact .inr ⟨_, _, rfl, rfl, UnixTime.millis_ofMillis (id.field_lt 0 12)⟩
    · exact .inl ⟨rfl, rfl⟩
  | some ticks =>
    have hversion := version_ne_of_gregorianTicks? hticks
    have hlt := gregorianTicks?_lt hticks
    rw [if_neg hversion, if_neg hversion, Option.map_some, Option.bind_eq_bind, Option.bind_some]
    by_cases hearly : ticks < gregorianOffset
    · exact .inl ⟨⟨ticks, rfl, hearly⟩, if_pos hearly⟩
    · rw [if_neg hearly]
      refine .inr ⟨?_, .inr ⟨_, _, rfl, rfl, UnixTime.millis_ofTicks (by omega)⟩⟩
      rintro ⟨ticks, h, hlt⟩
      obtain rfl := Option.some.inj h
      exact hearly hlt

end Uuid

/-! ## The lookup -/

namespace ThreadLookup

/-- **The lookup finds the time that an identifier holds.** -/
theorem embedded_eq (id : ThreadId) :
    embedded id = match id.unixMillis? with
      | some millis => .ok millis.toUInt64
      | none => .error (.noEmbeddedTimestamp id) := by
  rw [embedded]
  rcases id.unixTime?_cases with ⟨hearly, hnone⟩ | ⟨hlate, ⟨htime, hnone⟩ | hsome⟩
  · rw [if_pos (Uuid.any_rawTicks?_iff.2 hearly), hnone]
  · rw [if_neg (mt Uuid.any_rawTicks?_iff.1 hlate), htime, hnone]
  · obtain ⟨time, millis, htime, hmillis, hsum⟩ := hsome
    have hlt := Uuid.unixMillis?_lt hmillis
    rw [if_neg (mt Uuid.any_rawTicks?_iff.1 hlate), htime, hmillis]
    refine congrArg Except.ok (UInt64.toNat_inj.1 ?_)
    rw [UnixTime.toNat_millis (by omega), hsum, Nat.toUInt64_eq,
      UInt64.toNat_ofNat_of_lt' (Nat.lt_trans hlt (by decide))]

variable {id : ThreadId} {created : Millis}

theorem embedded_eq_ok_iff : embedded id = .ok created ↔ id.unixMillis? = some created.toNat := by
  rw [embedded_eq]
  cases hmillis : id.unixMillis? with
  | none => simp
  | some millis =>
    have hlt := Uuid.unixMillis?_lt hmillis
    rw [Except.ok.injEq, Option.some.injEq, ← UInt64.toNat_inj, Nat.toUInt64_eq,
      UInt64.toNat_ofNat_of_lt' (Nat.lt_trans hlt (by decide))]

theorem embedded_eq_error_iff :
    embedded id = .error (.noEmbeddedTimestamp id) ↔ id.unixMillis? = none := by
  rw [embedded_eq]
  cases id.unixMillis? <;> simp

/-- The time of creation that an identifier holds is there to be found. -/
theorem exists_embedded {millis : Nat} (h : id.unixMillis? = some millis) :
    ∃ created, embedded id = .ok created ∧ created.toNat = millis := by
  have hlt := Uuid.unixMillis?_lt h
  have htoNat : millis.toUInt64.toNat = millis :=
    UInt64.toNat_ofNat_of_lt' (Nat.lt_trans hlt (by decide))
  exact ⟨millis.toUInt64, embedded_eq_ok_iff.2 (by rw [h, htoNat]), htoNat⟩

/-- The time of creation that an identifier holds has forty-eight bits. -/
theorem embedded_lt_two_pow (h : embedded id = .ok created) : created.toNat < 2 ^ 48 :=
  Uuid.unixMillis?_lt (embedded_eq_ok_iff.1 h)

/-- The time of creation that an identifier holds is far below what signed numbers can hold. -/
theorem embedded_lt (h : embedded id = .ok created) : created.toNat < 2 ^ 63 :=
  Nat.lt_trans (embedded_lt_two_pow h) (by decide)

end ThreadLookup

/-! ## Layouts -/

namespace Uuid

variable {id : Uuid} {ticks : BitVec 60}

/-- The identifier of version 1 with these ticks: their low, their middle and their high part, in
this order. The rest are the bits after them. -/
def lowFirst (ticks : BitVec 60) (rest : BitVec 64) : Uuid :=
  ⟨ticks.extractLsb' 0 32 ++ ticks.extractLsb' 32 16 ++ 1#4 ++ ticks.extractLsb' 48 12 ++ rest⟩

/-- The identifier of version 6 with these ticks, the high part first. -/
def highFirst (ticks : BitVec 60) (rest : BitVec 64) : Uuid :=
  ⟨ticks.extractLsb' 12 48 ++ 6#4 ++ ticks.extractLsb' 0 12 ++ rest⟩

/-- Joined bits write a sum. -/
theorem toNat_append_eq_add {m n : Nat} (x : BitVec m) (y : BitVec n) :
    (x ++ y).toNat = x.toNat * 2 ^ n + y.toNat := by
  rw [BitVec.toNat_append, ← Nat.shiftLeft_add_eq_or_of_lt y.isLt, Nat.shiftLeft_eq]

/-- The fields of an identifier stand one after the other, the first eight digits in front. -/
theorem bits_eq_fields (id : Uuid) :
    id.bits.toNat = (((id.field 0 8 * 2 ^ 16 + id.field 8 4) * 2 ^ 4 + id.version) * 2 ^ 12 +
      id.field 13 3) * 2 ^ 64 + id.bits.toNat % 2 ^ 64 := by
  have hlt := id.bits.isLt
  simp only [version, field, Nat.shiftRight_eq_div_pow, Nat.one_shiftLeft, Nat.reduceSub,
    Nat.reduceMul]
  omega

/-- Numbers that fit and stand so are the fields. -/
theorem fields_of_bits {first second digit third rest : Nat}
    (hbits : id.bits.toNat =
      (((first * 2 ^ 16 + second) * 2 ^ 4 + digit) * 2 ^ 12 + third) * 2 ^ 64 + rest)
    (hsecond : second < 2 ^ 16) (hdigit : digit < 2 ^ 4) (hthird : third < 2 ^ 12)
    (hrest : rest < 2 ^ 64) :
    id.field 0 8 = first ∧ id.field 8 4 = second ∧ id.version = digit ∧ id.field 13 3 = third := by
  have hlt := id.bits.isLt
  simp only [version, field, Nat.shiftRight_eq_div_pow, Nat.one_shiftLeft, Nat.reduceSub,
    Nat.reduceMul]
  refine ⟨?_, ?_, ?_, ?_⟩ <;> omega

/-- Identifiers of one number are the same. -/
theorem eq_of_toNat_eq {a b : Uuid} (h : a.bits.toNat = b.bits.toNat) : a = b :=
  congrArg Uuid.mk (BitVec.eq_of_toNat_eq h)

theorem toNat_lowFirst (ticks : BitVec 60) (rest : BitVec 64) :
    (lowFirst ticks rest).bits.toNat =
      (((ticks.toNat % 2 ^ 32 * 2 ^ 16 + ticks.toNat / 2 ^ 32 % 2 ^ 16) * 2 ^ 4 + 1) * 2 ^ 12 +
        ticks.toNat / 2 ^ 48 % 2 ^ 12) * 2 ^ 64 + rest.toNat := by
  simp only [lowFirst, toNat_append_eq_add, BitVec.extractLsb'_toNat, Nat.shiftRight_eq_div_pow,
    BitVec.toNat_ofNat, Nat.pow_zero, Nat.div_one, Nat.reducePow, Nat.reduceMod]

theorem toNat_highFirst (ticks : BitVec 60) (rest : BitVec 64) :
    (highFirst ticks rest).bits.toNat =
      ((ticks.toNat / 2 ^ 12 % 2 ^ 48 * 2 ^ 4 + 6) * 2 ^ 12 + ticks.toNat % 2 ^ 12) * 2 ^ 64 +
        rest.toNat := by
  simp only [highFirst, toNat_append_eq_add, BitVec.extractLsb'_toNat, Nat.shiftRight_eq_div_pow,
    BitVec.toNat_ofNat, Nat.pow_zero, Nat.div_one, Nat.reducePow, Nat.reduceMod]

theorem fields_lowFirst (ticks : BitVec 60) (rest : BitVec 64) :
    (lowFirst ticks rest).version = 1 ∧
      (lowFirst ticks rest).gregorianTicks? = some ticks.toNat := by
  have hlt := ticks.isLt
  obtain ⟨hlow, hmiddle, hversion, hhigh⟩ := fields_of_bits (toNat_lowFirst ticks rest)
    (Nat.mod_lt _ (by decide)) (by decide) (Nat.mod_lt _ (by decide)) rest.isLt
  refine ⟨hversion, ?_⟩
  rw [gregorianTicks?, if_pos hversion, hlow, hmiddle, hhigh]
  simp only [Nat.shiftLeft_eq, Option.some.injEq]
  omega

theorem fields_highFirst (ticks : BitVec 60) (rest : BitVec 64) :
    (highFirst ticks rest).version = 6 ∧
      (highFirst ticks rest).gregorianTicks? = some ticks.toNat := by
  have hlt := ticks.isLt
  -- the high part is written by the first twelve digits
  have hbits : (highFirst ticks rest).bits.toNat =
      (((ticks.toNat / 2 ^ 28 * 2 ^ 16 + ticks.toNat / 2 ^ 12 % 2 ^ 16) * 2 ^ 4 + 6) * 2 ^ 12 +
        ticks.toNat % 2 ^ 12) * 2 ^ 64 + rest.toNat := by
    rw [toNat_highFirst]
    omega
  obtain ⟨hhigh, hmiddle, hversion, hlow⟩ := fields_of_bits hbits
    (Nat.mod_lt _ (by decide)) (by decide) (Nat.mod_lt _ (by decide)) rest.isLt
  refine ⟨hversion, ?_⟩
  rw [gregorianTicks?, if_neg (by omega), if_pos hversion, hlow, hmiddle, hhigh]
  simp only [Nat.shiftLeft_eq, Option.some.injEq]
  omega

/-- Every identifier of version 1 is laid out so. -/
theorem exists_lowFirst (h : id.version = 1) : ∃ ticks rest, id = lowFirst ticks rest := by
  have hlow := id.field_lt 0 8
  have hmiddle := id.field_lt 8 4
  have hhigh := id.field_lt 13 3
  let n := id.field 13 3 * 2 ^ 48 + id.field 8 4 * 2 ^ 32 + id.field 0 8
  have hn : n < 2 ^ 60 := by omega
  have hnlow : n % 2 ^ 32 = id.field 0 8 := by omega
  have hnmiddle : n / 2 ^ 32 % 2 ^ 16 = id.field 8 4 := by omega
  have hnhigh : n / 2 ^ 48 % 2 ^ 12 = id.field 13 3 := by omega
  refine ⟨BitVec.ofNat 60 n, BitVec.ofNat 64 id.bits.toNat, eq_of_toNat_eq ?_⟩
  rw [toNat_lowFirst, BitVec.toNat_ofNat, BitVec.toNat_ofNat, Nat.mod_eq_of_lt hn, hnlow, hnmiddle,
    hnhigh, ← h]
  exact id.bits_eq_fields

/-- Every identifier of version 6 is laid out so. -/
theorem exists_highFirst (h : id.version = 6) : ∃ ticks rest, id = highFirst ticks rest := by
  have hhigh := id.field_lt 0 8
  have hmiddle := id.field_lt 8 4
  have hlow := id.field_lt 13 3
  let n := id.field 0 8 * 2 ^ 28 + id.field 8 4 * 2 ^ 12 + id.field 13 3
  have hn : n < 2 ^ 60 := by omega
  have hnlow : n % 2 ^ 12 = id.field 13 3 := by omega
  have hnhigh : n / 2 ^ 12 % 2 ^ 48 = id.field 0 8 * 2 ^ 16 + id.field 8 4 := by omega
  refine ⟨BitVec.ofNat 60 n, BitVec.ofNat 64 id.bits.toNat, eq_of_toNat_eq ?_⟩
  rw [toNat_highFirst, BitVec.toNat_ofNat, BitVec.toNat_ofNat, Nat.mod_eq_of_lt hn, hnlow, hnhigh,
    ← h]
  exact id.bits_eq_fields

/-- In versions 6 and 7 the time comes first, so that it is ordered as the identifiers are. -/
theorem unixMillis?_mono {a b : Uuid} {millis millis' : Nat} (hle : a.bits ≤ b.bits)
    (hversion : a.version = b.version) (hsorted : a.version = 6 ∨ a.version = 7)
    (ha : a.unixMillis? = some millis) (hb : b.unixMillis? = some millis') : millis ≤ millis' := by
  rw [BitVec.le_def] at hle
  rcases hsorted with hsix | hseven
  · obtain ⟨ticks, rest, rfl⟩ := exists_highFirst hsix
    obtain ⟨ticks', rest', rfl⟩ := exists_highFirst (hversion.symm.trans hsix)
    have hticks := ticks.isLt
    have hticks' := ticks'.isLt
    have hrest := rest.isLt
    have hrest' := rest'.isLt
    rw [toNat_highFirst, toNat_highFirst] at hle
    have hordered : ticks.toNat ≤ ticks'.toNat := by omega
    rw [unixMillis?, if_neg (by omega), (fields_highFirst ticks rest).2] at ha
    rw [unixMillis?, if_neg (by omega), (fields_highFirst ticks' rest').2] at hb
    simp only [Option.bind_eq_bind, Option.bind_some] at ha hb
    split at ha
    · cases ha
    · split at hb
      · cases hb
      · obtain rfl := Option.some.inj ha
        obtain rfl := Option.some.inj hb
        omega
  · rw [unixMillis?, if_pos hseven, field] at ha
    rw [unixMillis?, if_pos (hversion.symm.trans hseven), field] at hb
    obtain rfl := Option.some.inj ha
    obtain rfl := Option.some.inj hb
    have ha := a.bits.isLt
    have hb := b.bits.isLt
    simp only [Nat.shiftRight_eq_div_pow, Nat.one_shiftLeft, Nat.reduceSub, Nat.reduceMul]
    omega

end Uuid

/-! ## Numbers that stay in their range -/

/-- **What is relied on in a decoder of times**: by the layouts of the versions, it finds ticks and
splits them, or milliseconds, into seconds and nanoseconds. It says nothing, `none`, where a number
leaves its range, and nothing is known of it for ticks before 1970. -/
structure DecodesTimes (decode? : Uuid → Option (Option UnixTime)) : Prop where
  ofTicks {id : Uuid} {ticks : Nat} : id.gregorianTicks? = some ticks →
    Uuid.gregorianOffset ≤ ticks →
    decode? id = some (some (.ofTicks (ticks - Uuid.gregorianOffset)))
  ofMillis {id : Uuid} : id.version = 7 → decode? id = some (some (.ofMillis (id.field 0 12)))
  timeless {id : Uuid} : id.version ∉ [1, 6, 7] → decode? id = some none

/-- A decoder says what the identifier holds, as far as it is relied on. -/
theorem DecodesTimes.eq_unixTime? {decode? : Uuid → Option (Option UnixTime)}
    (hdecode : DecodesTimes decode?) {id : Uuid}
    (hlate : ¬∃ ticks, id.gregorianTicks? = some ticks ∧ ticks < Uuid.gregorianOffset) :
    decode? id = some id.unixTime? := by
  rw [Uuid.unixTime?]
  cases hticks : id.gregorianTicks? with
  | none =>
    have hversion := Uuid.gregorianTicks?_eq_none_iff.1 hticks
    split
    next hseven => exact hdecode.ofMillis hseven
    next hother => exact hdecode.timeless (by simp [hversion, hother])
  | some ticks =>
    rw [if_neg (Uuid.version_ne_of_gregorianTicks? hticks)]
    exact hdecode.ofTicks hticks (Nat.le_of_not_lt fun hlt => hlate ⟨ticks, hticks, hlt⟩)

namespace Checked

/-- A natural number as an unsigned one, if it has 64 bits. -/
def unsigned? (n : Nat) : Option UInt64 := if n < 2 ^ 64 then some (UInt64.ofNat n) else none

theorem unsigned?_of_toNat {n : Nat} (u : UInt64) (h : u.toNat = n) : unsigned? n = some u := by
  obtain rfl := h
  rw [unsigned?, if_pos u.toNat_lt, UInt64.ofNat_toNat]

end Checked

/-- The milliseconds of an instant, if no number on the way to them leaves its range. -/
def UnixTime.millis? (time : UnixTime) : Option Millis := do
  let whole ← Checked.unsigned? (time.seconds.toNat * 1000)
  Checked.unsigned? (whole.toNat + time.nanos.toNat / 1000000)

theorem UnixTime.millis?_eq {time : UnixTime}
    (h : time.seconds.toNat * 1000 + time.nanos.toNat / 1000000 < 2 ^ 64) :
    time.millis? = some (time.seconds * 1000 + time.nanos.toUInt64 / 1000000) := by
  have hwhole : (time.seconds * 1000).toNat = time.seconds.toNat * 1000 := by
    rw [UInt64.toNat_mul]
    exact Nat.mod_eq_of_lt (Nat.lt_of_le_of_lt (Nat.le_add_right _ _) h)
  rw [millis?, Checked.unsigned?_of_toNat _ hwhole]
  refine Checked.unsigned?_of_toNat _ ?_
  rw [hwhole, toNat_millis h]

namespace ThreadLookup

variable {decode? : Uuid → Option (Option UnixTime)}

/-- The lookup that uses a decoder, if no number leaves its range on the way, neither in the decoder
nor afterwards. -/
def lookUp? (decode? : Uuid → Option (Option UnixTime)) (id : ThreadId) :
    Option (Except StoreError Millis) :=
  if id.rawTicks?.any (· < Uuid.gregorianOffset.toUInt64) then
    some (.error (.noEmbeddedTimestamp id))
  else do
    match ← decode? id with
    | none => some (.error (.noEmbeddedTimestamp id))
    | some time => time.millis?.map .ok

/-- With any such decoder, no number ever leaves its range. -/
theorem lookUp?_eq_embedded (hdecode : DecodesTimes decode?) (id : ThreadId) :
    lookUp? decode? id = some (embedded id) := by
  rw [lookUp?, embedded]
  rcases id.unixTime?_cases with ⟨hearly, -⟩ | ⟨hlate, htime⟩
  · rw [if_pos (Uuid.any_rawTicks?_iff.2 hearly), if_pos (Uuid.any_rawTicks?_iff.2 hearly)]
  · rw [if_neg (mt Uuid.any_rawTicks?_iff.1 hlate), if_neg (mt Uuid.any_rawTicks?_iff.1 hlate),
      hdecode.eq_unixTime? hlate]
    rcases htime with ⟨hnone, -⟩ | ⟨time, millis, hsome, hmillis, hsum⟩
    · rw [hnone]
      rfl
    · have hlt := Uuid.unixMillis?_lt hmillis
      rw [hsome]
      show time.millis?.map _ = _
      rw [UnixTime.millis?_eq (by omega)]
      rfl

/-- The time that ticks stand for, in either layout. -/
theorem embedded_of_gregorianTicks? {id : ThreadId} {ticks : Nat}
    (h : id.gregorianTicks? = some ticks) :
    (embedded id = .error (.noEmbeddedTimestamp id) ↔ ticks < Uuid.gregorianOffset) ∧
      (Uuid.gregorianOffset ≤ ticks → ∃ created, embedded id = .ok created ∧
        created.toNat = (ticks - Uuid.gregorianOffset) / 10000) := by
  have hmillis : id.unixMillis? = if ticks < Uuid.gregorianOffset then none
      else some ((ticks - Uuid.gregorianOffset) / 10000) := by
    rw [Uuid.unixMillis?, if_neg (Uuid.version_ne_of_gregorianTicks? h), h]
    rfl
  refine ⟨?_, fun hle => exists_embedded (hmillis.trans (if_neg (Nat.not_lt.2 hle)))⟩
  rw [embedded_eq_error_iff, hmillis]
  split <;> simp [*]

/-- The layout of ticks makes no difference. -/
theorem toOption_embedded_eq_of_gregorianTicks?_eq {a b : ThreadId} {ticks : Nat}
    (ha : a.gregorianTicks? = some ticks) (hb : b.gregorianTicks? = some ticks) :
    (embedded a).toOption = (embedded b).toOption := by
  have hmillis : a.unixMillis? = b.unixMillis? := by
    rw [Uuid.unixMillis?, Uuid.unixMillis?, if_neg (Uuid.version_ne_of_gregorianTicks? ha),
      if_neg (Uuid.version_ne_of_gregorianTicks? hb), ha, hb]
  rw [embedded_eq, embedded_eq, hmillis]
  cases b.unixMillis? <;> rfl

/-- **When threads were created.** Whatever decoder the lookup uses, no number leaves its range, and
the outcome is the same. For an identifier of version 1 or 6, all of which are laid out as said, it
is an error exactly if the ticks are before 1970, and otherwise the milliseconds since then; the
layout and the other bits make no difference. For version 7 it is the value of the first forty-eight
bits, for any other version an error. So times of creation have forty-eight bits, and for versions 6
and 7 they are ordered as the identifiers are. -/
theorem creation_of_decoder (hdecode : DecodesTimes decode?) :
    (∀ id, lookUp? decode? id = some (embedded id)) ∧
    (∀ id : Uuid, id.version = 1 → ∃ ticks rest, id = .lowFirst ticks rest) ∧
    (∀ id : Uuid, id.version = 6 → ∃ ticks rest, id = .highFirst ticks rest) ∧
    (∀ (ticks : BitVec 60) rest, ∀ id ∈ [Uuid.lowFirst ticks rest, Uuid.highFirst ticks rest],
      (embedded id = .error (.noEmbeddedTimestamp id) ↔ ticks.toNat < Uuid.gregorianOffset) ∧
      (Uuid.gregorianOffset ≤ ticks.toNat → ∃ created, embedded id = .ok created ∧
        created.toNat = (ticks.toNat - Uuid.gregorianOffset) / 10000)) ∧
    (∀ (ticks : BitVec 60) rest rest', (embedded (.lowFirst ticks rest)).toOption =
      (embedded (.highFirst ticks rest')).toOption) ∧
    (∀ id, id.version = 7 → ∃ created, embedded id = .ok created ∧
      created.toNat = (id.bits.extractLsb' 80 48).toNat) ∧
    (∀ id, id.version ∉ [1, 6, 7] → embedded id = .error (.noEmbeddedTimestamp id)) ∧
    (∀ id created, embedded id = .ok created → created.toNat < 2 ^ 48) ∧
    ∀ a b created created', a.bits ≤ b.bits → a.version = b.version →
      a.version = 6 ∨ a.version = 7 → embedded a = .ok created → embedded b = .ok created' →
      created ≤ created' := by
  refine ⟨lookUp?_eq_embedded hdecode, fun _ => Uuid.exists_lowFirst,
    fun _ => Uuid.exists_highFirst, ?_, ?_, ?_, ?_, fun _ _ => embedded_lt_two_pow, ?_⟩
  · intro ticks rest id hid
    refine embedded_of_gregorianTicks? ?_
    rw [List.mem_cons, List.mem_singleton] at hid
    rcases hid with rfl | rfl
    · exact (Uuid.fields_lowFirst ticks rest).2
    · exact (Uuid.fields_highFirst ticks rest).2
  · intro ticks rest rest'
    exact toOption_embedded_eq_of_gregorianTicks?_eq (Uuid.fields_lowFirst ticks rest).2
      (Uuid.fields_highFirst ticks rest').2
  · intro id hversion
    refine exists_embedded ?_
    rw [Uuid.unixMillis?, if_pos hversion, BitVec.extractLsb'_toNat]
    rfl
  · intro id hversion
    simp only [List.mem_cons, List.not_mem_nil, or_false, not_or] at hversion
    rw [embedded_eq_error_iff, Uuid.unixMillis?, if_neg hversion.2.2,
      Uuid.gregorianTicks?_eq_none_iff.2 ⟨hversion.1, hversion.2.1⟩]
    rfl
  · intro a b created created' hle hversion hsorted ha hb
    exact UInt64.le_iff_toNat_le.2 (Uuid.unixMillis?_mono hle hversion hsorted
      (embedded_eq_ok_iff.1 ha) (embedded_eq_ok_iff.1 hb))

/-- A decoder whose difference of ticks leaves its range before 1970. -/
def subtracting? (id : Uuid) : Option (Option UnixTime) :=
  match id.gregorianTicks? with
  | some ticks => if ticks < Uuid.gregorianOffset then none else some id.unixTime?
  | none => some id.unixTime?

theorem decodesTimes_subtracting? : DecodesTimes subtracting? where
  ofTicks {id ticks} hticks hle := by
    rw [subtracting?, hticks]
    dsimp only
    rw [if_neg (Nat.not_lt.2 hle), Uuid.unixTime?,
      if_neg (Uuid.version_ne_of_gregorianTicks? hticks), hticks, Option.map_some]
  ofMillis {id} hversion := by
    rw [subtracting?, Uuid.gregorianTicks?_eq_none_iff.2 (by omega), Uuid.unixTime?,
      if_pos hversion]
  timeless {id} hversion := by
    simp only [List.mem_cons, List.not_mem_nil, or_false, not_or] at hversion
    have hnone := Uuid.gregorianTicks?_eq_none_iff.2 ⟨hversion.1, hversion.2.1⟩
    rw [subtracting?, hnone, Uuid.unixTime?, if_neg hversion.2.2, hnone, Option.map_none]

/-- What the general statement says of such a decoder and two identifiers of version 1, of a time in
2022 and of the first tick. -/
theorem creation_of_subtracting :
    DecodesTimes subtracting? ∧
      lookUp? subtracting? ⟨0xc232ab00941411ecb3c89f6bdeced846⟩ = some (.ok 1645557742000) ∧
      subtracting? ⟨0x00000000000010008000000000000000⟩ = none ∧
      lookUp? subtracting? ⟨0x00000000000010008000000000000000⟩ =
        some (.error (.noEmbeddedTimestamp ⟨0x00000000000010008000000000000000⟩)) := by
  obtain ⟨hlookUp, -⟩ := creation_of_decoder decodesTimes_subtracting?
  refine ⟨decodesTimes_subtracting?, ?_, rfl, ?_⟩
  · rw [hlookUp]
    rfl
  · rw [hlookUp]
    rfl

end ThreadLookup

end ChatRelay

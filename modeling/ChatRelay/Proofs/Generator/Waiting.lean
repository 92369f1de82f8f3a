import ChatRelay.Proofs.Generator
import Mathlib.Order.Nat

/-!
# Waiting for the next millisecond

A call waits only where the sequence number comes round to zero and the clock has not moved past the
last timestamp. It is then shown one reading after the other, and nothing bounds their number but
the clock: waiting ends at the first reading past the instant that is held, wherever in an endless
run of readings this is (`FirstPast`, `await_showing`). What is minted there has the time of that
reading and the sequence number zero, and every other call takes a single reading
(`mint_waits_for_first`).
-/

namespace ChatRelay

/-- What a clock shows of an endless run of readings: the first one and `count` more. -/
def Clock.showing (readings : Nat → Millis) (count : Nat) : Clock where
  now := readings 0
  later := (List.range count).map fun i => readings (i + 1)

namespace Generator

variable {g : Generator} {readings : Nat → Millis} {count n : Nat}

/-! ## The first reading past the held instant -/

/-- A reading is past the last timestamp where it is past the instant that is held. -/
theorem last_lt_elapsed_iff {reading : Millis} :
    g.last < g.elapsed reading ↔ g.epoch.toNat + g.last < reading.toNat := by
  rw [elapsed]
  omega

/-- The first of some readings that is past the instant that is held. -/
structure FirstPast (g : Generator) (readings : Nat → Millis) (n : Nat) : Prop where
  past : g.epoch.toNat + g.last < (readings n).toNat
  before : ∀ i < n, (readings i).toNat ≤ g.epoch.toNat + g.last

namespace FirstPast

theorem exists_of_eventually (h : ∃ n, g.epoch.toNat + g.last < (readings n).toNat) :
    ∃ n, g.FirstPast readings n :=
  ⟨Nat.find h, Nat.find_spec h, fun _ hi => Nat.le_of_not_lt (Nat.find_min h hi)⟩

theorem unique {n' : Nat} (h : g.FirstPast readings n) (h' : g.FirstPast readings n') :
    n = n' := by
  rcases Nat.lt_trichotomy n n' with hlt | heq | hlt
  · exact absurd h.past (Nat.not_lt.2 (h'.before n hlt))
  · exact heq
  · exact absurd h'.past (Nat.not_lt.2 (h.before n' hlt))

/-- It is not the reading that the call started with, if that was not past the last timestamp. -/
theorem pos (h : g.FirstPast readings n) (hheld : g.elapsed (readings 0) ≤ g.last) : 0 < n := by
  refine Nat.pos_of_ne_zero ?_
  rintro rfl
  exact absurd (last_lt_elapsed_iff.2 h.past) (Nat.not_lt.2 hheld)

/-- No reading before it is past the last timestamp. -/
theorem elapsed_le (h : g.FirstPast readings n) (hcount : count < n) :
    ∀ r ∈ (Clock.showing readings count).later, g.elapsed r ≤ g.last := by
  intro r hr
  obtain ⟨i, hi, rfl⟩ := List.mem_map.1 hr
  rw [List.mem_range] at hi
  have hle := h.before (i + 1) (by omega)
  exact Nat.le_of_not_lt fun hlt => absurd (last_lt_elapsed_iff.1 hlt) (Nat.not_lt.2 hle)

/-- Readings a millisecond apart reach the instant after the held one, and no instant past it comes
before. -/
theorem of_ticks (h : g.FirstPast readings n) (hheld : g.elapsed (readings 0) ≤ g.last)
    (hticks : ∀ i, readings i = readings 0 + UInt64.ofNat i) :
    n = g.epoch.toNat + g.last + 1 - (readings 0).toNat ∧ g.elapsed (readings n) = g.last + 1 := by
  have hstart : (readings 0).toNat ≤ g.epoch.toNat + g.last :=
    Nat.le_of_not_lt fun hlt => absurd (last_lt_elapsed_iff.2 hlt) (Nat.not_lt.2 hheld)
  have hroom : g.epoch.toNat + g.last + 1 < 2 ^ 64 :=
    Nat.lt_of_le_of_lt h.past (readings n).toNat_lt
  have htoNat (i : Nat) (hi : (readings 0).toNat + i < 2 ^ 64) :
      (readings i).toNat = (readings 0).toNat + i := by
    rw [hticks, UInt64.toNat_add, UInt64.toNat_ofNat_of_lt' (show i < 2 ^ 64 by omega),
      Nat.mod_eq_of_lt hi]
  generalize hk : g.epoch.toNat + g.last + 1 - (readings 0).toNat = k
  have hreading := htoNat k (by omega)
  have hfirst : g.FirstPast readings k := by
    refine ⟨by omega, fun i hi => ?_⟩
    have := htoNat i (by omega)
    omega
  obtain rfl := h.unique hfirst
  refine ⟨rfl, ?_⟩
  rw [elapsed]
  omega

end FirstPast

/-! ## Waiting -/

theorem await_eq_none {later : List Millis} (h : ∀ r ∈ later, g.elapsed r ≤ g.last) :
    g.await later = none := by
  rw [Option.eq_none_iff_forall_ne_some]
  rintro ⟨reading, unread⟩ hawait
  obtain ⟨skipped, rfl, -, hlt⟩ := await_eq_some_iff.1 hawait
  exact absurd hlt (Nat.not_lt.2 (h reading (by simp)))

/-- **A wait ends at the first reading past the held instant**, and leaves those after it. -/
theorem await_showing (h : g.FirstPast readings n) (hpos : 0 < n) (hcount : n ≤ count) :
    g.await (Clock.showing readings count).later =
      some (readings n, (Clock.showing (fun i => readings (n + i)) (count - n)).later) := by
  obtain ⟨k, rfl⟩ := Nat.exists_eq_add_one_of_ne_zero (Nat.pos_iff_ne_zero.1 hpos)
  obtain ⟨rest, rfl⟩ := Nat.exists_eq_add_of_le hcount
  rw [await_eq_some_iff]
  refine ⟨(Clock.showing readings k).later, ?_, h.elapsed_le (Nat.lt_succ_self k),
    last_lt_elapsed_iff.2 h.past⟩
  have hsplit : List.range (k + 1 + rest) =
      List.range k ++ k :: (List.range rest).map (k + 1 + ·) := by
    rw [List.range_add, List.range_succ, List.append_assoc, List.singleton_append]
  simp only [Clock.showing, hsplit, Nat.add_sub_cancel_left, List.map_append, List.map_cons,
    List.map_map]
  rfl

/-- A call that waits has an outcome from the first reading past the held instant on. -/
theorem mint_showing (hsequence : g.sequence = 0) (hheld : g.elapsed (readings 0) ≤ g.last)
    (htolerance : g.last ≤ g.elapsed (readings 0) + g.tolerance.toNat)
    (h : g.FirstPast readings n) :
    g.mint (.showing readings count) = if n ≤ count then
      some (g.stamp (g.elapsed (readings n)) (readings n)
        (Clock.showing (fun i => readings (n + i)) (count - n)).later) else none := by
  split
  next hcount =>
    exact mint_eq_some_iff.2 (.waited htolerance hsequence hheld
      (await_showing h (h.pos hheld) hcount))
  next hcount =>
    have hnow : (Clock.showing readings count).now = readings 0 := rfl
    have hwait := await_eq_none (h.elapsed_le (Nat.lt_of_not_le hcount))
    rw [mint, hnow, if_neg (Nat.not_lt.2 htolerance), if_pos ⟨hsequence, Nat.max_eq_right hheld⟩,
      hwait]
    rfl

/-- **A wait ends, and at the right reading.** Where the sequence number has come round to zero and
the first reading is not past the last timestamp, nor behind it by more than the tolerance, a call
waits. If the clock is ever past the held instant, there is a first reading that is; the call has no
outcome before, and from there on it has taken the readings up to this one and no more. It mints an
identifier with exactly the time of this reading and the sequence number zero, or fails because that
time is too large. On a clock that moves on by one millisecond at each reading, it is the
millisecond after the last timestamp, and the call takes as many further readings as its patience
says. A call whose sequence number is not zero, or whose first reading is past the last timestamp,
takes one reading. -/
theorem mint_waits_for_first (g : Generator) :
    (∀ readings : Nat → Millis, g.sequence = 0 → g.elapsed (readings 0) ≤ g.last →
      g.last ≤ g.elapsed (readings 0) + g.tolerance.toNat →
      (∃ n, g.epoch.toNat + g.last < (readings n).toNat) →
      ∃ n, 0 < n ∧ g.FirstPast readings n ∧
        (∀ count < n, g.mint (.showing readings count) = none) ∧
        (∀ count, n ≤ count → ∃ m, g.mint (.showing readings count) = some m ∧
          m.reading = readings n ∧
          m.unread = (Clock.showing (fun i => readings (n + i)) (count - n)).later ∧
          (g.elapsed (readings n) ≤ MessageId.maxTimestamp → ∃ id, m.result = .ok id ∧
            id.decompose = { timestamp := g.elapsed (readings n), node := g.node, sequence := 0 }) ∧
          (MessageId.maxTimestamp < g.elapsed (readings n) →
            m.result = .error (.timestampOverflow (g.elapsed (readings n))))) ∧
        ((∀ i, readings i = readings 0 + UInt64.ofNat i) →
          n = g.patience (readings 0) ∧ g.elapsed (readings n) = g.last + 1)) ∧
    ∀ clock, g.sequence ≠ 0 ∨ g.last < g.elapsed clock.now →
      ∃ m, g.mint clock = some m ∧ m.reading = clock.now ∧ m.unread = clock.later := by
  refine ⟨fun readings hsequence hheld htolerance heventually => ?_, fun clock hprompt => ?_⟩
  · obtain ⟨n, hfirst⟩ := FirstPast.exists_of_eventually heventually
    refine ⟨n, hfirst.pos hheld, hfirst, fun count hcount => ?_, fun count hcount => ?_,
      fun hticks => ?_⟩
    · rw [mint_showing hsequence hheld htolerance hfirst, if_neg (Nat.not_le.2 hcount)]
    · rw [mint_showing hsequence hheld htolerance hfirst, if_pos hcount]
      refine ⟨_, rfl, stamp_reading _ _ _, stamp_unread _ _ _, fun hmax => ?_, fun hmax => ?_⟩
      · rw [stamp, if_neg (Nat.not_lt.2 hmax), hsequence]
        exact ⟨_, rfl, MessageId.decompose_pack hmax g.node.isLt (by decide)⟩
      · rw [stamp, if_pos hmax]
    · rw [patience, if_pos ⟨hsequence, hheld, htolerance⟩]
      exact hfirst.of_ticks hheld hticks
  · by_cases hback : g.elapsed clock.now + g.tolerance.toNat < g.last
    · exact ⟨_, mint_eq_some_iff.2 (.refused hback), rfl, rfl⟩
    · refine ⟨_, mint_eq_some_iff.2 (.prompt (Nat.le_of_not_lt hback) fun hsequence => ?_),
        stamp_reading _ _ _, stamp_unread _ _ _⟩
      exact hprompt.resolve_left (not_not_intro hsequence)

/-- Node one, five milliseconds after an epoch, with a full turn of the sequence behind it. -/
def turned : Generator :=
  { epoch := 1000, node := ⟨1, MessageId.one_lt_nodeCount⟩, tolerance := 10, last := 5
    sequence := ⟨0, MessageId.sequenceCount_pos⟩ }

/-- A clock two milliseconds behind, which goes on for some time and steps back on its way. -/
def hesitant (i : Nat) : Millis :=
  [1003, 1005, 1004, 1005].getD i 1008

/-- What the general statement says of this clock, of one that is behind as much and then moves on
steadily, and of a call on the latter with the next sequence number. -/
theorem mint_waits_for_first_hesitant :
    turned.mint (.showing hesitant 3) = none ∧
      (∃ m, turned.mint (.showing hesitant 6) = some m ∧ m.reading = 1008 ∧
        ∃ id, m.result = .ok id ∧ id.decompose = { timestamp := 8, node := 1, sequence := 0 }) ∧
      (∃ n, turned.elapsed (1003 + UInt64.ofNat n) = 6) ∧
      ∃ m, ({ turned with sequence := 1 } : Generator).mint (.ticking 1003 4) = some m ∧
        m.reading = 1003 := by
  obtain ⟨n, -, hfirst, hwaiting, hminted, -⟩ := (mint_waits_for_first turned).1 hesitant rfl
    (by decide) (by decide) ⟨4, by decide⟩
  obtain rfl := hfirst.unique (⟨by decide, by decide⟩ : turned.FirstPast hesitant 4)
  obtain ⟨m, hmint, hreading, -, hid, -⟩ := hminted 6 (by decide)
  obtain ⟨k, -, -, -, -, hsteady⟩ := (mint_waits_for_first turned).1
    (fun i => 1003 + UInt64.ofNat i) rfl (by decide) (by decide) ⟨3, by decide⟩
  obtain ⟨m', hmint', hreading', -⟩ :=
    (mint_waits_for_first { turned with sequence := 1 }).2 (.ticking 1003 4) (.inl (by decide))
  exact ⟨hwaiting 3 (by decide), ⟨m, hmint, hreading, hid (by decide)⟩,
    ⟨k, (hsteady fun i => by simp).2⟩, m', hmint', hreading'⟩

end Generator

end ChatRelay

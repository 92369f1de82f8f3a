import ChatRelay.Proofs.Generator

/-!
# The tolerance

What an identifier is dated, and whether the clock has gone back too far, is decided on readings
that are brought up to the epoch where they are before it (`epoch_add_elapsed`). So an identifier is
never dated before the reading that it is minted at, nor after it by more than the tolerance, as
long as the clock has not fallen below the epoch; from there on a step back counts only as far as
the epoch (`minted_near_reading`, `fall_below_epoch_absorbed`).
-/

namespace ChatRelay.Generator

variable {g g' : Generator} {clock : Clock} {m : Minting} {id : MessageId}

/-- A reading and the instant that it counts as. -/
theorem epoch_add_elapsed (g : Generator) (reading : Millis) :
    g.epoch.toNat + g.elapsed reading = max reading.toNat g.epoch.toNat := by
  rw [elapsed]
  omega

/-- The instant of the last timestamp, which is held while the clock is behind it. -/
def held (g : Generator) : Nat :=
  g.epoch.toNat + g.last

theorem epoch_le_held (g : Generator) : g.epoch.toNat ≤ g.held :=
  Nat.le_add_right _ _

/-! ## One call -/

/-- An identifier is dated as its call's last reading counts, or at the held instant if this is
later. -/
theorem Call.unixMillis_of_ok (h : g.Call clock m) (hid : m.result = .ok id) :
    g.unixMillis id = max (max m.reading.toNat g.epoch.toNat) g.held ∧
      g.held ≤ max m.reading.toNat g.epoch.toNat + g.tolerance.toNat := by
  obtain ⟨htimestamp, htolerance, -⟩ := h.timestamp_of_ok hid
  have hcounts := g.epoch_add_elapsed m.reading
  rw [unixMillis, held, htimestamp]
  omega

/-- Stamping does not look at how far the clock went back. -/
theorem stamp_result_ne_regressed (timestamp : Nat) (reading : Millis) (unread : List Millis)
    (regression tolerance : Nat) :
    (g.stamp timestamp reading unread).result ≠ .error (.clockRegressed regression tolerance) := by
  rw [stamp]
  split <;> simp

/-- **When the clock is refused**: where the held instant is after what its first reading counts as
by more than the tolerance. The failure names the distance. -/
theorem Call.regressed_iff (h : g.Call clock m) {regression tolerance : Nat} :
    m.result = .error (.clockRegressed regression tolerance) ↔
      max clock.now.toNat g.epoch.toNat + g.tolerance.toNat < g.held ∧
      max clock.now.toNat g.epoch.toNat + regression = g.held ∧
      tolerance = g.tolerance.toNat := by
  have hcounts := g.epoch_add_elapsed clock.now
  rw [held]
  cases h with
  | refused h =>
    simp only [Except.error.injEq, MintError.clockRegressed.injEq]
    omega
  | prompt h | waited h =>
    constructor
    · exact fun hr => absurd hr (stamp_result_ne_regressed _ _ _ _ _)
    · omega

/-! ## Runs -/

/-- **Identifiers are dated within the tolerance of the clock, down to the epoch.** Whatever calls
came before and however the clock moves, an identifier is not dated before the last reading of its
call, nor later than the tolerance after this reading, or after the epoch if the reading is before
it. So it is within the tolerance of the reading unless the reading is before the epoch and the
held instant after it by more than the tolerance. And the clock is refused exactly where the held
instant is more than the tolerance after the first reading of the call and after the epoch; the
failure says how far it is after the later one of the two. -/
theorem minted_near_reading {before : List Clock} (hafter : g.afterAll before = some g')
    (hmint : g'.mint clock = some m) :
    (∀ id, m.result = .ok id →
      m.reading.toNat ≤ g.unixMillis id ∧
      g.unixMillis id ≤ max m.reading.toNat g.epoch.toNat + g.tolerance.toNat ∧
      (g.unixMillis id ≤ m.reading.toNat + g.tolerance.toNat ↔
        g.epoch ≤ m.reading ∨ g'.held ≤ m.reading.toNat + g.tolerance.toNat)) ∧
    ∀ regression tolerance, m.result = .error (.clockRegressed regression tolerance) ↔
      max clock.now.toNat g.epoch.toNat + g.tolerance.toNat < g'.held ∧
      max clock.now.toNat g.epoch.toNat + regression = g'.held ∧
      tolerance = g.tolerance.toNat := by
  have hcall := mint_eq_some_iff.1 hmint
  obtain ⟨hepoch, htolerance, -⟩ := settings_afterAll hafter
  rw [← hepoch, ← htolerance]
  refine ⟨fun id hid => ?_, fun regression tolerance => hcall.regressed_iff⟩
  obtain ⟨hdated, hheld⟩ := hcall.unixMillis_of_ok hid
  have hsame : g.unixMillis id = g'.unixMillis id := by rw [unixMillis, unixMillis, hepoch]
  have hlate := g'.epoch_le_held
  rw [hsame, hdated, UInt64.le_iff_toNat_le]
  refine ⟨?_, ?_, ?_⟩ <;> omega

/-- Node one, five milliseconds after an epoch at one million. -/
def millionth : Generator :=
  { epoch := 1000000, node := ⟨1, by decide⟩, tolerance := 10, last := 4
    sequence := ⟨1, by decide⟩ }

/-- The same node after an identifier of that millisecond. -/
def millionthHeld : Generator :=
  { millionth with last := 5, sequence := ⟨2, by decide⟩ }

/-- A clock that falls below the epoch is not refused, however far it falls: here it goes back by
more than a million milliseconds, of which ten are tolerated, and an identifier is minted. -/
theorem fall_below_epoch_absorbed :
    setUp { epoch := 1000000, node := .explicit 1, tolerance := 10 } { firstSequence := 1 }
      1000005 = .ok millionth ∧
    millionth.afterAll [⟨1000005, []⟩] = some millionthHeld ∧
    ∃ m, millionthHeld.mint ⟨0, []⟩ = some m ∧
      m.result = .ok (.pack 5 1 2) ∧ m.reading = 0 ∧
      (0 : Millis).toNat + millionth.tolerance.toNat < millionthHeld.held ∧
      ¬millionth.unixMillis (.pack 5 1 2) ≤ m.reading.toNat + millionth.tolerance.toNat :=
  ⟨rfl, rfl, _, rfl, rfl, rfl, by decide, by decide⟩

/-- What the general statement says there of a clock that goes back by four milliseconds only and
stays past the epoch. -/
theorem minted_near_reading_millionth :
    millionth.afterAll [⟨1000005, []⟩] = some millionthHeld ∧
    ∃ m, millionthHeld.mint ⟨1000001, []⟩ = some m ∧
      m.result = .ok (.pack 5 1 2) ∧
      1000001 ≤ millionth.unixMillis (.pack 5 1 2) ∧
      millionth.unixMillis (.pack 5 1 2) ≤ 1000001 + 10 := by
  have hafter : millionth.afterAll [⟨1000005, []⟩] = some millionthHeld := rfl
  have hmint : millionthHeld.mint ⟨1000001, []⟩ =
      some { result := .ok (.pack 5 1 2), generator := { millionthHeld with sequence := 3 }
             reading := 1000001, unread := [] } := rfl
  obtain ⟨hnear, -⟩ := minted_near_reading hafter hmint
  obtain ⟨hlower, -, hupper⟩ := hnear _ rfl
  exact ⟨hafter, _, hmint, rfl, hlower, hupper.2 (.inl (by decide))⟩

end ChatRelay.Generator

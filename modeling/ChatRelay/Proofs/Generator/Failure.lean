import ChatRelay.Proofs.Generator

/-!
# Calls that fail

A call that is refused leaves its generator as it was. One that overflows leaves the last timestamp,
but it has taken a sequence number (`Call.generator_of_error`), and nothing gives the number back.
So calls that overflow turn the sequence on while the timestamp stands still, and after almost a
full turn of them a clock that steps back gets an identifier that was minted before
(`failed_calls_skip`).
-/

namespace ChatRelay.Generator

variable {g g' : Generator} {clock : Clock} {m : Minting} {id : MessageId} {e : MintError}

/-- The generator after some sequence numbers were taken for nothing. -/
def skip (g : Generator) (count : Nat) : Generator :=
  { g with sequence :=
      ⟨(g.sequence + count) % MessageId.sequenceCount, Nat.mod_lt _ MessageId.sequenceCount_pos⟩ }

@[simp] theorem skip_zero (g : Generator) : g.skip 0 = g := by
  have hsequence : (g.sequence : Nat) % MessageId.sequenceCount = g.sequence :=
    Nat.mod_eq_of_lt g.sequence.isLt
  simp only [skip, Nat.add_zero, hsequence]

theorem skip_skip (g : Generator) (m n : Nat) : (g.skip m).skip n = g.skip (m + n) := by
  simp only [skip, Nat.mod_add_mod, Nat.add_assoc]

/-- Only after whole turns of the sequence a generator is as it was. -/
theorem skip_eq_self_iff {count : Nat} :
    g.skip count = g ↔ MessageId.sequenceCount ∣ count := by
  constructor
  · intro h
    have hlt := g.sequence.isLt
    have hsequence : ((g.sequence : Nat) + count) % MessageId.sequenceCount = g.sequence :=
      congrArg (fun g : Generator => (g.sequence : Nat)) h
    rw [MessageId.sequenceCount] at hsequence ⊢
    omega
  · rintro ⟨turns, rfl⟩
    calc
      g.skip (MessageId.sequenceCount * turns) = g.skip 0 := by
        simp only [skip, Nat.add_mul_mod_self_left, Nat.add_zero]
      _ = g := skip_zero g

/-- A call that mints an identifier takes its sequence number. -/
theorem Call.generator_of_ok (h : g.Call clock m) (hid : m.result = .ok id) :
    m.generator = skip { g with last := id.timestamp } 1 := by
  obtain ⟨timestamp, hmax, rfl, hg⟩ := h.minted_of_ok hid
  rw [hg, MessageId.timestamp_pack hmax g.node.isLt g.sequence.isLt]
  rfl

/-- **A call that fails** takes a sequence number if it overflows, and changes nothing otherwise. -/
theorem Call.generator_of_error (h : g.Call clock m) (hfail : m.result = .error e) :
    m.generator = g.skip (if m.overflows then 1 else 0) := by
  cases hover : m.overflows with
  | false =>
    rcases h.refused_or_minted hover with ⟨-, hg⟩ | ⟨timestamp, -, -, -, hr, -⟩
    · rw [hg]
      exact (skip_zero g).symm
    · rw [hr] at hfail
      cases hfail
  | true =>
    rcases h.refused_or_stamp with ⟨⟨_, _, hr⟩, -⟩ | ⟨-, -, -, hm⟩
    · rw [Minting.overflows, hr] at hover
      cases hover
    · rw [hm, stamp, if_pos (h.lt_of_overflows hover)]
      rfl

/-- Of the calls that fail, those that do not overflow leave the generator as it was. -/
theorem Call.generator_eq_iff_of_error (h : g.Call clock m) (hfail : m.result = .error e) :
    m.generator = g ↔ m.overflows = false := by
  rw [h.generator_of_error hfail, skip_eq_self_iff]
  cases m.overflows <;> decide

/-- **Calls that fail** take as many sequence numbers as overflow. -/
theorem skip_of_failures {clocks : List Clock}
    (hfail : ∀ m ∈ g.run clocks, ∃ e, m.result = .error e) (hafter : g.afterAll clocks = some g') :
    g' = g.skip ((g.run clocks).countP Minting.overflows) := by
  induction clocks generalizing g with
  | nil =>
    obtain rfl := Option.some.inj hafter
    exact (skip_zero g).symm
  | cons clock clocks ih =>
    obtain ⟨m, hcall, hafter⟩ := afterAll_cons_eq_some_iff.1 hafter
    simp only [run, mint_eq_some_iff.2 hcall] at hfail ⊢
    obtain ⟨⟨e, he⟩, hfail⟩ := List.forall_mem_cons.1 hfail
    have hrest := ih hfail hafter
    rw [List.countP_cons, Nat.add_comm, ← skip_skip, ← hcall.generator_of_error he]
    exact hrest

/-! ## What was minted before -/

/-- A generator that is again as before a call, but for the last timestamp, mints the same
identifier where the clock is not past it, and behind it by no more than the tolerance. -/
theorem Call.minted_again (h : g.Call clock m) (hid : m.result = .ok id)
    (hsequence : id.sequence ≠ 0) {later : Clock} (hbehind : g.elapsed later.now ≤ id.timestamp)
    (htolerance : id.timestamp ≤ g.elapsed later.now + g.tolerance.toNat) :
    ∃ again, mint { g with last := id.timestamp } later = some again ∧ again.result = .ok id := by
  obtain ⟨timestamp, hmax, rfl, -⟩ := h.minted_of_ok hid
  rw [MessageId.sequence_pack hmax g.node.isLt g.sequence.isLt] at hsequence
  rw [MessageId.timestamp_pack hmax g.node.isLt g.sequence.isLt] at hbehind htolerance ⊢
  have hcall : Call { g with last := timestamp } later _ :=
    .prompt htolerance fun hzero => absurd (congrArg Fin.val hzero) hsequence
  refine ⟨_, mint_eq_some_iff.2 hcall, ?_⟩
  show (stamp { g with last := timestamp } (max (g.elapsed later.now) timestamp) later.now
    later.later).result = .ok (.pack timestamp g.node g.sequence)
  rw [Nat.max_eq_right hbehind, stamp, if_neg (Nat.not_lt.2 hmax)]

/-- **Failures are not atomic where they overflow.** A call that fails leaves a generator as it was
exactly if it does not overflow. Whatever calls fail, one after the other, they leave the last
timestamp and the settings as they were; but the sequence number has moved on by one for each call
that overflowed, so that the generator is the same again only where these make whole turns of the
sequence, as where there is none of them. If they come one short of
whole turns, right after an identifier was minted whose sequence number is not zero, then the next
call on a clock that is not past this identifier, and behind it by no more than the tolerance, mints
the same identifier again. -/
theorem failed_calls_skip {clocks : List Clock}
    (hfail : ∀ m ∈ g.run clocks, ∃ e, m.result = .error e) (hafter : g.afterAll clocks = some g') :
    (∀ clock m e, g.mint clock = some m → m.result = .error e →
      (m.generator = g ↔ m.overflows = false)) ∧
    g' = g.skip ((g.run clocks).countP Minting.overflows) ∧
    (g' = g ↔ MessageId.sequenceCount ∣ (g.run clocks).countP Minting.overflows) ∧
    ∀ before first m id, mint before first = some m → m.generator = g → m.result = .ok id →
      id.sequence ≠ 0 →
      MessageId.sequenceCount ∣ (g.run clocks).countP Minting.overflows + 1 →
      ∀ clock, g.elapsed clock.now ≤ id.timestamp →
        id.timestamp ≤ g.elapsed clock.now + g.tolerance.toNat →
        ∃ again, g'.mint clock = some again ∧ again.result = .ok id := by
  obtain rfl := skip_of_failures hfail hafter
  refine ⟨fun _ _ _ hmint herror => (mint_eq_some_iff.1 hmint).generator_eq_iff_of_error herror,
    rfl, skip_eq_self_iff, ?_⟩
  generalize (g.run clocks).countP Minting.overflows = count
  rintro before first m id hmint rfl hid hsequence hturn clock hbehind htolerance
  have hcall := mint_eq_some_iff.1 hmint
  have hturn' : MessageId.sequenceCount ∣ 1 + count := by rwa [Nat.add_comm]
  rw [hcall.generator_of_ok hid] at hbehind htolerance ⊢
  rw [skip_skip, skip_eq_self_iff.2 hturn']
  exact hcall.minted_again hid hsequence hbehind htolerance

/-! ## A full turn of failures -/

/-- Past the last timestamp that can be minted, calls overflow one after the other. -/
theorem afterAll_replicate_overflow (g : Generator) (clock : Clock) (count : Nat)
    (hpast : MessageId.maxTimestamp < g.elapsed clock.now)
    (hlast : g.last ≤ MessageId.maxTimestamp) :
    g.afterAll (List.replicate count clock) = some (g.skip count) ∧
    (∀ m ∈ g.run (List.replicate count clock), ∃ e, m.result = .error e) ∧
    (g.run (List.replicate count clock)).countP Minting.overflows = count := by
  induction count generalizing g with
  | zero => simp [afterAll, run]
  | succ count ih =>
    have hcall : g.Call clock _ := .prompt (by omega) fun _ => by omega
    rw [Nat.max_eq_left (by omega)] at hcall
    have hstamp : g.stamp (g.elapsed clock.now) clock.now clock.later =
        { result := .error (.timestampOverflow (g.elapsed clock.now)), generator := g.skip 1
          reading := clock.now, unread := clock.later } := by
      rw [stamp, if_pos hpast]
      rfl
    rw [hstamp] at hcall
    obtain ⟨hafter, hfail, hcount⟩ := ih (g.skip 1) hpast hlast
    rw [List.replicate_succ, run, mint_eq_some_iff.2 hcall]
    refine ⟨afterAll_cons_eq_some_iff.2 ⟨_, hcall, ?_⟩, ?_, ?_⟩
    · rw [hafter, skip_skip, Nat.add_comm]
    · exact List.forall_mem_cons.2 ⟨⟨_, rfl⟩, hfail⟩
    · rw [List.countP_cons, hcount]
      rfl

/-- Node five, set up in the last millisecond that has a timestamp. -/
def nearTheEnd : Generator :=
  { epoch := 0, node := ⟨5, by decide⟩, tolerance := 1000, last := 0x1FFFFFFFFFE
    sequence := ⟨7, by decide⟩ }

/-- The same node after its first identifier. -/
def atTheEnd : Generator :=
  { nearTheEnd with last := 0x1FFFFFFFFFF, sequence := ⟨8, by decide⟩ }

theorem mint_nearTheEnd :
    nearTheEnd.mint ⟨0x1FFFFFFFFFF, []⟩ =
      some { result := .ok (.pack 0x1FFFFFFFFFF 5 7), generator := atTheEnd
             reading := 0x1FFFFFFFFFF, unread := [] } := rfl

/-- A call that fails need not leave the generator alone: one that overflows takes the sequence
number eight, which no identifier gets. -/
theorem overflow_takes_sequence_number :
    setUp { node := .explicit 5 } { firstSequence := 7 } 0x1FFFFFFFFFF = .ok nearTheEnd ∧
    nearTheEnd.afterAll [⟨0x1FFFFFFFFFF, []⟩] = some atTheEnd ∧
    ∃ m, atTheEnd.mint ⟨0x20000000000, []⟩ = some m ∧
      m.result = .error (.timestampOverflow 0x20000000000) ∧
      m.generator = { atTheEnd with sequence := 9 } ∧
      m.generator ≠ atTheEnd :=
  ⟨rfl, rfl, _, rfl, rfl, rfl, by decide⟩

/-- What the general statement says of a clock that runs past the last timestamp while the sequence
takes almost a full turn, and then steps back: the first identifier is minted a second time. -/
theorem failed_calls_skip_full_turn :
    (∀ m ∈ atTheEnd.run (List.replicate 4095 ⟨0x20000000000, []⟩), ∃ e, m.result = .error e) ∧
    ∃ g' again, atTheEnd.afterAll (List.replicate 4095 ⟨0x20000000000, []⟩) = some g' ∧
      g' ≠ atTheEnd ∧
      g'.mint ⟨0x1FFFFFFFFFF, []⟩ = some again ∧
      again.result = .ok (.pack 0x1FFFFFFFFFF 5 7) := by
  obtain ⟨hafter, hfail, hcount⟩ :=
    afterAll_replicate_overflow atTheEnd ⟨0x20000000000, []⟩ 4095 (by decide) (by decide)
  obtain ⟨-, -, hsame, hagain⟩ := failed_calls_skip hfail hafter
  rw [hcount] at hsame hagain
  obtain ⟨again, hmint, hid⟩ := hagain _ _ _ _ mint_nearTheEnd rfl rfl (by decide) (by decide)
    ⟨0x1FFFFFFFFFF, []⟩ (by decide) (by decide)
  exact ⟨hfail, _, again, hafter, fun h => absurd (hsame.1 h) (by decide), hmint, hid⟩

end ChatRelay.Generator

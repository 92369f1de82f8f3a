import ChatRelay.Generator
import ChatRelay.Proofs.MessageId

/-!
# What a generator mints

A call either refuses the clock and leaves the generator alone, or stamps an identifier, at once or
after it waited (`Call`, `mint_eq_some_iff`). The timestamp that is stamped never goes back, and it
moves on wherever the sequence number comes round to zero (`Call.refused_or_stamp`). So whatever was
minted before stays below whatever is minted later: `Past` is the invariant that says so, and
`minted_run_increasing` is its consequence for a run.
-/

namespace ChatRelay

/-- Whether a call failed because its timestamp is too large. -/
def Minting.overflows (m : Minting) : Bool :=
  match m.result with
  | .error (.timestampOverflow _) => true
  | _ => false

namespace Generator

variable {g g' : Generator} {clock : Clock} {m : Minting} {id : MessageId}

/-! ## Setting up -/

/-- What a generator starts with: an epoch that is not in the future, the node that its source
stands for, and the timestamp before the present one. -/
theorem setUp_eq_ok {config : GeneratorConfig} {host : Host} {now : Millis}
    (h : setUp config host now = .ok g) :
    g.epoch = config.epoch.toInt.toNat.toUInt64 ∧ g.epoch ≤ now ∧
      config.node.resolve host = .ok g.node ∧ g.tolerance = config.tolerance ∧
      g.last = now.toNat - g.epoch.toNat - 1 ∧
      g.sequence = .ofLowBits host.firstSequence.toNat := by
  rw [setUp] at h
  split at h
  · exact nomatch h
  dsimp only at h
  split at h
  · exact nomatch h
  next hpast =>
    cases hnode : config.node.resolve host with
    | error e =>
      rw [hnode] at h
      exact nomatch h
    | ok node =>
      rw [hnode] at h
      obtain rfl := Except.ok.inj h
      exact ⟨rfl, UInt64.not_lt.1 hpast, rfl, rfl, rfl, rfl⟩

/-! ## One call -/

/-- Waiting ends at the first reading past the last timestamp. -/
theorem await_eq_some_iff {readings unread : List Millis} {reading : Millis} :
    g.await readings = some (reading, unread) ↔
      ∃ skipped, readings = skipped ++ reading :: unread ∧
        (∀ r ∈ skipped, g.elapsed r ≤ g.last) ∧ g.last < g.elapsed reading := by
  induction readings with
  | nil => simp [await]
  | cons r readings ih =>
    rw [await]
    split
    next hr =>
      constructor
      · intro h
        simp only [Option.some.injEq, Prod.mk.injEq] at h
        obtain ⟨rfl, rfl⟩ := h
        exact ⟨[], rfl, by simp, hr⟩
      · rintro ⟨skipped, h, hskipped, -⟩
        cases skipped with
        | nil => simpa using h
        | cons r' skipped =>
          obtain ⟨rfl, -⟩ := List.cons.inj h
          have := hskipped r (by simp)
          omega
    next hr =>
      rw [ih]
      constructor
      · rintro ⟨skipped, rfl, hskipped, hlt⟩
        exact ⟨r :: skipped, rfl, by simpa using ⟨by omega, hskipped⟩, hlt⟩
      · rintro ⟨skipped, h, hskipped, hlt⟩
        cases skipped with
        | nil =>
          obtain ⟨rfl, -⟩ := List.cons.inj h
          exact absurd hlt hr
        | cons r' skipped =>
          obtain ⟨rfl, rfl⟩ := List.cons.inj h
          exact ⟨skipped, rfl, fun r hr => hskipped r (by simp [hr]), hlt⟩

/-- All that a call can do. -/
inductive Call (g : Generator) (clock : Clock) : Minting → Prop
  /-- The clock stepped back too far. -/
  | refused (h : g.elapsed clock.now + g.tolerance.toNat < g.last) :
      Call g clock
        { result := .error (.clockRegressed (g.last - g.elapsed clock.now) g.tolerance.toNat)
          generator := g, reading := clock.now, unread := clock.later }
  /-- An identifier of the present or, after a tolerated step back, of the last timestamp. -/
  | prompt (h : g.last ≤ g.elapsed clock.now + g.tolerance.toNat)
      (hseq : g.sequence = 0 → g.last < g.elapsed clock.now) :
      Call g clock (g.stamp (max (g.elapsed clock.now) g.last) clock.now clock.later)
  /-- The sequence number came round to zero, and the clock has moved on since. -/
  | waited {reading : Millis} {unread : List Millis}
      (h : g.last ≤ g.elapsed clock.now + g.tolerance.toNat) (hseq : g.sequence = 0)
      (hle : g.elapsed clock.now ≤ g.last) (hawait : g.await clock.later = some (reading, unread)) :
      Call g clock (g.stamp (g.elapsed reading) reading unread)

theorem mint_eq_some_iff : g.mint clock = some m ↔ g.Call clock m := by
  simp only [mint]
  by_cases hback : g.elapsed clock.now + g.tolerance.toNat < g.last
  · rw [if_pos hback, Option.some.injEq]
    constructor
    · rintro rfl
      exact .refused hback
    · intro h
      cases h with
      | refused => rfl
      | prompt h => omega
      | waited h => omega
  rw [if_neg hback]
  by_cases hwait : g.sequence = 0 ∧ max (g.elapsed clock.now) g.last = g.last
  · rw [if_pos hwait, Option.map_eq_some_iff]
    constructor
    · rintro ⟨⟨reading, unread⟩, hawait, rfl⟩
      exact .waited (by omega) hwait.1 (by omega) hawait
    · intro h
      cases h with
      | refused h => exact absurd h hback
      | prompt _ hseq =>
        have := hseq hwait.1
        omega
      | waited _ _ _ hawait => exact ⟨_, hawait, rfl⟩
  · rw [if_neg hwait, Option.some.injEq]
    constructor
    · rintro rfl
      refine .prompt (by omega) fun hseq => ?_
      have : ¬max (g.elapsed clock.now) g.last = g.last := fun h => hwait ⟨hseq, h⟩
      omega
    · intro h
      cases h with
      | refused h => exact absurd h hback
      | prompt => rfl
      | waited _ hseq hle => exact absurd ⟨hseq, by omega⟩ hwait

/-- A call has one outcome. -/
theorem Call.unique {m' : Minting} (h : g.Call clock m) (h' : g.Call clock m') : m = m' :=
  Option.some.inj ((mint_eq_some_iff.2 h).symm.trans (mint_eq_some_iff.2 h'))

@[simp] theorem stamp_reading (timestamp : Nat) (reading : Millis) (unread : List Millis) :
    (g.stamp timestamp reading unread).reading = reading := by
  rw [stamp]
  split <;> rfl

@[simp] theorem stamp_unread (timestamp : Nat) (reading : Millis) (unread : List Millis) :
    (g.stamp timestamp reading unread).unread = unread := by
  rw [stamp]
  split <;> rfl

/-- A call takes its readings from its clock. -/
theorem Call.reading_mem (h : g.Call clock m) : m.reading ∈ clock.readings := by
  cases h with
  | refused h => exact List.mem_cons_self
  | prompt h hseq => simp [Clock.readings]
  | waited h hseq hle hawait =>
    obtain ⟨skipped, hlater, -⟩ := await_eq_some_iff.1 hawait
    simp [Clock.readings, hlater]

/-- A call that is not refused stamps the time of its last reading or, where the clock is behind,
the last timestamp. The clock is not behind where the sequence number is zero. -/
theorem Call.refused_or_stamp (h : g.Call clock m) :
    ((∃ regression tolerance, m.result = .error (.clockRegressed regression tolerance)) ∧
      m.generator = g) ∨
    (g.last ≤ g.elapsed m.reading + g.tolerance.toNat ∧
      g.elapsed clock.now ≤ max (g.elapsed m.reading) g.last ∧
      (g.sequence = 0 → g.last < g.elapsed m.reading) ∧
      m = g.stamp (max (g.elapsed m.reading) g.last) m.reading m.unread) := by
  cases h with
  | refused h => exact .inl ⟨⟨_, _, rfl⟩, rfl⟩
  | prompt h hseq =>
    right
    rw [stamp_reading, stamp_unread]
    exact ⟨h, Nat.le_max_left _ _, hseq, rfl⟩
  | @waited reading unread h hseq hle hawait =>
    obtain ⟨-, -, -, hlt⟩ := await_eq_some_iff.1 hawait
    right
    rw [stamp_reading, stamp_unread, Nat.max_eq_left (Nat.le_of_lt hlt)]
    exact ⟨by omega, by omega, fun _ => hlt, rfl⟩

/-- A call that does not overflow is refused and changes nothing, or it mints an identifier whose
timestamp is not before the last one, and past it where the sequence number is zero. -/
theorem Call.refused_or_minted (h : g.Call clock m) (hfit : m.overflows = false) :
    ((∃ regression tolerance, m.result = .error (.clockRegressed regression tolerance)) ∧
      m.generator = g) ∨
    ∃ timestamp ≤ MessageId.maxTimestamp, g.last ≤ timestamp ∧
      (g.sequence = 0 → g.last < timestamp) ∧
      m.result = .ok (MessageId.pack timestamp g.node g.sequence) ∧
      m.generator = { g with last := timestamp, sequence := g.sequence + 1 } := by
  rcases h.refused_or_stamp with hrefused | ⟨-, -, hlt, hm⟩
  · exact .inl hrefused
  · generalize htimestamp : max (g.elapsed m.reading) g.last = timestamp at hm
    rw [hm, stamp] at hfit
    rw [hm, stamp]
    split at hfit
    next => simp [Minting.overflows] at hfit
    next hmax =>
      rw [if_neg hmax]
      refine .inr ⟨timestamp, by omega, by omega, fun hseq => ?_, rfl, rfl⟩
      have := hlt hseq
      omega

/-- What a call mints is packed from the timestamp that it stamps, the node, and the sequence number
that it takes. -/
theorem Call.minted_of_ok (h : g.Call clock m) (hid : m.result = .ok id) :
    ∃ timestamp ≤ MessageId.maxTimestamp, id = .pack timestamp g.node g.sequence ∧
      m.generator = { g with last := timestamp, sequence := g.sequence + 1 } := by
  have hfit : m.overflows = false := by rw [Minting.overflows, hid]
  rcases h.refused_or_minted hfit with ⟨⟨_, _, hr⟩, -⟩ | ⟨timestamp, hmax, -, -, hr, hg⟩
  · exact nomatch hr.symm.trans hid
  · exact ⟨timestamp, hmax, Except.ok.inj (hid.symm.trans hr), hg⟩

/-! ## Timestamps and the clock -/

/-- A minted identifier has the time of the call's last reading or, where the clock is behind, the
last timestamp, which it is behind by no more than the tolerance. -/
theorem Call.timestamp_of_ok (h : g.Call clock m) (hid : m.result = .ok id) :
    id.timestamp = max (g.elapsed m.reading) g.last ∧
      g.last ≤ g.elapsed m.reading + g.tolerance.toNat ∧
      g.elapsed clock.now ≤ id.timestamp ∧ id.timestamp ≤ MessageId.maxTimestamp ∧
      m.generator.last = id.timestamp := by
  rcases h.refused_or_stamp with ⟨⟨_, _, hr⟩, -⟩ | ⟨htolerance, hnow, -, hm⟩
  · rw [hr] at hid
    cases hid
  · generalize htimestamp : max (g.elapsed m.reading) g.last = timestamp at hm hnow ⊢
    rw [hm, stamp] at hid ⊢
    split at hid
    next => cases hid
    next hmax =>
      obtain rfl := Except.ok.inj hid
      have hpack : (MessageId.pack timestamp g.node g.sequence).timestamp = timestamp :=
        MessageId.timestamp_pack (by omega) g.node.2 g.sequence.2
      rw [if_neg hmax, hpack]
      exact ⟨rfl, htolerance, hnow, by omega, rfl⟩

/-- The last timestamp is not after the reading that a call took last, or it stays. -/
theorem Call.last_le (h : g.Call clock m) :
    m.generator.last ≤ max (g.elapsed m.reading) g.last := by
  have hstamp (timestamp : Nat) :
      (g.stamp timestamp m.reading m.unread).generator.last ≤ max timestamp g.last := by
    rw [stamp]
    split
    · exact Nat.le_max_right timestamp g.last
    · exact Nat.le_max_left timestamp g.last
  rcases h.refused_or_stamp with ⟨-, hg⟩ | ⟨-, -, -, hm⟩
  · rw [hg]
    exact Nat.le_max_right _ _
  · have hlast := congrArg (·.generator.last) hm
    have hle := hstamp (max (g.elapsed m.reading) g.last)
    omega

/-- A call changes no setting of the generator. -/
theorem Call.settings (h : g.Call clock m) :
    m.generator.epoch = g.epoch ∧ m.generator.tolerance = g.tolerance := by
  rcases h.refused_or_stamp with ⟨-, hg⟩ | ⟨-, -, -, hm⟩
  · rw [hg]
    exact ⟨rfl, rfl⟩
  · rw [hm, stamp]
    split <;> exact ⟨rfl, rfl⟩

/-- No call changes the node of a generator. -/
theorem Call.node_eq (h : g.Call clock m) : m.generator.node = g.node := by
  rcases h.refused_or_stamp with ⟨-, hg⟩ | ⟨-, -, -, hm⟩
  · rw [hg]
  · rw [hm, stamp]
    split <;> rfl

/-- Only a timestamp that is too large overflows. -/
theorem Call.lt_of_overflows (h : g.Call clock m) (hover : m.overflows = true) :
    MessageId.maxTimestamp < max (g.elapsed m.reading) g.last := by
  rcases h.refused_or_stamp with ⟨⟨_, _, hr⟩, -⟩ | ⟨-, -, -, hm⟩
  · rw [Minting.overflows, hr] at hover
    cases hover
  · rw [hm, stamp] at hover
    split at hover
    · assumption
    · cases hover

/-! ## What was minted stays below -/

/-- The identifier is of this generator's node and comes before everything that it can still
mint. -/
def Past (g : Generator) (id : MessageId) : Prop :=
  id.node = g.node ∧ (id.timestamp < g.last ∨
    id.timestamp = g.last ∧ ((g.sequence : Nat) = 0 ∨ id.sequence < g.sequence))

/-- The sequence number after another is larger, unless it comes round to zero. -/
theorem sequence_succ (s : Sequence) :
    ((s + 1 : Sequence) : Nat) = 0 ∨ (s : Nat) < (s + 1 : Sequence) := by
  rcases s with ⟨s, hs⟩
  have hone : ((1 : Sequence) : Nat) = 1 := rfl
  simp only [Fin.val_add, hone]
  omega

/-- **What was minted before is below what a call mints, and remains in the past.** -/
theorem Call.lt_of_past (h : g.Call clock m) (hfit : m.overflows = false) (hid : g.Past id) :
    m.generator.Past id ∧ ∀ new, m.result = .ok new → id < new := by
  rcases h.refused_or_minted hfit with ⟨⟨_, _, hr⟩, hg⟩ | ⟨timestamp, hmax, hle, hlt, hr, hg⟩
  · rw [hr, hg]
    exact ⟨hid, fun _ hnew => nomatch hnew⟩
  · obtain ⟨hnode, hid⟩ := hid
    have hseq := sequence_succ g.sequence
    rw [hr, hg]
    refine ⟨⟨hnode, ?_⟩, fun new hnew => ?_⟩
    · rcases hid with hid | ⟨hid, h0 | hid'⟩
      · exact .inl (by simpa using by omega)
      · exact .inl (by simpa [hid] using hlt (Fin.ext h0))
      · rcases Nat.lt_or_eq_of_le hle with hle | rfl
        · exact .inl (by simpa [hid] using hle)
        · exact .inr ⟨hid, hseq.imp_right fun hs => Nat.lt_trans hid' hs⟩
    · obtain rfl := Except.ok.inj hnew
      rw [MessageId.lt_iff_fields, MessageId.timestamp_pack hmax g.node.2 g.sequence.2,
        MessageId.node_pack hmax g.node.2 g.sequence.2,
        MessageId.sequence_pack hmax g.node.2 g.sequence.2]
      -- within one timestamp the sequence number has not come round
      rcases hid with hid | ⟨hid, h0 | hid'⟩
      · exact .inl (by omega)
      · have := hlt (Fin.ext h0)
        exact .inl (by omega)
      · omega

/-- What a call mints is in the past of the generator after it. -/
theorem Call.past_minted (h : g.Call clock m) (hfit : m.overflows = false)
    (hid : m.result = .ok id) : m.generator.Past id := by
  rcases h.refused_or_minted hfit with ⟨⟨_, _, hr⟩, -⟩ | ⟨timestamp, hmax, -, -, hr, hg⟩
  · exact nomatch hr.symm.trans hid
  · obtain rfl := Except.ok.inj (hr.symm.trans hid)
    rw [hg]
    refine ⟨MessageId.node_pack hmax g.node.2 g.sequence.2, .inr ⟨?_, ?_⟩⟩
    · exact MessageId.timestamp_pack hmax g.node.2 g.sequence.2
    · rw [MessageId.sequence_pack hmax g.node.2 g.sequence.2]
      exact sequence_succ g.sequence

/-! ## Runs -/

/-- The calls of a run, one after the other, each with what the clock shows while it goes on. A call
that waits for ever keeps all later ones waiting. -/
def run (g : Generator) : List Clock → List Minting
  | [] => []
  | clock :: clocks =>
    match g.mint clock with
    | none => []
    | some m => m :: m.generator.run clocks

/-- The generator after some calls, `none` if one of them waits for ever. -/
def afterAll (g : Generator) : List Clock → Option Generator
  | [] => some g
  | clock :: clocks => (g.mint clock).bind fun m => m.generator.afterAll clocks

theorem afterAll_cons_eq_some_iff {clocks : List Clock} :
    g.afterAll (clock :: clocks) = some g' ↔
      ∃ m, g.Call clock m ∧ m.generator.afterAll clocks = some g' := by
  simp only [afterAll, Option.bind_eq_some_iff, mint_eq_some_iff]

/-- Every call of a run is made on the generator that the calls before it leave. -/
theorem exists_afterAll_of_mem_run {clocks : List Clock} (hm : m ∈ g.run clocks) :
    ∃ (before : List Clock) (clock : Clock) (after : List Clock) (g' : Generator),
      clocks = before ++ clock :: after ∧ g.afterAll before = some g' ∧ g'.Call clock m := by
  induction clocks generalizing g with
  | nil => exact absurd hm List.not_mem_nil
  | cons clock clocks ih =>
    rw [run] at hm
    cases hfirst : g.mint clock with
    | none =>
      rw [hfirst] at hm
      exact absurd hm List.not_mem_nil
    | some first =>
      have hcall := mint_eq_some_iff.1 hfirst
      rw [hfirst] at hm
      rcases List.mem_cons.1 hm with rfl | hm
      · exact ⟨[], clock, clocks, g, rfl, rfl, hcall⟩
      · obtain ⟨before, clock', after, g', rfl, hafter, hcall'⟩ := ih hm
        exact ⟨clock :: before, clock', after, g', rfl,
          afterAll_cons_eq_some_iff.2 ⟨first, hcall, hafter⟩, hcall'⟩

/-- Calls leave the settings of a generator as they are. -/
theorem settings_afterAll {clocks : List Clock} (h : g.afterAll clocks = some g') :
    g'.epoch = g.epoch ∧ g'.tolerance = g.tolerance ∧ g'.node = g.node := by
  induction clocks generalizing g with
  | nil =>
    obtain rfl := Option.some.inj h
    exact ⟨rfl, rfl, rfl⟩
  | cons clock clocks ih =>
    obtain ⟨m, hcall, hafter⟩ := afterAll_cons_eq_some_iff.1 h
    obtain ⟨hepoch, htolerance, hnode⟩ := ih hafter
    exact ⟨hepoch.trans hcall.settings.1, htolerance.trans hcall.settings.2,
      hnode.trans hcall.node_eq⟩

/-- The identifiers that a run minted, in the order in which it did. -/
def minted (mintings : List Minting) : List MessageId :=
  mintings.filterMap (·.result.toOption)

@[simp] theorem minted_nil : minted [] = [] := rfl

theorem minted_cons_ok {ms : List Minting} (h : m.result = .ok id) :
    minted (m :: ms) = id :: minted ms := by
  simp [minted, h, Except.toOption]

theorem minted_cons_error {ms : List Minting} {e : MintError} (h : m.result = .error e) :
    minted (m :: ms) = minted ms := by
  simp [minted, h, Except.toOption]

/-- A run mints nothing that is not above what was minted before it. -/
theorem lt_of_mem_minted_run (clocks : List Clock) (hid : g.Past id)
    (hfit : ∀ m ∈ g.run clocks, m.overflows = false) :
    ∀ new ∈ minted (g.run clocks), id < new := by
  induction clocks generalizing g with
  | nil => simp [run]
  | cons clock clocks ih =>
    rw [run] at hfit ⊢
    cases hm : g.mint clock with
    | none => simp
    | some m =>
      simp only [hm, List.forall_mem_cons] at hfit
      obtain ⟨hpast, hlt⟩ := (mint_eq_some_iff.1 hm).lt_of_past hfit.1 hid
      have hrest := ih hpast hfit.2
      cases hr : m.result with
      | error e => rwa [minted_cons_error hr]
      | ok new =>
        rw [minted_cons_ok hr]
        exact List.forall_mem_cons.2 ⟨hlt new hr, hrest⟩

/-- **The identifiers of a run strictly increase**, whatever the generator's settings and first
sequence number and however the clock moves, as long as no timestamp overflows; none is minted
twice. -/
theorem minted_run_increasing (g : Generator) (clocks : List Clock)
    (hfit : ∀ m ∈ g.run clocks, m.overflows = false) :
    (minted (g.run clocks)).Pairwise (· < ·) ∧ (minted (g.run clocks)).Nodup := by
  suffices h : (minted (g.run clocks)).Pairwise (· < ·) from
    ⟨h, h.imp fun hlt heq => absurd (heq ▸ hlt) (UInt64.lt_irrefl _)⟩
  induction clocks generalizing g with
  | nil => simp [run]
  | cons clock clocks ih =>
    rw [run] at hfit ⊢
    cases hm : g.mint clock with
    | none => simp
    | some m =>
      simp only [hm, List.forall_mem_cons] at hfit
      have hrest := ih m.generator hfit.2
      cases hr : m.result with
      | error e => rwa [minted_cons_error hr]
      | ok id =>
        have hpast := (mint_eq_some_iff.1 hm).past_minted hfit.1 hr
        rw [minted_cons_ok hr]
        exact List.pairwise_cons.2 ⟨lt_of_mem_minted_run clocks hpast hfit.2, hrest⟩

/-- A run that wraps, waits, holds its timestamp after a step back and refuses a longer one. -/
theorem minted_run_increasing_across_wrap :
    (∀ m ∈ run ⟨0, 5, 10, 99, 4095⟩ [⟨100, []⟩, ⟨100, [100, 101]⟩, ⟨95, []⟩, ⟨50, []⟩, ⟨102, []⟩],
      m.overflows = false) ∧
    (minted (run ⟨0, 5, 10, 99, 4095⟩
      [⟨100, []⟩, ⟨100, [100, 101]⟩, ⟨95, []⟩, ⟨50, []⟩, ⟨102, []⟩])).Pairwise (· < ·) ∧
    minted (run ⟨0, 5, 10, 99, 4095⟩
        [⟨100, []⟩, ⟨100, [100, 101]⟩, ⟨95, []⟩, ⟨50, []⟩, ⟨102, []⟩]) =
      [.pack 100 5 4095, .pack 101 5 0, .pack 101 5 1, .pack 102 5 2] := by
  have hfit : ∀ m ∈ run ⟨0, 5, 10, 99, 4095⟩
      [⟨100, []⟩, ⟨100, [100, 101]⟩, ⟨95, []⟩, ⟨50, []⟩, ⟨102, []⟩], m.overflows = false := by
    decide
  exact ⟨hfit, (minted_run_increasing _ _ hfit).1, by decide⟩

end Generator

end ChatRelay

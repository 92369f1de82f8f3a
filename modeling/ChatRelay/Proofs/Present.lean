import ChatRelay.History
import ChatRelay.Proofs.Bucket
import ChatRelay.Proofs.Generator

/-!
# Timestamps and the present

An identifier's timestamp is never behind the clock, and it is ahead only while the last timestamp
is held because the clock stepped back. On a clock that has not stepped back the last timestamp is
not ahead (`Paced`), so that a message is stored in the present bucket. A step back over the start
of a bucket puts the present bucket behind the newest message, even where it is tolerated
(`bucket_of_minted`, `held_timestamp_hides_newest`).
-/

namespace ChatRelay

namespace Generator

variable {g : Generator} {clock : Clock} {m : Minting} {id : MessageId} {readings : List Millis}

/-! ## Clocks that do not step back -/

theorem elapsed_mono (g : Generator) {a b : Millis} (h : a ≤ b) : g.elapsed a ≤ g.elapsed b := by
  rw [UInt64.le_iff_toNat_le] at h
  simp only [elapsed]
  omega

/-- The last timestamp is not ahead of an instant that no reading was after. -/
def Paced (g : Generator) (readings : List Millis) : Prop :=
  ∀ instant, (∀ reading ∈ readings, reading ≤ instant) → g.last ≤ g.elapsed instant

theorem Paced.mono {more : List Millis} (h : g.Paced readings) (hmore : readings ⊆ more) :
    g.Paced more := fun instant hinstant =>
  h instant fun reading hreading => hinstant reading (hmore hreading)

/-- A generator starts with the last timestamp in the past and an epoch that a signed number can
hold. -/
theorem paced_setUp {config : GeneratorConfig} {host : Host} {now : Millis}
    (h : setUp config host now = .ok g) :
    g.Paced [now] ∧ g.epoch ≤ now ∧ g.epoch.toNat < 2 ^ 63 := by
  obtain ⟨hepoch, hpast, -, -, hlast, -⟩ := setUp_eq_ok h
  refine ⟨fun instant hinstant => ?_, hpast, ?_⟩
  · have hnow := hinstant now List.mem_cons_self
    rw [UInt64.le_iff_toNat_le] at hnow
    simp only [elapsed]
    omega
  · have hlt := config.epoch.toInt_lt
    rw [hepoch, Nat.toUInt64_eq, UInt64.toNat_ofNat']
    omega

/-- A call stamps no time that its clock has not shown. -/
theorem Call.paced (h : g.Call clock m) (hpaced : g.Paced readings) :
    m.generator.Paced (readings ++ clock.readings) := by
  intro instant hinstant
  have hlast := hpaced instant fun reading hreading =>
    hinstant reading (List.mem_append_left _ hreading)
  have hreading := g.elapsed_mono (hinstant m.reading (List.mem_append_right _ h.reading_mem))
  have hle := h.last_le
  have helapsed : m.generator.elapsed instant = g.elapsed instant := by
    rw [elapsed, elapsed, h.settings.1]
  omega

/-- Calls stamp no time that their clocks have not shown. -/
theorem paced_afterAll {clocks : List Clock} {g' : Generator} (h : g.afterAll clocks = some g')
    (hpaced : g.Paced readings) : g'.Paced (readings ++ clocks.flatMap Clock.readings) := by
  induction clocks generalizing g readings with
  | nil =>
    obtain rfl := Option.some.inj h
    rwa [List.flatMap_nil, List.append_nil]
  | cons clock clocks ih =>
    obtain ⟨m, hcall, hafter⟩ := afterAll_cons_eq_some_iff.1 h
    rw [List.flatMap_cons, ← List.append_assoc]
    exact ih hafter (hcall.paced hpaced)

/-- Every call of a run is made on a generator with the same settings, whose last timestamp comes
from before the run or from a reading of the run. -/
theorem exists_call_of_mem_run {clocks : List Clock} (hm : m ∈ g.run clocks) :
    ∃ (before : List Clock) (clock : Clock) (after : List Clock) (g' : Generator),
      clocks = before ++ clock :: after ∧ g'.Call clock m ∧ g'.epoch = g.epoch ∧
      g'.tolerance = g.tolerance ∧
      ∀ readings, g.Paced readings → g'.Paced (readings ++ before.flatMap Clock.readings) := by
  obtain ⟨before, clock, after, g', hclocks, hafter, hcall⟩ := exists_afterAll_of_mem_run hm
  obtain ⟨hepoch, htolerance, -⟩ := settings_afterAll hafter
  exact ⟨before, clock, after, g', hclocks, hcall, hepoch, htolerance, fun _ hpaced =>
    paced_afterAll hafter hpaced⟩

end Generator

/-! ## The bucket of the newest message -/

namespace BucketIndex

/-- The instant at which a bucket starts, in Unix milliseconds. -/
def startOf (index : BucketIndex) (bucket : Int) : Int :=
  index.epoch.toInt + bucket * index.size.toInt

/-- Two times lie in different buckets if a bucket starts between them. -/
theorem ediv_lt_ediv_iff {a b size : Int} (hsize : 0 < size) :
    a / size < b / size ↔ ∃ k, a < k * size ∧ k * size ≤ b := by
  constructor
  · intro h
    exact ⟨b / size, (Int.ediv_lt_iff_lt_mul hsize).1 h, Int.ediv_mul_le b (by omega)⟩
  · rintro ⟨k, ha, hb⟩
    exact Int.lt_of_lt_of_le ((Int.ediv_lt_iff_lt_mul hsize).2 ha)
      ((Int.le_ediv_iff_mul_le hsize).2 hb)

variable {index : BucketIndex}

theorem settings_forGenerator {g : Generator} {size : Int64}
    (h : forGenerator g size = .ok index) :
    index.size = size ∧ index.epoch = g.epoch.toInt64 := by
  rw [forGenerator, make] at h
  split at h
  · obtain rfl := Except.ok.inj h
    exact ⟨rfl, rfl⟩
  · exact nomatch h

/-- The bucket of an instant is before that of a timestamp that is ahead of it exactly if a bucket
starts in the time between the two. -/
theorem atInstant_lt_ofId_iff {g : Generator} (hepoch : index.epoch = g.epoch.toInt64)
    (hsmall : g.epoch.toNat < 2 ^ 63) (instant : Millis) (id : MessageId)
    (hahead : g.elapsed instant ≤ id.timestamp) :
    (index.atInstant instant).toInt ≤ (index.ofId id).toInt ∧
      ((index.atInstant instant).toInt < (index.ofId id).toInt ↔ ∃ bucket,
        (instant.toNat : Int) < index.startOf bucket ∧ index.startOf bucket ≤ g.unixMillis id) := by
  have htimestamp := id.timestamp_le
  rw [Generator.elapsed] at hahead
  have hrelative : (index.relative instant).toInt = instant.toNat - g.epoch.toNat :=
    index.toInt_relative hepoch (by omega) (by omega)
  have hstart : index.epoch.toInt = g.epoch.toNat := by
    rw [hepoch, toInt_toInt64]
    exact Int.bmod_eq_of_le (by omega) (by omega)
  rw [atInstant, toInt_ofTimestamp, toInt_ofId, hrelative, ediv_lt_ediv_iff index.size_toInt_pos]
  refine ⟨Int.ediv_le_ediv index.size_toInt_pos (by omega), exists_congr fun bucket => ?_⟩
  rw [startOf, hstart, Generator.unixMillis]
  generalize bucket * index.size.toInt = offset
  omega

section Minted

variable {config : GeneratorConfig} {host : Host} {now : Millis} {g : Generator} {size : Int64}
  {clocks : List Clock} {m : Minting} {id : MessageId}

/-- **A minted message is never stored behind the present bucket, and ahead of it only across a step
back of the clock.** Its bucket is ahead of the present one, as the clock shows it right after the
call, exactly if a bucket starts after the present instant and not after the instant in the
identifier, which is ahead by no more than the tolerance, or than the clock is behind the epoch.
Where the clock is not behind that instant, as on a clock that never steps back, the two buckets are
the same. A history of the newest messages starts in the present bucket. -/
theorem bucket_of_minted (hsetUp : Generator.setUp config host now = .ok g)
    (hindex : forGenerator g size = .ok index) (hm : m ∈ g.run clocks)
    (hid : m.result = .ok id) :
    index.atInstant m.reading ≤ index.ofId id ∧
    (index.atInstant m.reading < index.ofId id ↔ ∃ bucket,
      (m.reading.toNat : Int) < index.startOf bucket ∧
        index.startOf bucket ≤ g.unixMillis id) ∧
    g.unixMillis id ≤ max m.reading.toNat g.epoch.toNat + g.tolerance.toNat ∧
    (g.unixMillis id ≤ m.reading.toNat → index.ofId id = index.atInstant m.reading) ∧
    ((now :: clocks.flatMap Clock.readings).Pairwise (· ≤ ·) →
      g.unixMillis id = m.reading.toNat) ∧
    ∀ h : History, h.index = index →
      (h.firstQuestion m.reading {}).bucket = index.atInstant m.reading := by
  obtain ⟨hpaced, hpast, hsmall⟩ := Generator.paced_setUp hsetUp
  obtain ⟨before, clock, after, g', rfl, hcall, hepoch, htolerance, hpaced'⟩ :=
    Generator.exists_call_of_mem_run hm
  obtain ⟨htimestamp, hbehind, -⟩ := hcall.timestamp_of_ok hid
  have helapsed (instant : Millis) : g'.elapsed instant = g.elapsed instant := by
    rw [Generator.elapsed, Generator.elapsed, hepoch]
  rw [helapsed] at htimestamp hbehind
  rw [htolerance] at hbehind
  obtain ⟨hle, hlt⟩ :=
    atInstant_lt_ofId_iff (settings_forGenerator hindex).2 hsmall m.reading id (by omega)
  rw [← Int64.le_iff_toInt_le] at hle
  rw [← Int64.lt_iff_toInt_lt] at hlt
  refine ⟨hle, hlt, ?_, fun hnow => ?_, fun hsteady => ?_, fun h hindex => hindex ▸ rfl⟩
  · clear hle hlt
    rw [Generator.elapsed] at htimestamp hbehind
    rw [Generator.unixMillis]
    omega
  · have hnot : ¬index.atInstant m.reading < index.ofId id := by
      rw [hlt]
      rintro ⟨bucket, hbelow, habove⟩
      omega
    rw [Int64.lt_iff_toInt_lt] at hnot
    rw [Int64.le_iff_toInt_le] at hle
    exact Int64.toInt_inj.1 (by omega)
  · -- no reading before this one was after it, so that the last timestamp is not ahead
    have hbefore : ∀ r ∈ [now] ++ before.flatMap Clock.readings, r ≤ m.reading := by
      rw [List.flatMap_append, List.flatMap_cons, ← List.cons_append, List.pairwise_append]
        at hsteady
      intro r hr
      exact hsteady.2.2 r hr m.reading (List.mem_append_left _ hcall.reading_mem)
    have hlast := hpaced' _ hpaced m.reading hbefore
    have hnow := hbefore now List.mem_cons_self
    clear hle hlt
    rw [UInt64.le_iff_toNat_le] at hpast hnow
    rw [helapsed] at hlast
    rw [Generator.unixMillis, htimestamp, Nat.max_eq_left hlast, Generator.elapsed]
    omega

end Minted

/-! ## A step back over the start of a bucket -/

/-- Node one, from instant 1000 on. -/
def fromFirstSecond : Generator :=
  { epoch := 0, node := ⟨1, MessageId.one_lt_nodeCount⟩, tolerance := 1000, last := 999
    sequence := ⟨1, MessageId.one_lt_sequenceCount⟩ }

/-- Buckets of a second. -/
def inSeconds : BucketIndex := { size := 1000, epoch := 0, size_pos := second_pos }

/-- A message of the instant 1000, and one for which this timestamp is held while the clock shows
999. -/
def acrossStart : List Minting :=
  fromFirstSecond.run [⟨1000, []⟩, ⟨999, []⟩]

/-- A tolerated step back hides the newest message: the clock goes back by a millisecond over the
start of bucket one, where the message is stored, and a history of the newest messages starts in
bucket zero. -/
theorem held_timestamp_hides_newest :
    Generator.setUp { node := .explicit 1 } { firstSequence := 1 } 1000 = .ok fromFirstSecond ∧
      forGenerator fromFirstSecond 1000 = .ok inSeconds ∧
      ∃ m ∈ acrossStart, m.result = .ok (.pack 1000 1 2) ∧
        ¬inSeconds.ofId (.pack 1000 1 2) ≤ inSeconds.atInstant m.reading ∧
        ∀ h : History, h.index = inSeconds →
          ¬inSeconds.ofId (.pack 1000 1 2) ≤ (h.firstQuestion m.reading {}).bucket := by
  refine ⟨rfl, rfl, acrossStart[1], List.getElem_mem _, rfl, by decide, fun h hindex => ?_⟩
  show ¬inSeconds.ofId (.pack 1000 1 2) ≤ h.index.atInstant acrossStart[1].reading
  rw [hindex]
  decide

/-- What the general statement says of the second message: bucket one starts between the instant
that the clock shows and the one that the identifier has. -/
theorem bucket_of_minted_across_start :
    ∃ m ∈ acrossStart, m.result = .ok (.pack 1000 1 2) ∧
      (∃ bucket, (m.reading.toNat : Int) < inSeconds.startOf bucket ∧
        inSeconds.startOf bucket ≤ fromFirstSecond.unixMillis (.pack 1000 1 2)) ∧
      fromFirstSecond.unixMillis (.pack 1000 1 2) ≤ 1999 := by
  have hsetUp : Generator.setUp { node := .explicit 1 } { firstSequence := 1 } 1000 =
      .ok fromFirstSecond := rfl
  have hindex : forGenerator fromFirstSecond 1000 = .ok inSeconds := rfl
  have hm : acrossStart[1] ∈ fromFirstSecond.run [⟨1000, []⟩, ⟨999, []⟩] := List.getElem_mem _
  have hid : acrossStart[1].result = .ok (.pack 1000 1 2) := rfl
  obtain ⟨-, hlt, hahead, -⟩ := bucket_of_minted hsetUp hindex hm hid
  exact ⟨acrossStart[1], hm, hid, hlt.1 (by decide), hahead⟩

end BucketIndex

end ChatRelay

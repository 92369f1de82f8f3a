import ChatRelay.Proofs.Generator

/-!
# Nodes and what they mint

Whatever a node's identifier comes from, it takes no more than the ten bits that it has in an
identifier of a message (`NodeSource.gives_of_resolve`), and a generator keeps the node that it was
set up with. So an identifier tells what its call was about, the node included, and generators of
different nodes have no identifier in common, whatever their clocks and epochs are
(`minted_fields`).
-/

namespace ChatRelay

namespace Interface

/-- The node of an address is what a mask leaves of its hash. -/
theorem nodeOfAddress_eq_and (text : String) :
    (nodeOfAddress text : Nat) = (fnv1a text.toUTF8.toList &&& 1023).toNat := by
  rw [UInt32.toNat_and]
  rfl

/-- A node that interfaces stand for is the hash of an address. -/
theorem exists_address_of_node? {interfaces : List Interface} {node : NodeId}
    (h : node? interfaces = some node) :
    ∃ interface ∈ interfaces, ∃ text, interface.digits? = some text ∧
      node = nodeOfAddress text := by
  obtain ⟨text, htext, rfl⟩ := Option.map_eq_some_iff.1 h
  obtain ⟨interface, hmem, hdigits⟩ := List.exists_of_findSome?_eq_some htext
  exact ⟨interface, List.mem_mergeSort.1 hmem, text, hdigits, rfl⟩

end Interface

namespace NodeSource

/-- What a source can stand for on a host: a number that is given, the last ten bits of the hash of
an interface's address, or those of the number that was drawn. -/
def Gives (host : Host) (node : Nat) : NodeSource → Prop
  | explicit given => node = given.toNat
  | networkInterface => ∃ interfaces, host.interfaces = .ok interfaces ∧
      ∃ interface ∈ interfaces, ∃ text, interface.digits? = some text ∧
        node = (Interface.fnv1a text.toUTF8.toList &&& 1023).toNat
  | random => node = (host.randomNode &&& 1023).toNat

theorem gives_of_resolve {source : NodeSource} {host : Host} {node : NodeId}
    (h : source.resolve host = .ok node) : source.Gives host node := by
  cases source with
  | explicit given =>
    rw [resolve] at h
    split at h
    · exact congrArg Fin.val (Except.ok.inj h).symm
    · exact nomatch h
  | networkInterface =>
    rw [resolve] at h
    cases hinterfaces : host.interfaces with
    | error cause =>
      rw [hinterfaces] at h
      exact nomatch h
    | ok interfaces =>
      cases hnode : Interface.node? interfaces with
      | none =>
        simp only [hinterfaces, hnode] at h
        exact nomatch h
      | some found =>
        simp only [hinterfaces, hnode] at h
        obtain rfl := Except.ok.inj h
        obtain ⟨interface, hmem, text, hdigits, rfl⟩ := Interface.exists_address_of_node? hnode
        exact ⟨interfaces, hinterfaces, interface, hmem, text, hdigits,
          Interface.nodeOfAddress_eq_and text⟩
  | random =>
    obtain rfl := Except.ok.inj h
    exact (UInt16.toNat_and host.randomNode 1023).symm

end NodeSource

namespace Generator

variable {g : Generator} {clock : Clock} {m : Minting} {id : MessageId}

/-- The timestamp of what a call mints is the one that the call leaves as the last one, that of its
last reading or the one that was held. -/
theorem Call.eq_pack (h : g.Call clock m) (hid : m.result = .ok id) :
    m.generator.last ≤ MessageId.maxTimestamp ∧
      m.generator.last = max (g.elapsed m.reading) g.last ∧
      id = .pack m.generator.last g.node g.sequence := by
  obtain ⟨htimestamp, -, -, hmax, hlast⟩ := h.timestamp_of_ok hid
  obtain ⟨timestamp, -, hpack, hg⟩ := h.minted_of_ok hid
  have hstamped : m.generator.last = timestamp := by rw [hg]
  exact ⟨by rwa [hlast], by rwa [hlast], by rwa [hstamped]⟩

/-- A generator mints for its own node only. -/
theorem node_of_mem_minted_run {clocks : List Clock} (hid : id ∈ minted (g.run clocks)) :
    id.node = g.node := by
  obtain ⟨m, hm, hminted⟩ := List.mem_filterMap.1 hid
  obtain ⟨before, clock, after, g', -, hafter, hcall⟩ := exists_afterAll_of_mem_run hm
  have hresult : m.result = .ok id := by
    cases hr : m.result with
    | error e =>
      rw [hr] at hminted
      exact nomatch hminted
    | ok id' =>
      rw [hr] at hminted
      exact congrArg Except.ok (Option.some.inj hminted)
  obtain ⟨hmax, -, rfl⟩ := hcall.eq_pack hresult
  rw [MessageId.node_pack hmax g'.node.isLt g'.sequence.isLt, (settings_afterAll hafter).2.2]

variable {config : GeneratorConfig} {host : Host} {now : Millis}

/-- **An identifier tells its call apart from all others.** Whatever a generator was set up with and
whatever calls came before, the first bit of what a call mints is zero, and below it stand the
timestamp that the call chose, the generator's node and the sequence number that was next, each in
bits of its own, so that they can be read off again. The node is the one that its source stands for
and takes ten bits. So generators of different nodes never mint the same identifier. -/
theorem minted_fields (hsetUp : setUp config host now = .ok g) :
    config.node.Gives host g.node ∧ (g.node : Nat) ≤ 1023 ∧
    (∀ clocks g' clock m id, g.afterAll clocks = some g' → g'.mint clock = some m →
      m.result = .ok id →
        id.toNat.testBit 63 = false ∧
        m.generator.last = max (g'.elapsed m.reading) g'.last ∧
        id = UInt64.ofNat m.generator.last <<< 22 ||| UInt64.ofNat g.node <<< 12 |||
          UInt64.ofNat g'.sequence ∧
        id.decompose =
          { timestamp := m.generator.last, node := g.node, sequence := g'.sequence }) ∧
    ∀ other : Generator, other.node ≠ g.node → ∀ clocks clocks',
      ∀ id ∈ minted (g.run clocks), id ∉ minted (other.run clocks') := by
  obtain ⟨-, -, hnode, -⟩ := setUp_eq_ok hsetUp
  refine ⟨NodeSource.gives_of_resolve hnode, Nat.le_of_lt_succ g.node.isLt, ?_, ?_⟩
  · intro clocks g' clock m id hafter hmint hid
    obtain ⟨hmax, htimestamp, rfl⟩ := (mint_eq_some_iff.1 hmint).eq_pack hid
    rw [← (settings_afterAll hafter).2.2]
    exact ⟨MessageId.testBit_pack hmax g'.node.isLt g'.sequence.isLt, htimestamp,
      MessageId.pack_eq_or hmax g'.node.isLt g'.sequence.isLt,
      MessageId.decompose_pack hmax g'.node.isLt g'.sequence.isLt⟩
  · intro other hother clocks clocks' id hid hid'
    apply hother
    apply Fin.ext
    rw [← node_of_mem_minted_run hid, ← node_of_mem_minted_run hid']

/-- Two interfaces, of which the second is the loopback interface. -/
def wires : List Interface :=
  [⟨"eth0", some "0A:1b".toUTF8.toList⟩, ⟨"lo", some "00:00".toUTF8.toList⟩]

/-- A host with these interfaces, on which the sequence number comes round at once. -/
def wired : Host where
  interfaces := .ok wires
  randomNode := 0xFFFF
  firstSequence := 0xFFFF

/-- What has been set up on it. -/
def wiredGenerator : Generator where
  epoch := 50
  node := ⟨505, by decide⟩
  tolerance := 1000
  last := 49
  sequence := Fin.last 4095

theorem setUp_wired : setUp { epoch := 50 } wired 100 = .ok wiredGenerator := by
  have hsorted : wires.mergeSort (fun a b => a.name ≤ b.name) = wires :=
    List.mergeSort_of_pairwise (by decide +kernel)
  have hdigits : wires.findSome? Interface.digits? = some "0a1b" := by decide +kernel
  have hhash : Interface.nodeOfAddress "0a1b" = wiredGenerator.node := by decide +kernel
  have hnode : Interface.node? wires = some wiredGenerator.node := by
    rw [Interface.node?, hsorted, hdigits, Option.map_some, hhash]
  have hresolve : NodeSource.networkInterface.resolve wired = .ok wiredGenerator.node := by
    simp only [NodeSource.resolve, wired, hnode]
  rw [setUp, hresolve]
  rfl

/-- What the general statement says of the second identifier that is minted there, in the same
millisecond as the first, and of a generator on another node that sees the same clock. -/
theorem minted_fields_wired :
    setUp { epoch := 50 } wired 100 = .ok wiredGenerator ∧
      MessageId.decompose (.pack 51 505 0) = { timestamp := 51, node := 505, sequence := 0 } ∧
      (MessageId.pack 51 505 0).toNat.testBit 63 = false ∧
      ∀ id ∈ minted (wiredGenerator.run [⟨100, []⟩, ⟨100, [101]⟩]),
        id ∉ minted
          (({ wiredGenerator with node := 5 } : Generator).run [⟨100, []⟩, ⟨100, [101]⟩]) := by
  obtain ⟨-, -, hfields, hdisjoint⟩ := minted_fields setUp_wired
  have hafter : wiredGenerator.afterAll [⟨100, []⟩] =
      some { wiredGenerator with last := 50, sequence := 0 } := rfl
  have hmint : ({ wiredGenerator with last := 50, sequence := 0 } : Generator).mint ⟨100, [101]⟩ =
      some { result := .ok (.pack 51 505 0)
             generator := { wiredGenerator with last := 51, sequence := 1 }
             reading := 101, unread := [] } := rfl
  obtain ⟨hbit, -, -, hdecompose⟩ := hfields _ _ _ _ _ hafter hmint rfl
  exact ⟨setUp_wired, hdecompose, hbit, hdisjoint _ (by decide) _ _⟩

end Generator

end ChatRelay

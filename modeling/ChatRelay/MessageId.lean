/-!
# Message identifiers

An identifier is a 64-bit number with three fields, from the most significant bit on: a timestamp
in milliseconds since an epoch that all its readers share, the node that minted it (ten bits) and a
sequence number (twelve bits). A minted timestamp takes at most forty-one bits, so the first bit of
a minted identifier is zero; any 64-bit number can be taken apart, and then the timestamp has up to
forty-two.

Identifiers are compared as numbers, that is by timestamp, then by node, then by sequence.
-/

namespace ChatRelay

/-- An identifier of a message. -/
abbrev MessageId := UInt64

/-- A node that mints identifiers. -/
abbrev NodeId := Fin 1024

/-- The sequence number of an identifier. It counts on from its largest value to zero. -/
abbrev Sequence := Fin 4096

/-- The node that the low ten bits of a number stand for. -/
def NodeId.ofLowBits (n : Nat) : NodeId := ⟨n &&& 0x3FF, Nat.lt_succ_of_le Nat.and_le_right⟩

/-- The sequence number that the low twelve bits of a number stand for. -/
def Sequence.ofLowBits (n : Nat) : Sequence := ⟨n &&& 0xFFF, Nat.lt_succ_of_le Nat.and_le_right⟩

namespace MessageId

/-- The number of nodes, that is of values of the second field. -/
def nodeCount : Nat := 1024

/-- The number of values of the last field. -/
def sequenceCount : Nat := 4096

/-- The largest timestamp that can be minted, of forty-one bits. -/
def maxTimestamp : Nat := 0x1FFFFFFFFFF

/-- The fields of an identifier. -/
structure Parts where
  timestamp : Nat
  node : Nat
  sequence : Nat
  deriving DecidableEq, Repr

/-- The identifier with the given fields. -/
def pack (timestamp node sequence : Nat) : MessageId :=
  UInt64.ofNat ((timestamp * nodeCount + node) * sequenceCount + sequence)

/-- Milliseconds since the epoch. -/
def timestamp (id : MessageId) : Nat := id.toNat / sequenceCount / nodeCount

/-- The node that minted the identifier. -/
def node (id : MessageId) : Nat := id.toNat / sequenceCount % nodeCount

/-- The sequence number. -/
def sequence (id : MessageId) : Nat := id.toNat % sequenceCount

/-- The fields of an identifier. -/
def decompose (id : MessageId) : Parts :=
  { timestamp := id.timestamp, node := id.node, sequence := id.sequence }

/-- A timestamp has at most forty-two bits. -/
theorem timestamp_le (id : MessageId) : id.timestamp ≤ 0x3FFFFFFFFFF := by
  have := id.toNat_lt
  simp only [timestamp, nodeCount, sequenceCount]
  omega

end MessageId

end ChatRelay

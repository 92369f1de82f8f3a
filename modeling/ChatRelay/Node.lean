import ChatRelay.MessageId
import ChatRelay.Clock
import ChatRelay.Net.Address
import ChatRelay.Text.Hex
import ChatRelay.Text.Utf8

/-!
# Nodes

A node's identifier is given, drawn at random, or derived from the hardware address of the host's
first network interface that has one. Interfaces are taken in the order of the octets of their
names, so the outcome does not depend on the order in which the host lists them.
-/

namespace ChatRelay

/-- The name of a network interface. A host may use any octets in it; a text is the name with its
octets in UTF-8. -/
structure InterfaceName where
  octets : List UInt8
  deriving DecidableEq, Repr

namespace InterfaceName

instance : Coe String InterfaceName where
  coe text := { octets := text.toUTF8.toList }

/-- Names are compared octet by octet. -/
instance : LE InterfaceName where
  le a b := a.octets ≤ b.octets

instance (a b : InterfaceName) : Decidable (a ≤ b) :=
  inferInstanceAs (Decidable (a.octets ≤ b.octets))

end InterfaceName

/-- A network interface: its name, and the octets of its hardware address as the host writes it, if
they can be read. -/
structure Interface where
  name : InterfaceName
  address : Option (List UInt8)
  deriving DecidableEq, Repr

/-- What the host supplies to a node that starts. -/
structure Host where
  /-- Its network interfaces, or why they cannot be listed. -/
  interfaces : Except String (List Interface) := .ok []
  /-- What is drawn for a random node. -/
  randomNode : UInt16 := 0
  /-- What is drawn for the first sequence number. -/
  firstSequence : UInt16 := 0
  /-- Binds a socket to an address, or says why it cannot be bound. -/
  bind : Net.SocketAddress → Except String Unit := fun _ => .ok ()

/-- Why a generator of identifiers cannot be set up. -/
inductive SetupError where
  | nodeOutOfRange (node : UInt16)
  | negativeEpoch (epoch : Int64)
  | epochInFuture (epoch now : Millis)
  | noHardwareAddress
  /-- The host says why. -/
  | interfacesUnreadable (cause : String)
  deriving DecidableEq, Repr

/-- The wording of an error. -/
def SetupError.message : SetupError → String
  | nodeOutOfRange node => s!"Node id {node} exceeds the maximum value of 1023"
  | negativeEpoch epoch => s!"Custom epoch cannot be negative: {epoch}"
  | epochInFuture epoch now => s!"Custom epoch {epoch} is ahead of the clock ({now})"
  | noHardwareAddress => "Could not derive node id: no hardware address found"
  | interfacesUnreadable cause => s!"Unable to read network interfaces: {cause}"

/-- Where a node's identifier comes from. -/
inductive NodeSource where
  | explicit (node : UInt16)
  | networkInterface
  | random
  deriving DecidableEq, Repr

namespace Interface

/-- The 32-bit FNV-1a hash of some octets. -/
def fnv1a (octets : List UInt8) : UInt32 :=
  octets.foldl (fun hash octet => (hash ^^^ octet.toUInt32) * 0x01000193) 0x811c9dc5

/-- The node that a hardware address stands for: the low ten bits of the hash of its text. -/
def nodeOfAddress (text : String) : NodeId :=
  .ofLowBits (fnv1a text.toUTF8.toList).toNat

/-- The hexadecimal digits of a text, in lower case. -/
def addressDigits (text : String) : String :=
  String.ofList ((text.toList.filter Hex.isDigit).map Char.toLower)

/-- The digits of an interface's hardware address, unless it is the loopback interface, its address
cannot be read as text, or the address has no digit but zeros. -/
def digits? (interface : Interface) : Option String :=
  if interface.name = "lo" then none
  else
    match interface.address.bind Utf8.text? with
    | none => none
    | some text =>
      let digits := addressDigits text
      if digits.toList.all (· = '0') then none else some digits

/-- The node derived from a host's interfaces. -/
def node? (interfaces : List Interface) : Option NodeId :=
  ((interfaces.mergeSort fun a b => a.name ≤ b.name).findSome? digits?).map nodeOfAddress

end Interface

namespace NodeSource

/-- The node that a source stands for on a host. -/
def resolve (host : Host) : NodeSource → Except SetupError NodeId
  | explicit node =>
    if h : node.toNat < 1024 then .ok ⟨node.toNat, h⟩ else .error (.nodeOutOfRange node)
  | networkInterface =>
    match host.interfaces with
    | .error cause => .error (.interfacesUnreadable cause)
    | .ok interfaces =>
      match Interface.node? interfaces with
      | some node => .ok node
      | none => .error .noHardwareAddress
  | random => .ok (.ofLowBits host.randomNode.toNat)

end NodeSource

end ChatRelay

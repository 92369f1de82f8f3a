import ChatRelay.Text.Decimal
import ChatRelay.Text.Hex

/-!
# Socket addresses

IPv4 and IPv6 addresses with a port, as text. Numerals of an IPv4 address have no leading zeros;
an IPv6 address may leave out one run of zero groups and may end in an IPv4 address; a scope is a
number. The written form leaves out the longest run of at least two zero groups, the first one if
several are longest.
-/

namespace ChatRelay.Net

/-- An IPv4 address as its four octets. -/
structure Ipv4 where
  octets : Vector Nat 4
  deriving DecidableEq, Repr

/-- An IPv6 address as its eight groups of sixteen bits. -/
structure Ipv6 where
  groups : Vector Nat 8
  deriving DecidableEq, Repr

/-- An address that a socket is bound to. -/
inductive SocketAddress where
  | v4 (ip : Ipv4) (port : UInt16)
  | v6 (ip : Ipv6) (scope : UInt32) (port : UInt16)
  deriving DecidableEq, Repr

/-! ## Reading

A reader takes what it needs from the front of a text and gives back the rest. -/

/-- Reads the numeral at the front of a text: digits of which `value?` gives the value, at least
one and at most `width` of them, below `bound`. -/
def readNumber (radix : Nat) (value? : Char → Option Nat) (width : Option Nat)
    (leadingZeros : Bool) (bound : Nat) (cs : List Char) : Option (Nat × List Char) :=
  let digits := cs.takeWhile fun c => (value? c).isSome
  let n := digits.foldl (fun n c => radix * n + (value? c).getD 0) 0
  if digits = [] then none
  else if n ≥ bound then none
  else if width.any (· < digits.length) then none
  else if !leadingZeros ∧ digits.head? = some '0' ∧ digits.length > 1 then none
  else some (n, cs.drop digits.length)

/-- The value of a decimal digit. -/
def decimalValue? (c : Char) : Option Nat :=
  if c.isDigit then some (Decimal.digitValue c) else none

/-- Reads one character. -/
def readChar (c : Char) : List Char → Option (List Char)
  | d :: rest => if c = d then some rest else none
  | [] => none

/-- Reads a decimal numeral below `bound` that may have leading zeros. -/
def readDecimal (bound : Nat) : List Char → Option (Nat × List Char) :=
  readNumber 10 decimalValue? none true bound

/-- Reads an octet of an IPv4 address. -/
def readOctet : List Char → Option (Nat × List Char) :=
  readNumber 10 decimalValue? (some 3) false 256

/-- Reads an IPv4 address. -/
def readIpv4 (cs : List Char) : Option (Ipv4 × List Char) := do
  let (a, cs) ← readOctet cs
  let (b, cs) ← readOctet (← readChar '.' cs)
  let (c, cs) ← readOctet (← readChar '.' cs)
  let (d, cs) ← readOctet (← readChar '.' cs)
  pure (⟨#v[a, b, c, d]⟩, cs)

/-- Reads a group of an IPv6 address. -/
def readGroup : List Char → Option (Nat × List Char) :=
  readNumber 16 Hex.value? (some 4) true 65536

/-- What stands before an item: a colon, unless it is the first. -/
def readColon (isFirst : Bool) (cs : List Char) : Option (List Char) :=
  if isFirst then some cs else readChar ':' cs

/-- Reads at most `limit` groups joined by colons. An IPv4 address counts for the last two groups
and ends them. The flag tells whether there was one. -/
def readGroups (isFirst : Bool) : (limit : Nat) → List Char → List Nat × Bool × List Char
  | 0, cs => ([], false, cs)
  | limit + 1, cs =>
    let ipv4 := if limit = 0 then none else (readColon isFirst cs).bind readIpv4
    match ipv4 with
    | some (⟨octets⟩, rest) =>
      ([octets[0] * 256 + octets[1], octets[2] * 256 + octets[3]], true, rest)
    | none =>
      match (readColon isFirst cs).bind readGroup with
      | some (group, rest) =>
        let (groups, hasIpv4, rest) := readGroups false limit rest
        (group :: groups, hasIpv4, rest)
      | none => ([], false, cs)

/-- The address of at most eight groups. -/
def Ipv6.ofGroups (groups : List Nat) : Ipv6 :=
  ⟨Vector.ofFn fun i : Fin 8 => groups.getD i 0⟩

/-- Reads an IPv6 address: eight groups, or fewer with `::` for the missing ones. -/
def readIpv6 (cs : List Char) : Option (Ipv6 × List Char) := do
  let (front, hasIpv4, rest) := readGroups true 8 cs
  if front.length = 8 then some (.ofGroups front, rest)
  else if hasIpv4 then none
  else
    let rest ← readChar ':' rest
    let rest ← readChar ':' rest
    let (back, _, rest) := readGroups true (7 - front.length) rest
    let missing := List.replicate (8 - front.length - back.length) 0
    some (.ofGroups (front ++ missing ++ back), rest)

/-- Reads a port. -/
def readPort (cs : List Char) : Option (UInt16 × List Char) := do
  let (port, rest) ← readDecimal UInt16.size (← readChar ':' cs)
  pure (port.toUInt16, rest)

/-- Reads the scope of an IPv6 address, zero if there is none. -/
def readScope (cs : List Char) : UInt32 × List Char :=
  match (readChar '%' cs).bind (readDecimal UInt32.size) with
  | some (scope, rest) => (scope.toUInt32, rest)
  | none => (0, cs)

/-- Reads an IPv4 address and a port. -/
def readSocketV4 (cs : List Char) : Option (SocketAddress × List Char) := do
  let (ip, rest) ← readIpv4 cs
  let (port, rest) ← readPort rest
  pure (.v4 ip port, rest)

/-- Reads an IPv6 address in brackets and a port. -/
def readSocketV6 (cs : List Char) : Option (SocketAddress × List Char) := do
  let (ip, rest) ← readIpv6 (← readChar '[' cs)
  let (scope, rest) := readScope rest
  let (port, rest) ← readPort (← readChar ']' rest)
  pure (.v6 ip scope port, rest)

namespace SocketAddress

/-- Reads a socket address that is the whole of a text. -/
def ofText? (text : String) : Option SocketAddress :=
  match (readSocketV4 text.toList).or (readSocketV6 text.toList) with
  | some (address, []) => some address
  | _ => none

end SocketAddress

/-! ## Writing -/

/-- Octets in the dotted form. -/
def dotted (octets : List Nat) : String := ".".intercalate (octets.map Nat.repr)

/-- The written form. -/
def Ipv4.text (ip : Ipv4) : String := dotted ip.octets.toList

/-- The number of zero groups at the front of a list. -/
def zeroRun (groups : List Nat) : Nat :=
  (groups.takeWhile (· == 0)).length

/-- The first longest run of zero groups: its start, counted from `start`, and its length. -/
def longestZeroRun (start : Nat) : List Nat → Nat × Nat
  | [] => (start, 0)
  | group :: groups =>
    let here := zeroRun (group :: groups)
    let later := longestZeroRun (start + 1) groups
    if later.2 ≤ here then (start, here) else later

/-- Groups joined by colons. -/
def groupsText (groups : List Nat) : String :=
  ":".intercalate (groups.map fun group => String.ofList (Hex.numeral group))

/-- The written form. An address that stands for an IPv4 address ends in its dotted form. -/
def Ipv6.text (ip : Ipv6) : String :=
  let groups := ip.groups.toList
  if groups.take 6 = [0, 0, 0, 0, 0, 0xFFFF] then
    "::ffff:" ++ dotted ((groups.drop 6).flatMap fun group => [group / 256, group % 256])
  else
    let (start, length) := longestZeroRun 0 groups
    if length > 1 then
      groupsText (groups.take start) ++ "::" ++ groupsText (groups.drop (start + length))
    else groupsText groups

namespace SocketAddress

/-- The written form. The scope zero is not written. -/
def text : SocketAddress → String
  | v4 ip port => ip.text ++ ":" ++ toString port
  | v6 ip scope port =>
    let host := if scope = 0 then ip.text else ip.text ++ "%" ++ toString scope
    "[" ++ host ++ "]:" ++ toString port

end SocketAddress

end ChatRelay.Net

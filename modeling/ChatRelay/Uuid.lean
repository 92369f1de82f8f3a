import ChatRelay.Text.Hex
import ChatRelay.Text.Decimal
import Std.Data.ExtTreeMap

/-!
# UUIDs

A UUID is a 128-bit number, written as thirty-two hexadecimal digits in groups of
8-4-4-4-12. The digits carry the fields: the thirteenth is the version, and the time-based versions
1, 6 and 7 hold a timestamp, in two scrambled orders of sixty-bit Gregorian ticks and as
milliseconds of Unix time.
-/

namespace ChatRelay

/-- An instant of Unix time: whole seconds, and the nanoseconds after them. -/
structure UnixTime where
  seconds : UInt64
  nanos : UInt32
  deriving DecidableEq, Repr

namespace UnixTime

/-- The instant some milliseconds after the start of 1970. -/
def ofMillis (millis : Nat) : UnixTime where
  seconds := (millis / 1000).toUInt64
  nanos := (millis % 1000 * 1000000).toUInt32

/-- The instant some ticks of 100 nanoseconds after the start of 1970. -/
def ofTicks (ticks : Nat) : UnixTime where
  seconds := (ticks / 10000000).toUInt64
  nanos := (ticks % 10000000 * 100).toUInt32

end UnixTime

/-- A 128-bit identifier. -/
structure Uuid where
  bits : BitVec 128
  deriving DecidableEq, Repr

namespace Uuid

/-- Identifiers are ordered as numbers. -/
instance : Ord Uuid := ⟨fun a b => compare a.bits b.bits⟩

instance : Std.TransOrd Uuid where
  eq_swap {a b} := Std.OrientedOrd.eq_swap (a := a.bits) (b := b.bits)
  isLE_trans {a b c} := Std.TransOrd.isLE_trans (a := a.bits) (b := b.bits) (c := c.bits)

instance : Std.LawfulEqOrd Uuid where
  compare_self {a} := Std.ReflOrd.compare_self (a := a.bits)
  eq_of_compare {a b} h := by
    have := Std.LawfulEqOrd.eq_of_compare (a := a.bits) (b := b.bits) h
    cases a; cases b; simp_all

/-- The UUID of a number, modulo 2 ^ 128. -/
def ofNat (n : Nat) : Uuid := ⟨BitVec.ofNat 128 n⟩

/-- The number written by the `count` hexadecimal digits that follow the first `start` ones. -/
def field (id : Uuid) (start count : Nat) : Nat :=
  (id.bits.toNat >>> (4 * (32 - start - count))) % (1 <<< (4 * count))

/-! ## Text -/

/-- The groups of the written form: where each starts, and its number of digits. -/
def groups : List (Nat × Nat) := [(0, 8), (8, 4), (12, 4), (16, 4), (20, 12)]

/-- The written form: lower case, in groups joined by hyphens. -/
def toChars (id : Uuid) : List Char :=
  ['-'].intercalate (groups.map fun (start, count) => Hex.digits count (id.field start count))

/-- The written form as a text. -/
def text (id : Uuid) : String := String.ofList id.toChars

instance : ToString Uuid := ⟨text⟩

/-- The number written by exactly `count` hexadecimal digits, with the characters that follow. -/
def readDigits (count : Nat) (cs : List Char) : Option (List Char × List Char) :=
  let digits := cs.take count
  if digits.length = count ∧ digits.all Hex.isDigit then some (digits, cs.drop count) else none

/-- The digits of groups joined by hyphens, which have to end the text. -/
def readGroups : List Nat → List Char → Option (List Char)
  | [], [] => some []
  | [], _ :: _ => none
  | [count], cs => do
    let (digits, rest) ← readDigits count cs
    if rest = [] then some digits else none
  | count :: counts, cs => do
    let (digits, rest) ← readDigits count cs
    match rest with
    | '-' :: rest => (digits ++ ·) <$> readGroups counts rest
    | _ => none

/-- Removes braces around a text, or the prefix `urn:uuid:` in any letter case. -/
def unwrap (cs : List Char) : List Char :=
  if cs.head? = some '{' ∧ cs.getLast? = some '}' then (cs.drop 1).dropLast
  else if (cs.take 9).map Char.toLower = "urn:uuid:".toList then cs.drop 9
  else cs

/-- Reads a UUID: thirty-two digits, or five groups of them joined by hyphens. Only the grouped
form may stand in braces or follow `urn:uuid:`. -/
def ofChars? (cs : List Char) : Option Uuid := do
  let digits ← match readDigits 32 cs with
    | some (digits, []) => some digits
    | _ => readGroups (groups.map (·.2)) (unwrap cs)
  ofNat <$> Hex.value 0 digits

/-- Reads a UUID from a text. -/
def ofText? (text : String) : Option Uuid := ofChars? text.toList

/-! ## Timestamps -/

/-- The version digit. -/
def version (id : Uuid) : Nat := id.field 12 1

/-- Ticks of 100 nanoseconds from 1582-10-15, the start of the Gregorian calendar, to 1970. -/
def gregorianOffset : Nat := 0x01B21DD213814000

/-- The sixty-bit count of Gregorian ticks in an identifier of version 1 or 6. Version 1 stores the
low, the middle and the high part in this order, version 6 the high part first. -/
def gregorianTicks? (id : Uuid) : Option Nat :=
  if id.version = 1 then
    some ((id.field 13 3 <<< 48) + (id.field 8 4 <<< 32) + id.field 0 8)
  else if id.version = 6 then
    some ((id.field 0 8 <<< 28) + (id.field 8 4 <<< 12) + id.field 13 3)
  else none

/-- The instant that a time-based identifier holds. It is for the caller to see that ticks are not
before 1970. -/
def unixTime? (id : Uuid) : Option UnixTime :=
  if id.version = 7 then some (.ofMillis (id.field 0 12))
  else id.gregorianTicks?.map fun ticks => .ofTicks (ticks - gregorianOffset)

end Uuid

end ChatRelay

import ChatRelay.Message

/-!
# Threads

The topic of a thread, and the time of its creation as its identifier holds it.
-/

namespace ChatRelay

namespace ThreadId

/-- The topic that watches one thread. -/
def topic (id : ThreadId) : String := "/queue/threads/" ++ id.text

end ThreadId

/-- Why the store cannot answer. -/
inductive StoreError where
  | invalidCursor (token : String)
  | noEmbeddedTimestamp (thread : ThreadId)
  | unavailable (reason : String)
  deriving DecidableEq, Repr

/-- The wording of an error. -/
def StoreError.message : StoreError → String
  | invalidCursor token => s!"Invalid cursor: {token}"
  | noEmbeddedTimestamp thread => s!"Thread id {thread.text} has no embedded timestamp"
  | unavailable reason => s!"Storage unavailable: {reason}"

/-! ## The time of creation -/

namespace Uuid

/-- The sixteen octets of an identifier, the most significant first. -/
def octets (id : Uuid) : List UInt8 :=
  (List.range 16).map fun i => ⟨id.bits.extractLsb' (8 * (15 - i)) 8⟩

/-- The number that the octets from one position up to another write. -/
def word (id : Uuid) (start stop : Nat) : UInt64 :=
  ((id.octets.take stop).drop start).foldl (fun n octet => n <<< 8 ||| octet.toUInt64) 0

/-- The sixty-bit count of Gregorian ticks, put together from the octets of an identifier of
version 1 or 6. -/
def rawTicks? (id : Uuid) : Option UInt64 :=
  let versionWord := id.word 6 8 &&& 0x0fff
  match id.version with
  | 1 => some (versionWord <<< 48 ||| id.word 4 6 <<< 32 ||| id.word 0 4)
  | 6 => some (id.word 0 4 <<< 28 ||| id.word 4 6 <<< 12 ||| versionWord)
  | _ => none

end Uuid

/-- A way to find out when a thread was created. -/
abbrev ThreadLookup := ThreadId → Except StoreError Millis

/-- The lookup that reads the time of creation off the identifier. Gregorian ticks before 1970 count
as missing. -/
def ThreadLookup.embedded : ThreadLookup := fun id =>
  if id.rawTicks?.any (· < Uuid.gregorianOffset.toUInt64) then .error (.noEmbeddedTimestamp id)
  else match id.unixTime? with
    | none => .error (.noEmbeddedTimestamp id)
    | some time => .ok (time.seconds * 1000 + time.nanos.toUInt64 / 1000000)

end ChatRelay

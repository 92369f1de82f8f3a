import ChatRelay.Node

/-!
# Minting identifiers

A generator remembers the timestamp of the last identifier and the next sequence number. Its
sequence numbers run round and round, also from one millisecond to the next; only where the number
comes round to zero within the millisecond of the last identifier does minting wait for the next
millisecond. A clock that steps back by no more than the tolerance is overruled: the last timestamp
is held. A larger step back is refused.

A call of `mint` is given the readings that the clock will show and uses them up from the front. It
has no outcome, `none`, if the readings end while it waits.
-/

namespace ChatRelay

/-- The settings of a generator. -/
structure GeneratorConfig where
  /-- The instant that timestamps count from. -/
  epoch : Int64 := 0
  node : NodeSource := .networkInterface
  /-- How far the clock may step back without a failure, in milliseconds. -/
  tolerance : UInt64 := 1000
  deriving DecidableEq, Repr

/-- A generator of identifiers between two calls. -/
structure Generator where
  epoch : Millis
  node : NodeId
  tolerance : UInt64
  /-- The timestamp of the last identifier. -/
  last : Nat
  /-- The sequence number of the next identifier. -/
  sequence : Sequence
  deriving DecidableEq, Repr

/-- Why no identifier can be minted. -/
inductive MintError where
  /-- The clock went back by `regression` milliseconds, and `tolerance` are tolerated. -/
  | clockRegressed (regression tolerance : Nat)
  /-- The timestamp is too large. -/
  | timestampOverflow (timestamp : Nat)
  deriving DecidableEq, Repr

/-- The wording of an error. -/
def MintError.message : MintError → String
  | clockRegressed regression tolerance =>
    s!"Clock moved backwards by {regression} ms (tolerance {tolerance} ms)"
  | timestampOverflow timestamp =>
    s!"Timestamp {timestamp} ms since the custom epoch does not fit in 41 bits"

/-- The outcome of a call: its result, the generator after it, the last reading of the clock that
it took and the readings that it left. -/
structure Minting where
  result : Except MintError MessageId
  generator : Generator
  reading : Millis
  unread : List Millis

namespace Generator

/-- Sets up a generator at an instant. The epoch has to lie in the past. The timestamp before the
present one counts as used. -/
def setUp (config : GeneratorConfig) (host : Host) (now : Millis) : Except SetupError Generator :=
  if config.epoch < 0 then .error (.negativeEpoch config.epoch)
  else
    let epoch := config.epoch.toInt.toNat.toUInt64
    if now < epoch then .error (.epochInFuture epoch now)
    else do
      let node ← config.node.resolve host
      return { epoch, node, tolerance := config.tolerance
               last := now.toNat - epoch.toNat - 1
               sequence := .ofLowBits host.firstSequence.toNat }

/-- Milliseconds from the epoch to a reading of the clock, zero for a reading before the epoch. -/
def elapsed (g : Generator) (reading : Millis) : Nat :=
  reading.toNat - g.epoch.toNat

/-- The first reading past the last timestamp, with the readings after it. -/
def await (g : Generator) : List Millis → Option (Millis × List Millis)
  | [] => none
  | reading :: unread =>
    if g.last < g.elapsed reading then some (reading, unread) else g.await unread

/-- Mints an identifier with a timestamp and a sequence number, which is taken either way. -/
def stamp (g : Generator) (timestamp : Nat) (reading : Millis) (unread : List Millis) : Minting :=
  let taken := { g with sequence := g.sequence + 1 }
  if timestamp > MessageId.maxTimestamp then
    { result := .error (.timestampOverflow timestamp), generator := taken, reading, unread }
  else
    { result := .ok (MessageId.pack timestamp g.node g.sequence)
      generator := { taken with last := timestamp }, reading, unread }

/-- Mints the next identifier. -/
def mint (g : Generator) (clock : Clock) : Option Minting :=
  let elapsed := g.elapsed clock.now
  if elapsed + g.tolerance.toNat < g.last then
    some { result := .error (.clockRegressed (g.last - elapsed) g.tolerance.toNat)
           generator := g, reading := clock.now, unread := clock.later }
  else
    let timestamp := max elapsed g.last
    if g.sequence = 0 ∧ timestamp = g.last then
      (g.await clock.later).map fun (reading, unread) =>
        g.stamp (g.elapsed reading) reading unread
    else some (g.stamp timestamp clock.now clock.later)

/-- How many further readings a call takes on a clock that shows `now` and then moves on by one
millisecond at each reading. -/
def patience (g : Generator) (now : Millis) : Nat :=
  if g.sequence = 0 ∧ g.elapsed now ≤ g.last ∧ g.last ≤ g.elapsed now + g.tolerance.toNat then
    g.epoch.toNat + g.last + 1 - now.toNat
  else 0

/-- The instant at which an identifier was minted, in Unix milliseconds. -/
def unixMillis (g : Generator) (id : MessageId) : Nat :=
  g.epoch.toNat + id.timestamp

end Generator

end ChatRelay

/-!
# Clocks

Time is Unix time in whole milliseconds. An operation does not own a clock: it is given the
instants that its readings will show, so that standing still, running on and stepping back are all
just lists of instants. A `ManualClock` is a clock that somebody sets.
-/

namespace ChatRelay

/-- Unix time in milliseconds. -/
abbrev Millis := UInt64

/-- What a clock shows while one operation runs: `now` at the first reading, then the instants of
`later`, one for each further reading. -/
structure Clock where
  now : Millis
  later : List Millis := []
  deriving DecidableEq, Repr

namespace Clock

/-- The `count` instants after `start`, a millisecond apart. -/
def ticks (start : Millis) (count : Nat) : List Millis :=
  (List.range count).map fun i => start + UInt64.ofNat (i + 1)

/-- A clock that stands at `now` and moves on by one millisecond at each of `count` further
readings. -/
def ticking (now : Millis) (count : Nat) : Clock :=
  { now, later := ticks now count }

/-- All the instants that the clock will show. -/
def readings (clock : Clock) : List Millis :=
  clock.now :: clock.later

end Clock

/-- A clock that moves only when it is told to. -/
structure ManualClock where
  now : Millis := 0
  deriving DecidableEq, Repr

namespace ManualClock

/-- The clock put to an instant. -/
def set (_ : ManualClock) (instant : Millis) : ManualClock :=
  { now := instant }

/-- The clock moved forward by some milliseconds, from the largest instant on to zero. -/
def advance (clock : ManualClock) (amount : Millis) : ManualClock :=
  { now := clock.now + amount }

end ManualClock

end ChatRelay

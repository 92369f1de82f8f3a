import ChatRelay.Generator

/-!
# Buckets

Time since the epoch is cut into buckets of one size, numbered from the epoch on; a message is
stored in the bucket of its timestamp. Bucket numbers and relative times are signed 64-bit numbers,
and an epoch is taken as one modulo 2 ^ 64.
-/

namespace ChatRelay

/-- The number of a bucket. -/
abbrev Bucket := Int64

/-- A setting that is refused. -/
inductive SettingError where
  | bucketSize (size : Int64)
  | pageSize
  deriving DecidableEq, Repr

/-- The wording of an error. -/
def SettingError.message : SettingError → String
  | bucketSize size => s!"Bucket size must be positive, got {size} ms"
  | pageSize => "Page size must be positive"

/-- How time is cut into buckets. -/
structure BucketIndex where
  /-- The width of a bucket in milliseconds. -/
  size : Int64
  /-- The instant that buckets count from. -/
  epoch : Int64
  size_pos : 0 < size
  deriving DecidableEq, Repr

namespace BucketIndex

/-- An index with a bucket size and an epoch. -/
def make (size : Int64) (epoch : Millis) : Except SettingError BucketIndex :=
  if h : 0 < size then .ok { size, epoch := epoch.toInt64, size_pos := h }
  else .error (.bucketSize size)

/-- An index that shares a generator's epoch. -/
def forGenerator (g : Generator) (size : Int64) : Except SettingError BucketIndex :=
  make size g.epoch

/-- The epoch in Unix milliseconds. -/
def epochMillis (index : BucketIndex) : Millis := index.epoch.toUInt64

/-- The bucket of a time relative to the epoch: the quotient is rounded down, so that bucket zero
starts at the epoch. -/
def ofTimestamp (index : BucketIndex) (timestamp : Int64) : Bucket :=
  Int64.ofInt (timestamp.toInt / index.size.toInt)

/-- The bucket of a message. -/
def ofId (index : BucketIndex) (id : MessageId) : Bucket :=
  index.ofTimestamp (Int64.ofNat id.timestamp)

/-- An instant relative to the epoch. -/
def relative (index : BucketIndex) (instant : Millis) : Int64 :=
  instant.toInt64 - index.epoch

/-- The bucket of an instant. -/
def atInstant (index : BucketIndex) (instant : Millis) : Bucket :=
  index.ofTimestamp (index.relative instant)

end BucketIndex

/-- The buckets from `first` to `last`, both included. -/
structure BucketRange where
  first : Bucket
  last : Bucket
  deriving DecidableEq, Repr

namespace BucketRange

instance : Membership Bucket BucketRange where
  mem range bucket := range.first ≤ bucket ∧ bucket ≤ range.last

/-- Whether the range has no bucket. -/
def isEmpty (range : BucketRange) : Bool := range.last < range.first

/-- The number of buckets. -/
def size (range : BucketRange) : Nat :=
  (range.last.toInt + 1 - range.first.toInt).toNat

/-- The oldest `count` buckets of the range, oldest first. -/
def oldest (range : BucketRange) (count : Nat) : List Bucket :=
  (List.range (min count range.size)).map fun (i : Nat) => Int64.ofInt (range.first.toInt + i)

/-- The newest `count` buckets of the range, newest first. -/
def newest (range : BucketRange) (count : Nat) : List Bucket :=
  (List.range (min count range.size)).map fun (i : Nat) => Int64.ofInt (range.last.toInt - i)

/-- All the buckets of the range, oldest first. -/
def toList (range : BucketRange) : List Bucket := range.oldest range.size

end BucketRange

namespace BucketIndex

/-- The buckets from that of one message to that of another. -/
def between (index : BucketIndex) (first last : MessageId) : BucketRange :=
  { first := index.ofId first, last := index.ofId last }

/-- The buckets from that of a relative time to a last one. -/
def fromTimestamp (index : BucketIndex) (timestamp : Int64) (last : Bucket) : BucketRange :=
  { first := index.ofTimestamp timestamp, last }

end BucketIndex

end ChatRelay

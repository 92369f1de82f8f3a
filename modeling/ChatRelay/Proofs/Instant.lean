import ChatRelay.Proofs.History.Range
import ChatRelay.Proofs.Session

/-!
# The instant of a message

When a message was created is in its identifier, and is worked out in three places: the generator
adds its epoch to the timestamp, the index takes an instant relative to its own copy of the epoch,
as a signed number, and whoever decides on a delivery adds the epoch again. `Generator.instant?`,
`BucketIndex.relative?`, `BucketIndex.ofId?` and `Registry.route?` go on only while each number is
in its range. For all instants below 2 ^ 63 they do, and the three agree (`instants_agree`).
-/

namespace ChatRelay

open Checked

/-! ## The generator -/

namespace Generator

/-- The instant at which an identifier was minted, if it is in range. -/
def instant? (g : Generator) (id : MessageId) : Option Millis :=
  unsigned? (g.epoch.toNat + id.timestamp)

/-- Below 2 ^ 64 an instant is in range. -/
theorem exists_instant? {g : Generator} {id : MessageId}
    (h : g.epoch.toNat + id.timestamp < 2 ^ 64) :
    ∃ created, g.instant? id = some created ∧ created.toNat = g.unixMillis id := by
  have hnat : (UInt64.ofNat (g.unixMillis id)).toNat = g.unixMillis id :=
    UInt64.toNat_ofNat_of_lt' h
  exact ⟨_, unsigned?_of_toNat _ hnat, hnat⟩

end Generator

/-! ## The index -/

namespace BucketIndex

variable {index : BucketIndex} {g : Generator} {id : MessageId} {created : Millis}

/-- The bucket of an identifier, if no number on the way to it leaves its range. -/
def ofId? (index : BucketIndex) (id : MessageId) : Option Bucket := do
  let timestamp ← signed? id.timestamp
  index.ofTimestamp? timestamp

/-- A timestamp has few enough bits for a signed number. -/
theorem toInt_timestamp (id : MessageId) : (Int64.ofNat id.timestamp).toInt = id.timestamp :=
  Int64.toInt_ofNat_of_lt (Nat.lt_of_le_of_lt id.timestamp_le (by decide))

/-- The bucket of an identifier is always in range. -/
theorem ofId?_eq (index : BucketIndex) (id : MessageId) :
    index.ofId? id = some (index.ofId id) := by
  rw [ofId?, signed?_of_toInt _ (toInt_timestamp id)]
  exact index.ofTimestamp?_eq _

/-- Relative to the epoch, the instant of an identifier is its timestamp. -/
theorem relative_instant (hepoch : index.epoch = g.epoch.toInt64)
    (hcreated : created.toNat = g.unixMillis id) :
    index.relative created = Int64.ofNat id.timestamp := by
  have htimestamp := id.timestamp_le
  rw [Generator.unixMillis] at hcreated
  apply Int64.toInt_inj.1
  rw [index.toInt_relative hepoch (by omega) (by omega), toInt_timestamp]
  omega

end BucketIndex

/-! ## Decisions -/

namespace Registry

variable {r : Registry} {epoch : Millis} {user : UserId} {message : Message}

/-- The decision for a message, if its instant is in range where it is needed. -/
def route? (r : Registry) (epoch : Millis) (user : UserId) (message : Message) :
    Option Decision :=
  match r.session? user with
  | none => some .dropped
  | some session =>
    match session.subscription? message.threadId.topic with
    | none => some .notification
    | some subscription => do
      let created ← unsigned? (message.messageId.timestamp + epoch.toNat)
      return if created < subscription.joinedAt then .notification else .direct

/-- **A decision stays in range** and is the one that is made. -/
theorem route?_eq (h : epoch.toNat + message.messageId.timestamp < 2 ^ 64) :
    r.route? epoch user message = some (r.route epoch user message) := by
  have hnat : (UInt64.ofNat (message.messageId.timestamp + epoch.toNat)).toNat =
      epoch.toNat + message.messageId.timestamp := by
    rw [Nat.add_comm]
    exact UInt64.toNat_ofNat_of_lt' h
  rw [route?, route]
  cases r.session? user with
  | none => rfl
  | some session =>
    cases hsubscription : session.subscription? message.threadId.topic with
    | none => simp only [hsubscription]
    | some subscription =>
      simp only [hsubscription, unsigned?_of_toNat _ (hnat.trans (Nat.add_comm _ _)),
        Option.bind_eq_bind, Option.bind_some, UInt64.lt_iff_toNat_lt, hnat]
      rfl

/-- Who watches a thread gets a message directly if they did so at its instant or before. -/
theorem route_eq_direct_iff {session : Session} {subscription : Subscription}
    (hsession : r.session? user = some session)
    (hsubscription : session.subscription? message.threadId.topic = some subscription) :
    r.route epoch user message = .direct ↔
      subscription.joinedAt.toNat ≤ epoch.toNat + message.messageId.timestamp := by
  simp [r.route_of_session? user epoch message hsession, Session.Watches, hsubscription]

end Registry

/-! ## Agreement -/

/-- **Generator, index and deliveries agree on when a message was created.** For an index with the
generator's epoch and an identifier whose instant is below 2 ^ 63, no number leaves its range: not
the instant, nor the epoch and the instant as signed numbers, nor their difference, nor a bucket.
Relative to the epoch, the instant is the timestamp, so that its bucket is the one of the
identifier. Whoever is connected and has subscribed to the thread of the message gets it directly
exactly if they did so not after that instant. -/
theorem instants_agree {g : Generator} {index : BucketIndex} {size : Int64} {id : MessageId}
    (hindex : BucketIndex.forGenerator g size = .ok index)
    (hfits : g.epoch.toNat + id.timestamp < 2 ^ 63) :
    signed? g.epoch.toNat = some index.epoch ∧
    ∃ created, g.instant? id = some created ∧ created.toNat = g.unixMillis id ∧
      index.relative? created = some (index.relative created) ∧
      (index.relative created).toInt = id.timestamp ∧
      index.ofId? id = some (index.ofId id) ∧
      index.atInstant? created = some (index.atInstant created) ∧
      index.ofId id = index.atInstant created ∧
      ∀ (r : Registry) (user : UserId) (message : Message), message.messageId = id →
        r.route? g.epoch user message = some (r.route g.epoch user message) ∧
        ∀ session subscription, r.session? user = some session →
          session.subscription? message.threadId.topic = some subscription →
            (r.route g.epoch user message = .direct ↔ subscription.joinedAt ≤ created) := by
  have hepoch := (BucketIndex.settings_forGenerator hindex).2
  have hsmall : g.epoch.toNat < 2 ^ 63 := Nat.lt_of_le_of_lt (Nat.le_add_right _ _) hfits
  have hsum : g.epoch.toNat + id.timestamp < 2 ^ 64 := Nat.lt_trans hfits (by decide)
  obtain ⟨created, hinstant, hcreated⟩ := Generator.exists_instant? hsum
  have hsigned : created.toNat < 2 ^ 63 := hcreated ▸ hfits
  have hrelative := BucketIndex.relative_instant hepoch hcreated
  have hcast := hepoch ▸ BucketIndex.toInt_toInt64_of_lt hsmall
  refine ⟨signed?_of_toInt _ hcast, created, hinstant, hcreated,
    index.relative?_eq hepoch hsmall hsigned, ?_, index.ofId?_eq id,
    index.atInstant?_eq hepoch hsmall hsigned, ?_, ?_⟩
  · rw [hrelative, BucketIndex.toInt_timestamp]
  · rw [BucketIndex.atInstant, hrelative, BucketIndex.ofId]
  · rintro r user message rfl
    refine ⟨Registry.route?_eq hsum, fun session subscription hsession hsubscription => ?_⟩
    rw [Registry.route_eq_direct_iff hsession hsubscription, UInt64.le_iff_toNat_le, hcreated,
      Generator.unixMillis]

/-- A generator whose epoch is so late that the last of all identifiers has the last instant below
2 ^ 63. -/
def lateGenerator : Generator where
  epoch := 0x7FFFFC0000000000
  node := ⟨0, by decide⟩
  tolerance := 1000
  last := 0
  sequence := ⟨0, by decide⟩

/-- An index with its epoch. -/
def lateIndex : BucketIndex where
  size := 1000
  epoch := 0x7FFFFC0000000000
  size_pos := BucketIndex.second_pos

/-- A subscription to a thread that is made at an instant. -/
def watch (instant : Millis) : Subscription :=
  { topic := ThreadId.topic ⟨0⟩, joinedAt := instant, subscriptionId := "1" }

/-- The session of a user who subscribes to it then. -/
def watching (instant : Millis) : Session :=
  ({ user := "bob", sessionId := "b1", connectedAt := 0 } : Session).subscribe (watch instant)

/-- A message of the thread with the last of all identifiers. -/
def lastMessage : Message :=
  { messageId := 0xFFFFFFFFFFFFFFFF, threadId := ⟨0⟩, threadName := none, bucket := 4398046511
    author := "ann", authorName := none, body := "" }

/-- What the general statement says of the last identifier, and of users who subscribe in its
millisecond and in the next one. -/
theorem instants_agree_at_limit :
    BucketIndex.forGenerator lateGenerator 1000 = .ok lateIndex ∧
    lateGenerator.epoch.toNat + lastMessage.messageId.timestamp < 2 ^ 63 ∧
    lateGenerator.instant? lastMessage.messageId = some 0x7FFFFFFFFFFFFFFF ∧
    lateIndex.relative 0x7FFFFFFFFFFFFFFF = 0x3FFFFFFFFFF ∧
    lateIndex.ofId lastMessage.messageId = lateIndex.atInstant 0x7FFFFFFFFFFFFFFF ∧
    (Registry.empty.connect (watching 0x7FFFFFFFFFFFFFFF)).route lateGenerator.epoch "bob"
      lastMessage = .direct ∧
    (Registry.empty.connect (watching 0x8000000000000000)).route lateGenerator.epoch "bob"
      lastMessage ≠ .direct := by
  have hindex : BucketIndex.forGenerator lateGenerator 1000 = .ok lateIndex := rfl
  have hfits : lateGenerator.epoch.toNat + lastMessage.messageId.timestamp < 2 ^ 63 := by decide
  obtain ⟨-, created, hinstant, hcreated, -, htimestamp, -, -, hbucket, hroute⟩ :=
    instants_agree hindex hfits
  obtain rfl : created = 0x7FFFFFFFFFFFFFFF := UInt64.toNat_inj.1 hcreated
  have hdirect (instant : Millis) :
      (Registry.empty.connect (watching instant)).route lateGenerator.epoch "bob" lastMessage =
        .direct ↔ instant ≤ 0x7FFFFFFFFFFFFFFF := by
    have hsession : (Registry.empty.connect (watching instant)).session? "bob" =
        some (watching instant) := by
      rw [Registry.session?_connect]
      exact if_pos rfl
    exact (hroute _ "bob" lastMessage rfl).2 _ (watch instant) hsession
      Std.ExtTreeMap.getElem?_insert_self
  exact ⟨hindex, hfits, hinstant, Int64.toInt_inj.1 htimestamp, hbucket, (hdirect _).2 (by decide),
    mt (hdirect _).1 (by decide)⟩

end ChatRelay

import ChatRelay.Clock
import ChatRelay.Message
import Std.Data.ExtTreeMap

/-!
# Sessions

A user has at most one live session, the one that connected last. A session has at most one
subscription for each topic; a new session starts without any. A session that is connected a second
time brings those that it has.
-/

namespace ChatRelay

/-- A session's subscription to one topic. -/
structure Subscription where
  topic : String
  /-- When it was made. -/
  joinedAt : Millis
  subscriptionId : String
  deriving DecidableEq, Repr

/-- Subscriptions under their topics. -/
def Filed (subscriptions : Std.ExtTreeMap String Subscription) : Prop :=
  ∀ (topic : String) (subscription : Subscription),
    subscriptions[topic]? = some subscription → subscription.topic = topic

namespace Filed

theorem empty : Filed ∅ := by simp [Filed]

theorem insert {subscriptions : Std.ExtTreeMap String Subscription} (h : Filed subscriptions)
    (new : Subscription) : Filed (subscriptions.insert new.topic new) := by
  intro topic subscription hsubscription
  rw [Std.ExtTreeMap.getElem?_insert] at hsubscription
  split at hsubscription
  next htopic => exact Option.some.inj hsubscription ▸ Std.LawfulEqOrd.compare_eq_iff_eq.1 htopic
  next => exact h topic subscription hsubscription

theorem erase {subscriptions : Std.ExtTreeMap String Subscription} (h : Filed subscriptions)
    (old : String) : Filed (subscriptions.erase old) := by
  intro topic subscription hsubscription
  rw [Std.ExtTreeMap.getElem?_erase] at hsubscription
  split at hsubscription
  next => cases hsubscription
  next => exact h topic subscription hsubscription

end Filed

/-- The name of a session. -/
abbrev SessionId := String

/-- A live connection of a user. -/
structure Session where
  user : UserId
  sessionId : SessionId
  /-- Where the connection comes from, if that is known. -/
  remoteAddress : Option String := none
  connectedAt : Millis
  subscriptions : Std.ExtTreeMap String Subscription := ∅
  filed : Filed subscriptions := by exact Filed.empty

namespace Session

/-- The subscription to a topic. -/
def subscription? (s : Session) (topic : String) : Option Subscription :=
  s.subscriptions[topic]?

/-- Whether there is a subscription to a topic. -/
def isSubscribedTo (s : Session) (topic : String) : Bool :=
  (s.subscription? topic).isSome

/-- The number of subscriptions. -/
def subscriptionCount (s : Session) : Nat := s.subscriptions.size

/-- Adds a subscription; it replaces one to the same topic. -/
def subscribe (s : Session) (subscription : Subscription) : Session :=
  { s with
    subscriptions := s.subscriptions.insert subscription.topic subscription
    filed := s.filed.insert subscription }

/-- Ends the subscription to a topic. -/
def unsubscribe (s : Session) (topic : String) : Session :=
  { s with subscriptions := s.subscriptions.erase topic, filed := s.filed.erase topic }

end Session

/-- The live sessions. -/
structure Registry where
  sessions : Std.ExtTreeMap UserId Session := ∅

/-- Counts of a registry. -/
structure RegistryStats where
  sessions : Nat
  subscriptions : Nat
  deriving DecidableEq, Repr

namespace Registry

/-- The registry without sessions. -/
def empty : Registry := {}

/-- A user's session. -/
def session? (r : Registry) (user : UserId) : Option Session := r.sessions[user]?

/-- Whether a user has a session. -/
def isConnected (r : Registry) (user : UserId) : Bool := (r.session? user).isSome

/-- A user's subscription to a topic. -/
def subscription? (r : Registry) (user : UserId) (topic : String) : Option Subscription :=
  (r.session? user).bind (·.subscription? topic)

/-- Whether a user's session is subscribed to a topic. -/
def isSubscribedTo (r : Registry) (user : UserId) (topic : String) : Bool :=
  (r.subscription? user topic).isSome

/-- Registers a session. It takes the place of the user's session before, which is
`r.session? s.user`. -/
def connect (r : Registry) (s : Session) : Registry :=
  { sessions := r.sessions.insert s.user s }

/-- Removes a user's session. -/
def disconnect (r : Registry) (user : UserId) : Registry :=
  { sessions := r.sessions.erase user }

/-- A user's session if it has the given name. -/
def named? (r : Registry) (user : UserId) (sessionId : SessionId) : Option Session :=
  (r.session? user).filter fun s => s.sessionId = sessionId

/-- Removes a user's session if it has the given name, so that an older connection that ends leaves
a newer session alone. -/
def disconnectSession (r : Registry) (user : UserId) (sessionId : SessionId) : Registry :=
  if (r.named? user sessionId).isSome then r.disconnect user else r

/-- Adds a subscription to a user's session, if there is one. -/
def subscribe (r : Registry) (user : UserId) (subscription : Subscription) : Registry :=
  { sessions := r.sessions.modify user (·.subscribe subscription) }

/-- Ends a user's subscription to a topic. -/
def unsubscribe (r : Registry) (user : UserId) (topic : String) : Registry :=
  { sessions := r.sessions.modify user (·.unsubscribe topic) }

/-- The number of sessions. -/
def size (r : Registry) : Nat := r.sessions.size

/-- Whether there is no session. -/
def isEmpty (r : Registry) : Bool := r.sessions.isEmpty

/-- The counts of sessions and of their subscriptions. -/
def stats (r : Registry) : RegistryStats :=
  { sessions := r.size
    subscriptions := r.sessions.toList.foldl (fun n (_, s) => n + s.subscriptionCount) 0 }

end Registry

end ChatRelay

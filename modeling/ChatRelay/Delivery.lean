import ChatRelay.Session
import ChatRelay.Thread

/-!
# Delivery decisions

A recipient gets a message on the topic of its thread only if their session watches that topic and
has done so since the message was created. Another connected recipient gets a notification, and one
who is not connected gets nothing; the store has the message for them.
-/

namespace ChatRelay

/-- Where notifications go. -/
def notificationTopic : String := "/queue/notifications"

/-- Where typing indicators go. -/
def typingTopic : String := "/queue/typing"

/-- What becomes of one message for one recipient. -/
inductive Decision where
  /-- The recipient is not connected. -/
  | dropped
  /-- The recipient is connected and does not watch the thread, or has only done so since later. -/
  | notification
  /-- The recipient watches the thread. -/
  | direct
  deriving DecidableEq, Repr

/-- The label of a decision. -/
def Decision.label : Decision → String
  | dropped => "dropped"
  | notification => "notification"
  | direct => "direct"

/-- The decision for a message whose identifier counts from an epoch. -/
def Registry.route (r : Registry) (epoch : Millis) (user : UserId) (message : Message) : Decision :=
  match r.session? user with
  | none => .dropped
  | some session =>
    match session.subscription? message.threadId.topic with
    | none => .notification
    | some subscription =>
      if subscription.joinedAt.toNat > epoch.toNat + message.messageId.timestamp then .notification
      else .direct

end ChatRelay

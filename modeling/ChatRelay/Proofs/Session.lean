import ChatRelay.Delivery

/-!
# Sessions and what they get

What each operation on a registry does to a user's session, and to its name (`Registry.name?`),
which is all that tells sessions of one user apart. Only connecting and disconnecting change names.
A message reaches a session that watches its thread since before its creation (`Session.Watches`) on
the topic of the thread, and every other session as a notification (`Registry.route_of_session?`).
-/

namespace ChatRelay

/-- Whether a session has a subscription to a topic that was made by an instant, in Unix
milliseconds. -/
def Session.Watches (session : Session) (topic : String) (instant : Nat) : Prop :=
  ∃ subscription ∈ session.subscription? topic, subscription.joinedAt.toNat ≤ instant

instance (session : Session) (topic : String) (instant : Nat) :
    Decidable (session.Watches topic instant) :=
  inferInstanceAs (Decidable (∃ subscription ∈ session.subscription? topic, _))

namespace Registry

/-- The name of a user's session. -/
def name? (r : Registry) (user : UserId) : Option SessionId :=
  (r.session? user).map (·.sessionId)

variable (r : Registry) (user : UserId)

/-! ## Sessions -/

@[simp] theorem session?_empty : empty.session? user = none := by
  simp [session?, empty]

theorem session?_connect (s : Session) :
    (r.connect s).session? user = if s.user = user then some s else r.session? user := by
  simp [session?, connect, Std.ExtTreeMap.getElem?_insert]

theorem session?_disconnect (user' : UserId) :
    (r.disconnect user').session? user = if user' = user then none else r.session? user := by
  simp [session?, disconnect, Std.ExtTreeMap.getElem?_erase]

theorem session?_subscribe (user' : UserId) (subscription : Subscription) :
    (r.subscribe user' subscription).session? user =
      if user' = user then (r.session? user).map (·.subscribe subscription)
      else r.session? user := by
  simp only [session?, subscribe, Std.ExtTreeMap.getElem?_modify,
    Std.LawfulEqOrd.compare_eq_iff_eq]
  split
  next h => rw [h]
  next => rfl

theorem session?_unsubscribe (user' : UserId) (topic : String) :
    (r.unsubscribe user' topic).session? user =
      if user' = user then (r.session? user).map (·.unsubscribe topic) else r.session? user := by
  simp only [session?, unsubscribe, Std.ExtTreeMap.getElem?_modify,
    Std.LawfulEqOrd.compare_eq_iff_eq]
  split
  next h => rw [h]
  next => rfl

/-! ## Names -/

theorem name?_connect (s : Session) :
    (r.connect s).name? user = if s.user = user then some s.sessionId else r.name? user := by
  rw [name?, session?_connect]
  split <;> rfl

theorem isSome_named?_iff {session : SessionId} :
    (r.named? user session).isSome ↔ r.name? user = some session := by
  cases hs : r.session? user with
  | none => simp [named?, name?, hs]
  | some s => simp [named?, name?, hs, Option.filter]

/-- Only the session of the given name is removed. -/
theorem name?_disconnectSession (user' : UserId) (session : SessionId) :
    (r.disconnectSession user' session).name? user =
      if user' = user ∧ r.name? user = some session then none else r.name? user := by
  rw [disconnectSession]
  by_cases h : r.name? user' = some session
  · rw [if_pos ((r.isSome_named?_iff user').2 h), name?, session?_disconnect]
    by_cases huser : user' = user
    · rw [if_pos huser, if_pos ⟨huser, huser ▸ h⟩]
      rfl
    · rw [if_neg huser, if_neg fun h => huser h.1]
      rfl
  · rw [if_neg (mt (r.isSome_named?_iff user').1 h), if_neg]
    rintro ⟨rfl, hname⟩
    exact h hname

/-- Subscriptions do not change whose session is whose. -/
theorem name?_subscribe (user' : UserId) (subscription : Subscription) :
    (r.subscribe user' subscription).name? user = r.name? user := by
  rw [name?, session?_subscribe]
  split
  · rw [Option.map_map]
    rfl
  · rfl

theorem name?_unsubscribe (user' : UserId) (topic : String) :
    (r.unsubscribe user' topic).name? user = r.name? user := by
  rw [name?, session?_unsubscribe]
  split
  · rw [Option.map_map]
    rfl
  · rfl

/-! ## Sizes -/

theorem isConnected_eq_contains : r.isConnected user = r.sessions.contains user :=
  Std.ExtTreeMap.isSome_getElem?_eq_contains

/-- There is one more session, unless the user had one. -/
theorem size_connect (s : Session) :
    (r.connect s).size + (if r.isConnected s.user then 1 else 0) = r.size + 1 := by
  rw [size, size, connect, Std.ExtTreeMap.size_insert, isConnected_eq_contains]
  split <;> rfl

/-- There is one session less if it is the one of the given name. -/
theorem size_disconnectSession (session : SessionId) :
    (r.disconnectSession user session).size +
      (if r.name? user = some session then 1 else 0) = r.size := by
  rw [disconnectSession]
  by_cases h : r.name? user = some session
  · rw [if_pos ((r.isSome_named?_iff user).2 h), if_pos h]
    obtain ⟨s, hs, -⟩ := Option.map_eq_some_iff.1 h
    have hcontains : r.sessions.contains user = true := by
      rw [← isConnected_eq_contains, isConnected, hs]
      rfl
    have hpos : r.sessions.size ≠ 0 := by
      intro hzero
      rw [← Std.ExtTreeMap.eq_empty_iff_size_eq_zero] at hzero
      simp [hzero] at hcontains
    rw [size, size, disconnect, Std.ExtTreeMap.size_erase, if_pos hcontains]
    omega
  · rw [if_neg (mt (r.isSome_named?_iff user).1 h), if_neg h]
    rfl

theorem size_subscribe (subscription : Subscription) :
    (r.subscribe user subscription).size = r.size := Std.ExtTreeMap.size_modify

theorem size_unsubscribe (topic : String) : (r.unsubscribe user topic).size = r.size :=
  Std.ExtTreeMap.size_modify

/-! ## Decisions -/

/-- A session gets a message on its topic exactly if it has watched it since before the message was
created. -/
theorem route_of_session? (epoch : Millis) (message : Message) {session : Session}
    (h : r.session? user = some session) :
    r.route epoch user message =
      if session.Watches message.threadId.topic (epoch.toNat + message.messageId.timestamp) then
        .direct
      else .notification := by
  rw [route, h]
  cases hs : session.subscription? message.threadId.topic with
  | none => simp [Session.Watches, hs]
  | some subscription =>
    by_cases hjoined :
        subscription.joinedAt.toNat ≤ epoch.toNat + message.messageId.timestamp
    · simp [Session.Watches, hs, hjoined, Nat.not_lt.2 hjoined]
    · simp [Session.Watches, hs, hjoined, Nat.lt_of_not_le hjoined]

end Registry

end ChatRelay

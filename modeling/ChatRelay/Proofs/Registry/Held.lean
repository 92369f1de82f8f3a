import ChatRelay.Proofs.Registry.Calls
import ChatRelay.Proofs.Uuid

/-!
# Decisions and counts after some calls

What a registry says of its users after any calls follows from the trace alone: who has a session
(`Online`), which subscriptions it has (`Subscribed`), hence what becomes of a message for each user
(`route_after`) and what is counted (`stats_after`). All of it is in `registry_after`.
-/

namespace ChatRelay.Registry

/-- After some calls, a user has a session. -/
def Online (calls : List Call) (user : UserId) : Prop :=
  ∃ connected since, connected.user = user ∧ Held calls connected since

/-- After some calls, a user's session has a subscription. -/
def Subscribed (calls : List Call) (user : UserId) (subscription : Subscription) : Prop :=
  ∃ connected since, connected.user = user ∧ Held calls connected since ∧
    Holds connected since subscription

variable {calls since : List Call} {user : UserId} {s connected : Session}
  {subscription : Subscription}

/-! ## Sessions -/

/-- The session of a connection that nothing has ended is there, with its subscriptions. -/
theorem session?_of_held (h : Held calls connected since) :
    ∃ s, (after calls).session? connected.user = some s ∧ connected.Continues s ∧
      ∀ topic subscription, s.subscription? topic = some subscription ↔
        subscription.topic = topic ∧ Holds connected since subscription := by
  obtain ⟨before, rfl, hsince⟩ := h
  have hconnected :
      ((after before).call (.connect connected)).session? connected.user = some connected := by
    rw [session?_call]
    exact if_pos rfl
  have hrun : after (before ++ .connect connected :: since) =
      ((after before).call (.connect connected)).callAll since := by
    rw [after, callAll, List.foldl_append]
    rfl
  rw [hrun]
  exact session?_since hconnected hsince

/-- **Which session a user has after some calls, and with which subscriptions.** -/
theorem session?_after_eq_some_iff : (after calls).session? user = some s ↔
    s.user = user ∧ ∃ connected since, Held calls connected since ∧ connected.Continues s ∧
      ∀ topic subscription, s.subscription? topic = some subscription ↔
        subscription.topic = topic ∧ Holds connected since subscription := by
  constructor
  · intro h
    obtain ⟨rfl, connected, since, hheld, hcontinues⟩ := held_of_session? h
    obtain ⟨t, ht, -, hsubscriptions⟩ := session?_of_held hheld
    rw [← hcontinues.user] at ht
    obtain rfl := Option.some.inj (h.symm.trans ht)
    exact ⟨rfl, connected, since, hheld, hcontinues, hsubscriptions⟩
  · rintro ⟨rfl, connected, since, hheld, hcontinues, hsubscriptions⟩
    obtain ⟨t, ht, hsame, hsubscriptions'⟩ := session?_of_held hheld
    have heq : t = s := hsame.eq hcontinues fun topic subscription =>
      (hsubscriptions' topic subscription).trans (hsubscriptions topic subscription).symm
    rw [hcontinues.user, ht, heq]

theorem online_iff : Online calls user ↔ ∃ s, (after calls).session? user = some s := by
  constructor
  · rintro ⟨connected, since, rfl, hheld⟩
    obtain ⟨s, hs, -⟩ := session?_of_held hheld
    exact ⟨s, hs⟩
  · rintro ⟨s, hs⟩
    obtain ⟨rfl, connected, since, hheld, hcontinues, -⟩ := session?_after_eq_some_iff.1 hs
    exact ⟨connected, since, hcontinues.user.symm, hheld⟩

theorem subscribed_iff : Subscribed calls user subscription ↔
    ∃ s, (after calls).session? user = some s ∧
      s.subscription? subscription.topic = some subscription := by
  constructor
  · rintro ⟨connected, since, rfl, hheld, hholds⟩
    obtain ⟨s, hs, -, hsubscriptions⟩ := session?_of_held hheld
    exact ⟨s, hs, (hsubscriptions _ _).2 ⟨rfl, hholds⟩⟩
  · rintro ⟨s, hs, hsubscription⟩
    obtain ⟨rfl, connected, since, hheld, hcontinues, hsubscriptions⟩ :=
      session?_after_eq_some_iff.1 hs
    exact ⟨connected, since, hcontinues.user.symm, hheld,
      ((hsubscriptions _ _).1 hsubscription).2⟩

/-! ## Decisions -/

/-- A subscription to a thread that was made by the time of a message's creation. -/
def WatchesInTime (calls : List Call) (epoch : Millis) (user : UserId) (message : Message) : Prop :=
  ∃ subscription, Subscribed calls user subscription ∧
    subscription.topic = message.threadId.topic ∧
    subscription.joinedAt.toNat ≤ epoch.toNat + message.messageId.timestamp

/-- Whether a user watches a thread is a matter of their session. -/
theorem watchesInTime_iff {epoch : Millis} {message : Message}
    (hs : (after calls).session? user = some s) :
    WatchesInTime calls epoch user message ↔
      s.Watches message.threadId.topic (epoch.toNat + message.messageId.timestamp) := by
  constructor
  · rintro ⟨subscription, hsubscribed, htopic, hjoined⟩
    obtain ⟨t, ht, hsubscription⟩ := subscribed_iff.1 hsubscribed
    obtain rfl := Option.some.inj (hs.symm.trans ht)
    exact ⟨subscription, htopic ▸ hsubscription, hjoined⟩
  · rintro ⟨subscription, hsubscription, hjoined⟩
    have htopic := Session.topic_of_subscription? hsubscription
    exact ⟨subscription, subscribed_iff.2 ⟨s, hs, htopic ▸ hsubscription⟩, htopic, hjoined⟩

/-- **What becomes of a message for a user**: nothing if they have no session, and the session gets
it on the thread's topic exactly if it has watched the thread in time. -/
theorem route_after (calls : List Call) (epoch : Millis) (user : UserId) (message : Message) :
    ((after calls).route epoch user message = .dropped ↔ ¬Online calls user) ∧
    ((after calls).route epoch user message = .direct ↔
      WatchesInTime calls epoch user message) ∧
    ((after calls).route epoch user message = .notification ↔
      Online calls user ∧ ¬WatchesInTime calls epoch user message) := by
  cases hs : (after calls).session? user with
  | none =>
    have hoffline : ¬Online calls user := by simp [online_iff, hs]
    have hunwatched : ¬WatchesInTime calls epoch user message := by
      rintro ⟨subscription, ⟨s, since, huser, hheld, -⟩, -⟩
      exact hoffline ⟨s, since, huser, hheld⟩
    simp [route, hs, hoffline, hunwatched]
  | some s =>
    have honline : Online calls user := online_iff.2 ⟨s, hs⟩
    rw [watchesInTime_iff hs, route_of_session? _ _ _ _ hs]
    split <;> simp [*]

/-! ## Counts -/

/-- Sessions are counted with their subscriptions one after the other. -/
theorem foldl_subscriptionCount (sessions : List (UserId × Session)) (n : Nat) :
    sessions.foldl (fun n (_, s) => n + s.subscriptionCount) n =
      n + (sessions.flatMap fun (user, s) =>
        s.subscriptions.toList.map fun (_, subscription) => (user, subscription)).length := by
  induction sessions generalizing n with
  | nil => rfl
  | cons entry sessions ih =>
    have hcount : entry.2.subscriptions.toList.length = entry.2.subscriptionCount :=
      Std.ExtTreeMap.length_toList
    simp only [List.foldl_cons, ih, List.flatMap_cons, List.length_append, List.length_map, hcount]
    omega

/-- Every subscription of a session with its user, one session after the other. -/
def subscriptionsOf (r : Registry) : List (UserId × Subscription) :=
  r.sessions.toList.flatMap fun (user, s) =>
    s.subscriptions.toList.map fun (_, subscription) => (user, subscription)

theorem mem_subscriptionsOf : (user, subscription) ∈ (after calls).subscriptionsOf ↔
    Subscribed calls user subscription := by
  rw [subscribed_iff]
  constructor
  · intro h
    obtain ⟨⟨user', s⟩, hs, h⟩ := List.mem_flatMap.1 h
    obtain ⟨⟨topic, subscription'⟩, htopic, heq⟩ := List.mem_map.1 h
    obtain ⟨rfl, rfl⟩ := Prod.mk.inj heq
    have hs := Std.ExtTreeMap.mem_toList_iff_getElem?_eq_some.1 hs
    have htopic := Std.ExtTreeMap.mem_toList_iff_getElem?_eq_some.1 htopic
    obtain rfl := Session.topic_of_subscription? htopic
    exact ⟨s, hs, htopic⟩
  · rintro ⟨s, hs, hsubscription⟩
    refine List.mem_flatMap.2 ⟨(user, s), ?_,
      List.mem_map.2 ⟨(subscription.topic, subscription), ?_, rfl⟩⟩
    · exact Std.ExtTreeMap.mem_toList_iff_getElem?_eq_some.2 hs
    · exact Std.ExtTreeMap.mem_toList_iff_getElem?_eq_some.2 hsubscription

/-- No subscription comes twice: users are different, and so are the topics of one user's. -/
theorem nodup_subscriptionsOf (calls : List Call) : (after calls).subscriptionsOf.Nodup := by
  refine List.pairwise_flatMap.2 ⟨fun (user, s) hs => ?_, ?_⟩
  · have hs := Std.ExtTreeMap.mem_toList_iff_getElem?_eq_some.1 hs
    refine List.pairwise_map.2 (s.subscriptions.distinct_keys_toList.imp_of_mem ?_)
    intro (topic₁, subscription₁) (topic₂, subscription₂) h₁ h₂ hne heq
    have h₁ := Std.ExtTreeMap.mem_toList_iff_getElem?_eq_some.1 h₁
    have h₂ := Std.ExtTreeMap.mem_toList_iff_getElem?_eq_some.1 h₂
    have hsame : topic₁ = topic₂ := by
      rw [← Session.topic_of_subscription? h₁, ← Session.topic_of_subscription? h₂,
        (Prod.mk.inj heq).2]
    exact hne (Std.LawfulEqOrd.compare_eq_iff_eq.2 hsame)
  · refine (after calls).sessions.distinct_keys_toList.imp fun {entry₁ entry₂} hne => ?_
    intro a ha b hb heq
    obtain ⟨_, -, rfl⟩ := List.mem_map.1 ha
    obtain ⟨_, -, rfl⟩ := List.mem_map.1 hb
    exact hne (Std.LawfulEqOrd.compare_eq_iff_eq.2 (Prod.mk.inj heq).1)

/-- **What is counted after some calls**: every user with a session, and every subscription,
once. -/
theorem stats_after (calls : List Call) :
    (∃ users : List UserId, users.Nodup ∧ (∀ user, user ∈ users ↔ Online calls user) ∧
      (after calls).stats.sessions = users.length) ∧
    ∃ subscriptions : List (UserId × Subscription), subscriptions.Nodup ∧
      (∀ user subscription, (user, subscription) ∈ subscriptions ↔
        Subscribed calls user subscription) ∧
      (after calls).stats.subscriptions = subscriptions.length := by
  refine ⟨⟨(after calls).sessions.keys, Std.ExtTreeMap.nodup_keys, fun user => ?_,
    Std.ExtTreeMap.length_keys.symm⟩, (after calls).subscriptionsOf, nodup_subscriptionsOf calls,
    fun user subscription => mem_subscriptionsOf, ?_⟩
  · rw [online_iff, Std.ExtTreeMap.mem_keys, Std.ExtTreeMap.mem_iff_isSome_getElem?,
      Option.isSome_iff_exists]
    rfl
  · exact (foldl_subscriptionCount _ 0).trans (Nat.zero_add _)

/-! ## A registry after some calls -/

/-- **A registry after any calls.** A user's session depends on the calls that name the user only,
in their order. It is that of the user's last connection if nothing has ended it, with the latest
subscription to each topic that was made since and not ended; of the subscriptions that it was
connected with it keeps those to whose topics none was made or ended since. So the trace decides
what becomes of a message, thread by thread since threads have different topics, and what is
counted. -/
theorem registry_after (calls : List Call) :
    (∀ user, (after calls).session? user =
      (after (calls.filter (·.user = user))).session? user) ∧
    (∀ user s, (after calls).session? user = some s ↔
      s.user = user ∧ ∃ connected since, Held calls connected since ∧ connected.Continues s ∧
        ∀ topic subscription, s.subscription? topic = some subscription ↔
          subscription.topic = topic ∧ Holds connected since subscription) ∧
    (∀ epoch user message,
      ((after calls).route epoch user message = .dropped ↔ ¬Online calls user) ∧
      ((after calls).route epoch user message = .direct ↔
        WatchesInTime calls epoch user message) ∧
      ((after calls).route epoch user message = .notification ↔
        Online calls user ∧ ¬WatchesInTime calls epoch user message)) ∧
    Function.Injective ThreadId.topic ∧
    (∃ users : List UserId, users.Nodup ∧ (∀ user, user ∈ users ↔ Online calls user) ∧
      (after calls).stats.sessions = users.length) ∧
    ∃ subscriptions : List (UserId × Subscription), subscriptions.Nodup ∧
      (∀ user subscription, (user, subscription) ∈ subscriptions ↔
        Subscribed calls user subscription) ∧
      (after calls).stats.subscriptions = subscriptions.length :=
  ⟨session?_callAll_filter empty calls, fun _ _ => session?_after_eq_some_iff,
    route_after calls, ThreadId.topic_injective, stats_after calls⟩

/-- A session of a user, and a newer one. -/
def firstSession : Session := { user := "ann", sessionId := "a1", connectedAt := 1000 }

def newerSession : Session := { user := "ann", sessionId := "a2", connectedAt := 2000 }

/-- A subscription that is made in the first of them. -/
def firstWatch : Subscription := { topic := "/a", joinedAt := 1500, subscriptionId := "1" }

/-- **A session that was displaced can be connected again**, and then it has the subscription that
was made before, although none was made since. A session that is displaced and not connected again
does not come back when the newer one is disconnected, although nothing has disconnected it. -/
theorem displaced_session_reconnected :
    (∃ displaced,
      (after [.connect firstSession, .subscribe "ann" firstWatch]).session? "ann" =
        some displaced ∧
      (after [.connect firstSession, .subscribe "ann" firstWatch, .connect newerSession,
        .connect displaced]).subscription? "ann" "/a" = some firstWatch) ∧
    (after [.connect firstSession, .connect newerSession,
      .disconnectSession "ann" "a2"]).session? "ann" = none := by
  refine ⟨⟨firstSession.subscribe firstWatch, ?_, by decide⟩, ?_⟩
  · simp [after, callAll, call, session?_subscribe, session?_connect, firstSession]
  · exact Option.isNone_iff_eq_none.1 (by decide)

end ChatRelay.Registry

import Mathlib.Data.List.Induction
import ChatRelay.Proofs.Session

/-!
# What a registry holds after some calls

A user's session after any calls is the one that they connected with last, unless it was
disconnected since (`Held`). It is the session that was connected (`Session.Continues`), but its
subscriptions are, for each topic, the latest one that was made since and not ended (`Kept`), or the
one that it had when it was connected, if none was made or ended since (`Holds`). Calls for other
users do not matter. What is held and what is kept are instances of the same thing, a call after
which nothing came that would undo it (`Latest`); `session?_since` says what the calls after a
connection do to the session, and `held_of_session?` that there was such a connection.
-/

namespace ChatRelay

namespace Session

theorem subscription?_subscribe (s : Session) (subscription : Subscription) (topic : String) :
    (s.subscribe subscription).subscription? topic =
      if subscription.topic = topic then some subscription else s.subscription? topic := by
  simp [subscription?, subscribe, Std.ExtTreeMap.getElem?_insert]

theorem subscription?_unsubscribe (s : Session) (topic topic' : String) :
    (s.unsubscribe topic).subscription? topic' =
      if topic = topic' then none else s.subscription? topic' := by
  simp [subscription?, unsubscribe, Std.ExtTreeMap.getElem?_erase]

theorem topic_of_subscription? {s : Session} {topic : String} {subscription : Subscription}
    (h : s.subscription? topic = some subscription) : subscription.topic = topic :=
  s.filed topic subscription h

/-- A session as it was connected, but for its subscriptions. -/
structure Continues (connected s : Session) : Prop where
  user : s.user = connected.user
  sessionId : s.sessionId = connected.sessionId
  remoteAddress : s.remoteAddress = connected.remoteAddress
  connectedAt : s.connectedAt = connected.connectedAt

namespace Continues

theorem refl (s : Session) : s.Continues s := ⟨rfl, rfl, rfl, rfl⟩

theorem trans {s t u : Session} (h : s.Continues t) (h' : t.Continues u) : s.Continues u :=
  ⟨h'.user.trans h.user, h'.sessionId.trans h.sessionId, h'.remoteAddress.trans h.remoteAddress,
    h'.connectedAt.trans h.connectedAt⟩

/-- What continues a session is told by its subscriptions. -/
theorem eq {connected s t : Session} (hs : connected.Continues s) (ht : connected.Continues t)
    (hsubscriptions : ∀ topic subscription,
      s.subscription? topic = some subscription ↔ t.subscription? topic = some subscription) :
    s = t := by
  have hsame : s.subscriptions = t.subscriptions :=
    Std.ExtTreeMap.ext_getElem? fun topic => Option.ext (hsubscriptions topic)
  have huser := hs.user.trans ht.user.symm
  have hsession := hs.sessionId.trans ht.sessionId.symm
  have haddress := hs.remoteAddress.trans ht.remoteAddress.symm
  have hconnected := hs.connectedAt.trans ht.connectedAt.symm
  cases s
  cases t
  simp_all

end Continues

end Session

namespace Registry

/-- A call that changes a registry. -/
inductive Call where
  | connect (session : Session)
  | disconnect (user : UserId)
  | disconnectSession (user : UserId) (session : SessionId)
  | subscribe (user : UserId) (subscription : Subscription)
  | unsubscribe (user : UserId) (topic : String)

namespace Call

/-- The user whom a call names. -/
def user : Call → UserId
  | connect session => session.user
  | disconnect user => user
  | disconnectSession user _ => user
  | subscribe user _ => user
  | unsubscribe user _ => user

/-- Whether a call puts an end to a session, by a newer one in its place or without. -/
def EndsSession (s : Session) : Call → Prop
  | connect newer => newer.user = s.user
  | disconnect user => user = s.user
  | disconnectSession user session => user = s.user ∧ session = s.sessionId
  | subscribe _ _ => False
  | unsubscribe _ _ => False

/-- What ends a session ends it whatever its subscriptions are. -/
theorem endsSession_of_continues {s t : Session} (h : s.Continues t) :
    EndsSession t = EndsSession s := by
  funext c
  cases c <;> simp [EndsSession, h.user, h.sessionId]

/-- Whether a call puts an end to what a user's subscription to a topic was. -/
def EndsSubscription (user : UserId) (topic : String) : Call → Prop
  | subscribe user' subscription => user' = user ∧ subscription.topic = topic
  | unsubscribe user' topic' => user' = user ∧ topic' = topic
  | _ => False

end Call

/-- The registry after a call. -/
def call (r : Registry) : Call → Registry
  | .connect session => r.connect session
  | .disconnect user => r.disconnect user
  | .disconnectSession user session => r.disconnectSession user session
  | .subscribe user subscription => r.subscribe user subscription
  | .unsubscribe user topic => r.unsubscribe user topic

/-- The registry after some calls, one after the other. -/
def callAll (r : Registry) (calls : List Call) : Registry := calls.foldl call r

/-- The registry after some calls on a new one. -/
def after (calls : List Call) : Registry := empty.callAll calls

/-! ## What was called last -/

/-- Among some calls is the given one, and none of those after it, `later`, ends what it brought
about. -/
def Latest (ends : Call → Prop) (calls : List Call) (c : Call) (later : List Call) : Prop :=
  ∃ before, calls = before ++ c :: later ∧ ∀ c' ∈ later, ¬ends c'

/-- A session was connected by its user's last connection, and it was not disconnected; `since` are
the calls after that connection. -/
def Held (calls : List Call) (connected : Session) (since : List Call) : Prop :=
  Latest (Call.EndsSession connected) calls (.connect connected) since

/-- A subscription is the latest of a user to its topic, and it was not ended. -/
def Kept (calls : List Call) (user : UserId) (subscription : Subscription) : Prop :=
  ∃ later, Latest (Call.EndsSubscription user subscription.topic) calls
    (.subscribe user subscription) later

/-- A session has a subscription after the calls since it was connected: it is the latest to its
topic that was made and not ended, or the session had it and none was made or ended. -/
def Holds (connected : Session) (since : List Call) (subscription : Subscription) : Prop :=
  Kept since connected.user subscription ∨
    connected.subscription? subscription.topic = some subscription ∧
      ∀ c ∈ since, ¬c.EndsSubscription connected.user subscription.topic

variable {r : Registry} {calls since later : List Call} {c last : Call} {ends : Call → Prop}
  {user : UserId} {s : Session} {subscription : Subscription}

theorem not_latest_nil : ¬Latest ends [] c later := by
  rintro ⟨before, h, -⟩
  exact List.append_ne_nil_of_right_ne_nil before (List.cons_ne_nil c later) h.symm

/-- One more call is the latest itself, or it does not end what the latest before brought about. -/
theorem latest_concat : Latest ends (calls ++ [last]) c later ↔
    last = c ∧ later = [] ∨
      ∃ init, later = init ++ [last] ∧ ¬ends last ∧ Latest ends calls c init := by
  constructor
  · rintro ⟨before, h, hnone⟩
    rcases later.eq_nil_or_concat with rfl | ⟨init, c', rfl⟩
    · exact .inl ⟨List.singleton_inj.1 (List.append_inj_right' h rfl), rfl⟩
    · rw [List.concat_eq_append] at h hnone ⊢
      rw [← List.cons_append, ← List.append_assoc] at h
      obtain rfl := List.append_inj_left' h rfl
      obtain rfl := List.singleton_inj.1 (List.append_inj_right' h rfl)
      exact .inr ⟨init, rfl, hnone last (by simp), before, rfl,
        fun c' hc' => hnone c' (List.mem_append_left _ hc')⟩
  · rintro (⟨rfl, rfl⟩ | ⟨init, rfl, hlast, before, rfl, hnone⟩)
    · exact ⟨calls, rfl, nofun⟩
    · refine ⟨before, by simp, fun c' hc' => ?_⟩
      rcases List.mem_append.1 hc' with hc' | hc'
      · exact hnone c' hc'
      · rwa [List.mem_singleton.1 hc']

theorem not_kept_nil : ¬Kept [] user subscription := fun ⟨_, h⟩ => not_latest_nil h

/-- One more call makes the subscription, or it leaves its topic alone. -/
theorem kept_concat : Kept (calls ++ [last]) user subscription ↔
    last = .subscribe user subscription ∨
      ¬last.EndsSubscription user subscription.topic ∧ Kept calls user subscription := by
  simp only [Kept, latest_concat]
  constructor
  · rintro ⟨later, ⟨hlast, -⟩ | ⟨init, -, hnot, h⟩⟩
    · exact .inl hlast
    · exact .inr ⟨hnot, init, h⟩
  · rintro (hlast | ⟨hnot, init, h⟩)
    · exact ⟨[], .inl ⟨hlast, rfl⟩⟩
    · exact ⟨init ++ [last], .inr ⟨init, rfl, hnot, h⟩⟩

theorem holds_nil : Holds s [] subscription ↔
    s.subscription? subscription.topic = some subscription := by
  simp [Holds, not_kept_nil]

/-- After one more call the session has the subscription if the call has made it, or has left its
topic alone and the session had it before. -/
theorem holds_concat : Holds s (since ++ [last]) subscription ↔
    last = .subscribe s.user subscription ∨
      ¬last.EndsSubscription s.user subscription.topic ∧ Holds s since subscription := by
  simp only [Holds, kept_concat, List.forall_mem_append, List.forall_mem_singleton]
  grind

/-! ## One call -/

/-- What a call makes of the session of the user whom it names. -/
def Call.act (s : Option Session) : Call → Option Session
  | connect session => some session
  | disconnect _ => none
  | disconnectSession _ session => s.filter (·.sessionId ≠ session)
  | subscribe _ subscription => s.map (·.subscribe subscription)
  | unsubscribe _ topic => s.map (·.unsubscribe topic)

/-- **A call changes the session of the user whom it names, and no other.** -/
theorem session?_call (r : Registry) (c : Call) (user : UserId) :
    (r.call c).session? user =
      if c.user = user then c.act (r.session? user) else r.session? user := by
  cases c with
  | connect session => exact session?_connect r user session
  | disconnect user' => exact session?_disconnect r user user'
  | disconnectSession user' session =>
    show (r.disconnectSession user' session).session? user = if user' = user then _ else _
    rw [disconnectSession, named?]
    by_cases huser : user' = user
    · subst huser
      rw [if_pos rfl]
      cases hs : r.session? user' with
      | none => simp [hs, Call.act]
      | some s =>
        by_cases hname : s.sessionId = session <;>
          simp [Option.filter, hname, Call.act, session?_disconnect, hs]
    · rw [if_neg huser]
      split
      · rw [session?_disconnect, if_neg huser]
      · rfl
  | subscribe user' subscription => exact session?_subscribe r user user' subscription
  | unsubscribe user' topic => exact session?_unsubscribe r user user' topic

theorem callAll_concat : r.callAll (calls ++ [last]) = (r.callAll calls).call last :=
  List.foldl_append

/-- **A user's session depends on the calls that name the user only.** -/
theorem session?_callAll_filter (r : Registry) (calls : List Call) (user : UserId) :
    (r.callAll calls).session? user =
      (r.callAll (calls.filter (·.user = user))).session? user := by
  induction calls using List.reverseRecOn with
  | nil => rfl
  | append_singleton calls last ih =>
    rw [callAll_concat, session?_call, ih, List.filter_append]
    by_cases huser : last.user = user
    · rw [if_pos huser, List.filter_cons, if_pos (decide_eq_true huser), List.filter_nil,
        callAll_concat, session?_call, if_pos huser]
    · rw [if_neg huser, List.filter_cons, if_neg (by simpa using huser), List.filter_nil,
        List.append_nil]

/-! ## Some calls -/

/-- A call that does not end a session makes at most a subscription, or ends one. -/
theorem session?_call_of_not_ends (hr : r.session? s.user = some s) (hlast : ¬last.EndsSession s) :
    ∃ t, (r.call last).session? s.user = some t ∧ s.Continues t ∧
      ∀ topic subscription, t.subscription? topic = some subscription ↔
        last = .subscribe s.user subscription ∧ subscription.topic = topic ∨
          ¬last.EndsSubscription s.user topic ∧ s.subscription? topic = some subscription := by
  rw [session?_call, hr]
  by_cases hnamed : last.user = s.user
  · rw [if_pos hnamed]
    cases last with
    | connect newer => exact absurd hnamed hlast
    | disconnect user => exact absurd hnamed hlast
    | disconnectSession user session =>
      have hother : s.sessionId ≠ session := fun h => hlast ⟨hnamed, h.symm⟩
      exact ⟨s, by simp [Call.act, hother], .refl s, by simp [Call.EndsSubscription]⟩
    | subscribe user new =>
      obtain rfl : user = s.user := hnamed
      refine ⟨s.subscribe new, rfl, ⟨rfl, rfl, rfl, rfl⟩, fun topic subscription => ?_⟩
      rw [Session.subscription?_subscribe]
      by_cases htopic : new.topic = topic
      · subst htopic
        simp only [if_true, Option.some.injEq, Call.EndsSubscription, Call.subscribe.injEq,
          and_self, true_and, not_true_eq_false, false_and, or_false]
        exact ⟨fun h => ⟨h, h ▸ rfl⟩, And.left⟩
      · simp only [Call.EndsSubscription, Call.subscribe.injEq, true_and, htopic, not_false_eq_true]
        refine ⟨.inr, fun h => h.resolve_left ?_⟩
        rintro ⟨rfl, h⟩
        exact htopic h
    | unsubscribe user topic =>
      obtain rfl : user = s.user := hnamed
      refine ⟨s.unsubscribe topic, rfl, ⟨rfl, rfl, rfl, rfl⟩, fun topic' subscription => ?_⟩
      rw [Session.subscription?_unsubscribe]
      by_cases htopic : topic = topic' <;> simp [htopic, Call.EndsSubscription]
  · rw [if_neg hnamed]
    refine ⟨s, rfl, .refl s, fun topic subscription => ?_⟩
    have hneither : last ≠ .subscribe s.user subscription := fun h => hnamed (h ▸ rfl)
    have hnot : ¬last.EndsSubscription s.user topic := by
      intro h
      cases last with
      | subscribe user new => exact hnamed h.1
      | unsubscribe user topic => exact hnamed h.1
      | _ => exact h
    simp [hneither, hnot]

/-- **What the calls after a connection do**: as long as none of them ends the session, it stays,
with the latest subscriptions that were made or those that it had. -/
theorem session?_since (hr : r.session? s.user = some s) (hsince : ∀ c ∈ since, ¬c.EndsSession s) :
    ∃ t, (r.callAll since).session? s.user = some t ∧ s.Continues t ∧
      ∀ topic subscription, t.subscription? topic = some subscription ↔
        subscription.topic = topic ∧ Holds s since subscription := by
  induction since using List.reverseRecOn with
  | nil =>
    refine ⟨s, hr, .refl s, fun topic subscription => ?_⟩
    rw [holds_nil]
    constructor
    · intro h
      obtain rfl := Session.topic_of_subscription? h
      exact ⟨rfl, h⟩
    · rintro ⟨rfl, h⟩
      exact h
  | append_singleton since last ih =>
    obtain ⟨t, ht, hsame, hsubscriptions⟩ := ih fun c hc => hsince c (List.mem_append_left _ hc)
    have hlast : ¬last.EndsSession t := by
      rw [Call.endsSession_of_continues hsame]
      exact hsince last (by simp)
    rw [← hsame.user] at ht ⊢
    obtain ⟨t', ht', hsame', hsubscriptions'⟩ := session?_call_of_not_ends ht hlast
    refine ⟨t', by rwa [callAll_concat], hsame.trans hsame', fun topic subscription => ?_⟩
    rw [hsubscriptions', hsubscriptions, holds_concat, hsame.user]
    constructor
    · rintro (⟨rfl, htopic⟩ | ⟨hnot, htopic, hholds⟩)
      · exact ⟨htopic, .inl rfl⟩
      · exact ⟨htopic, .inr ⟨htopic ▸ hnot, hholds⟩⟩
    · rintro ⟨htopic, rfl | ⟨hnot, hholds⟩⟩
      · exact .inl ⟨rfl, htopic⟩
      · exact .inr ⟨htopic ▸ hnot, htopic, hholds⟩

/-- A user's session is that of a connection which nothing has ended. -/
theorem held_of_session? (h : (after calls).session? user = some s) :
    s.user = user ∧ ∃ connected since, Held calls connected since ∧ connected.Continues s := by
  induction calls using List.reverseRecOn generalizing s with
  | nil => exact nomatch (session?_empty user).symm.trans h
  | append_singleton calls last ih =>
    have hkept {t : Session} (ht : (after calls).session? user = some t) (hsame : t.Continues s)
        (hnot : ¬last.EndsSession s) : s.user = user ∧
          ∃ connected since, Held (calls ++ [last]) connected since ∧ connected.Continues s := by
      obtain ⟨huser, connected, since, hheld, hcontinues⟩ := ih ht
      rw [Call.endsSession_of_continues (hcontinues.trans hsame)] at hnot
      exact ⟨hsame.user.trans huser, connected, since ++ [last],
        latest_concat.2 (.inr ⟨since, rfl, hnot, hheld⟩), hcontinues.trans hsame⟩
    rw [after, callAll_concat, session?_call, ← after] at h
    by_cases hnamed : last.user = user
    · rw [if_pos hnamed] at h
      cases last with
      | connect session =>
        obtain rfl := Option.some.inj h
        exact ⟨hnamed, session, [], latest_concat.2 (.inl ⟨rfl, rfl⟩), .refl session⟩
      | disconnect user' => exact nomatch h
      | disconnectSession user' session =>
        obtain ⟨ht, hother⟩ := Option.filter_eq_some_iff.1 h
        exact hkept ht (.refl s) fun hends => (of_decide_eq_true hother) hends.2.symm
      | subscribe user' subscription =>
        obtain ⟨t, ht, rfl⟩ := Option.map_eq_some_iff.1 h
        exact hkept ht ⟨rfl, rfl, rfl, rfl⟩ id
      | unsubscribe user' topic =>
        obtain ⟨t, ht, rfl⟩ := Option.map_eq_some_iff.1 h
        exact hkept ht ⟨rfl, rfl, rfl, rfl⟩ id
    · rw [if_neg hnamed] at h
      refine hkept h (.refl s) fun hends => hnamed ?_
      rw [← (ih h).1]
      cases last with
      | connect session => exact hends
      | disconnect user' => exact hends
      | disconnectSession user' session => exact hends.1
      | _ => exact hends.elim

end Registry

end ChatRelay

import ChatRelay.Proofs.Registry.Held
import ChatRelay.Proofs.Server.Announced
import ChatRelay.Proofs.Server.ReadBack

/-!
# Watching a thread

A run calls its registry as its events say (`registry_run`), so that what the registry holds can be
read off the events. A user who has subscribed to a topic since, and not ended that, is subscribed
to it since an instant that the clock has shown (`Watching.subscribed`). On a clock that never steps
back no later message on the thread was created before: its identifier is minted from a later
reading. So the user gets the message itself and counts as having read it
(`watching_gets_message`).
-/

namespace ChatRelay

/-- The call of the registry that an event makes. -/
def Event.call? : Event → Option Registry.Call
  | .opening now user address session =>
    some (.connect { user, sessionId := session, remoteAddress := address, connectedAt := now })
  | .closing user session => some (.disconnectSession user session)
  | .frame clock user (.subscribe id topic) =>
    some (.subscribe user { topic, joinedAt := clock.now, subscriptionId := toString id })
  | .frame _ user (.unsubscribe _ topic) => some (.unsubscribe user topic)
  | _ => none

/-- An event after which a user does not watch a topic any more in a session: the user ends the
subscription or opens another session, or the session is closed. -/
def Event.EndsWatch (user : UserId) (topic : String) (session : SessionId) :
    Event → Prop
  | .opening _ user' _ _ => user' = user
  | .closing user' session' => user' = user ∧ session' = session
  | .frame _ user' (.unsubscribe _ topic') => user' = user ∧ topic' = topic
  | _ => False

instance (user : UserId) (topic : String) (session : SessionId) (event : Event) :
    Decidable (event.EndsWatch user topic session) :=
  match event with
  | .opening _ _ _ _ => inferInstanceAs (Decidable (_ = _))
  | .closing _ _ => inferInstanceAs (Decidable (_ ∧ _))
  | .frame _ _ (.unsubscribe _ _) => inferInstanceAs (Decidable (_ ∧ _))
  | .frame _ _ (.subscribe ..) => inferInstanceAs (Decidable False)
  | .frame _ _ (.send ..) => inferInstanceAs (Decidable False)
  | .frame _ _ (.history ..) => inferInstanceAs (Decidable False)
  | .frame _ _ (.typing ..) => inferInstanceAs (Decidable False)
  | .frame _ _ (.ping ..) => inferInstanceAs (Decidable False)

namespace Registry

/-- A subscription that was made and not ended, if it was not replaced by a newer one to its topic,
which was. -/
theorem exists_kept (before : List Call) {later : List Call} {user : UserId}
    {subscription : Subscription} (h : Call.unsubscribe user subscription.topic ∉ later) :
    ∃ newest : Subscription, newest.topic = subscription.topic ∧
      Kept (before ++ .subscribe user subscription :: later) user newest := by
  induction later using List.reverseRecOn with
  | nil => exact ⟨subscription, rfl, kept_concat.2 (.inl rfl)⟩
  | append_singleton later last ih =>
    rw [List.mem_append, not_or, List.mem_singleton] at h
    obtain ⟨newest, htopic, hkept⟩ := ih h.1
    rw [← List.cons_append, ← List.append_assoc]
    by_cases hends : last.EndsSubscription user newest.topic
    · cases last with
      | subscribe user' subscription' =>
        obtain ⟨rfl, htopic'⟩ := hends
        exact ⟨subscription', htopic'.trans htopic, kept_concat.2 (.inl rfl)⟩
      | unsubscribe user' topic =>
        obtain ⟨rfl, rfl⟩ := hends
        exact absurd (htopic ▸ rfl) h.2
      | _ => exact hends.elim
    · exact ⟨newest, htopic, kept_concat.2 (.inr ⟨hends, hkept⟩)⟩

/-- **A session that subscribes stays subscribed** until it ends or the subscription does. -/
theorem subscribed_since {before later : List Call} {t : Session} (subscription : Subscription)
    (ht : (after before).session? t.user = some t)
    (hlater : ∀ c ∈ later,
      ¬(c.EndsSession t ∨ c = .unsubscribe t.user subscription.topic)) :
    ∃ t' newest, (after (before ++ .subscribe t.user subscription :: later)).session? t.user =
        some t' ∧
      t'.subscription? subscription.topic = some newest ∧
      .subscribe t.user newest ∈ before ++ .subscribe t.user subscription :: later := by
  obtain ⟨-, connected, since, ⟨first, rfl, hsince⟩, hcontinues⟩ := held_of_session? ht
  obtain ⟨newest, htopic, hkept⟩ := exists_kept since fun hmem =>
    hlater _ hmem (.inr rfl)
  have hheld : Held
      (first ++ .connect connected :: since ++ .subscribe t.user subscription :: later) connected
      (since ++ .subscribe t.user subscription :: later) := by
    refine ⟨first, by simp, fun c hc hends => ?_⟩
    rcases List.mem_append.1 hc with hc | hc
    · exact hsince c hc hends
    · rcases List.mem_cons.1 hc with rfl | hc
      · exact hends
      · rw [← Call.endsSession_of_continues hcontinues] at hends
        exact hlater c hc (.inl hends)
  obtain ⟨t', ht', -, hsubscriptions⟩ := session?_of_held hheld
  have hholds : Holds connected (since ++ .subscribe t.user subscription :: later) newest :=
    .inl (by rwa [← hcontinues.user])
  refine ⟨t', newest, hcontinues.user ▸ ht', (hsubscriptions _ _).2 ⟨htopic, hholds⟩, ?_⟩
  obtain ⟨_, between, hbetween, -⟩ := hkept
  rw [List.append_assoc, List.cons_append, hbetween]
  simp

/-- A registry is told by its sessions. -/
theorem ext_session? {r r' : Registry} (h : ∀ user, r.session? user = r'.session? user) :
    r = r' := by
  have hsessions : r.sessions = r'.sessions := Std.ExtTreeMap.ext_getElem? h
  cases r
  cases r'
  exact congrArg Registry.mk hsessions

/-- There is nothing to subscribe for a user without a session. -/
theorem subscribe_of_not_isConnected {r : Registry} {user : UserId}
    (h : r.isConnected user = false) (subscription : Subscription) :
    r.subscribe user subscription = r := by
  refine ext_session? fun user' => ?_
  rw [session?_subscribe]
  split
  next huser =>
    rw [isConnected, Option.isSome_eq_false_iff, Option.isNone_iff_eq_none] at h
    rw [← huser, h]
    rfl
  next => rfl

end Registry

namespace Server

variable {s s' s₀ : Server} {log : List Entry} {events : List Event} {event : Event}
  {user : UserId} {topic : String} {config : Config} {host : Host} {now : Millis}

/-! ## The registry of a run -/

theorem send_registry {clock : Clock} {id : RequestId} {draft : Draft} {members : List UserId}
    {reply : Reply} (h : s.send clock id draft members = some reply) :
    reply.server.registry = s.registry := by
  obtain ⟨minting, -, ⟨e, -, -, hserver⟩ | ⟨messageId, -, -, hserver⟩⟩ := send_cases h
  · rw [hserver]
    rfl
  · rw [hserver]
    exact deliver_registry _ _

/-- **All that an event does to the registry** is one call, or none. -/
theorem registry_step {reply : Option ServerFrame} (h : s.step event = some (reply, s')) :
    s'.registry = s.registry.callAll event.call?.toList := by
  cases event with
  | opening now user address session =>
    obtain ⟨rfl, rfl⟩ := Prod.mk.inj (Option.some.inj h)
    simp only [openSession]
    split <;> split <;> rfl
  | closing user session =>
    obtain ⟨rfl, rfl⟩ := Prod.mk.inj (Option.some.inj h)
    simp only [closeSession]
    split <;> rfl
  | frame clock user frame =>
    rcases step_frame_eq_some_iff.1 h with ⟨hstops, -, rfl⟩ | ⟨answer, hanswer, -, rfl⟩
    · obtain ⟨id, thread, query, rfl, -⟩ := stops_iff.1 hstops
      rfl
    cases frame with
    | subscribe id topic =>
      simp only [handle] at hanswer
      split at hanswer <;> obtain rfl := Option.some.inj hanswer
      · rfl
      next hconnected =>
        exact (Registry.subscribe_of_not_isConnected (Bool.eq_false_iff.2 hconnected) _).symm
    | unsubscribe id topic =>
      obtain rfl := Option.some.inj hanswer
      rfl
    | send id thread name members body => exact send_registry hanswer
    | history id thread query =>
      rw [show answer.server = _ from sendHistory_rest (sendHistory_of_handle hanswer)]
      rfl
    | typing id thread members =>
      obtain rfl := Option.some.inj hanswer
      exact s.sendTyping_kept push_registry user thread members
    | ping timestamp =>
      obtain rfl := Option.some.inj hanswer
      rfl

/-- The calls of the registry that some events make. -/
def registryCalls (events : List Event) : List Registry.Call := events.filterMap Event.call?

theorem registryCalls_append (later : List Event) :
    registryCalls (events ++ later) = registryCalls events ++ registryCalls later :=
  List.filterMap_append

theorem registryCalls_cons :
    registryCalls (event :: events) = event.call?.toList ++ registryCalls events := by
  rw [registryCalls, List.filterMap_cons]
  cases event.call? <;> rfl

/-- **The registry after a run** is the one after the calls that its events make. -/
theorem registry_run (hstart : start config host now = .ok s₀)
    (hrun : s₀.run events = some (log, s)) :
    s.registry = .after (registryCalls events) := by
  have hcalls : s.registry = .after (registryCalls (log.map (·.event))) := by
    refine run_induct (P := fun log s => s.registry = .after (registryCalls (log.map (·.event))))
      hrun ?_ ?_
    · obtain ⟨generator, index, history, -, -, -, rfl⟩ := start_eq_ok hstart
      rfl
    · intro log s event reply s' ih hstep
      rw [registry_step hstep, ih, List.map_append, List.map_singleton, registryCalls_append,
        registryCalls_cons, Registry.after, Registry.after, Registry.callAll, Registry.callAll,
        Registry.callAll, List.foldl_append]
      exact congrArg _ (List.append_nil _).symm
  rwa [map_event_of_run hrun] at hcalls

/-! ## Who watches a topic -/

/-- A subscription of a user to a topic was acknowledged, and nothing has ended it since. -/
def Watching (log : List Entry) (user : UserId) (topic : String) : Prop :=
  ∃ before clock id after,
    log = before ++ ⟨.frame clock user (.subscribe id topic), some (.ack id none)⟩ :: after ∧
      ∀ session, Live (before.map (·.event)) user session →
        ∀ entry ∈ after, ¬entry.event.EndsWatch user topic session

/-- A call that ends a session or its subscription is made by an event that ends what it watches. -/
theorem endsWatch_of_call? {c : Registry.Call} {t : Session} (hc : event.call? = some c)
    (h : c.EndsSession t ∨ c = .unsubscribe t.user topic) :
    event.EndsWatch t.user topic t.sessionId := by
  rcases h with h | rfl
  · cases event with
    | opening now user address session =>
      obtain rfl := Option.some.inj hc
      exact h
    | closing user session =>
      obtain rfl := Option.some.inj hc
      exact h
    | frame clock user frame =>
      cases frame with
      | subscribe id topic =>
        obtain rfl := Option.some.inj hc
        exact h.elim
      | unsubscribe id topic =>
        obtain rfl := Option.some.inj hc
        exact h.elim
      | _ => exact nomatch hc
  · cases event with
    | opening now user address session => exact nomatch Option.some.inj hc
    | closing user session => exact nomatch Option.some.inj hc
    | frame clock user' frame =>
      cases frame with
      | subscribe id topic => exact nomatch Option.some.inj hc
      | unsubscribe id topic => exact Registry.Call.unsubscribe.inj (Option.some.inj hc)
      | _ => exact nomatch hc

/-- The subscriptions that are called for are made at readings of the clock. -/
theorem joinedAt_mem_readings {subscription : Subscription}
    (h : Registry.Call.subscribe user subscription ∈ registryCalls events) :
    subscription.joinedAt ∈ readings events := by
  obtain ⟨event, hevent, hcall⟩ := List.mem_filterMap.1 h
  refine List.mem_flatMap.2 ⟨event, hevent, ?_⟩
  cases event with
  | opening now user address session => exact nomatch Option.some.inj hcall
  | closing user session => exact nomatch Option.some.inj hcall
  | frame clock user' frame =>
    cases frame with
    | subscribe id topic =>
      obtain ⟨rfl, rfl⟩ := Registry.Call.subscribe.inj (Option.some.inj hcall)
      exact List.mem_cons_self
    | unsubscribe id topic => exact nomatch Option.some.inj hcall
    | _ => exact nomatch hcall

/-- **Who watches a topic has a session that is subscribed to it** since a reading of the clock. -/
theorem Watching.subscribed (h : Watching log user topic)
    (hstart : start config host now = .ok s₀) (hrun : s₀.run events = some (log, s))
    (hfresh : (opened events).Nodup) :
    ∃ session subscription, s.registry.session? user = some session ∧
      session.subscription? topic = some subscription ∧
      subscription.joinedAt ∈ readings events := by
  obtain ⟨before, clock, id, after, rfl, hkeeps⟩ := h
  obtain ⟨middle, next, hbefore, hstep, -⟩ := run_before hrun
  obtain rfl := map_event_of_run hrun
  -- the user had a session, or the subscription would have been refused
  obtain ⟨answer, hanswer, hreply, -⟩ := answer_of_step hstep nofun
  have hconnected : middle.registry.isConnected user = true := by
    by_contra hoffline
    rw [handle, if_neg hoffline] at hanswer
    rw [← Option.some.inj hanswer] at hreply
    cases hreply
  obtain ⟨session, hsession⟩ := Option.isSome_iff_exists.1 hconnected
  have hlive : Live (before.map (·.event)) user session.sessionId := by
    rw [List.map_append, opened_append] at hfresh
    have hinStep := inStep_run hstart hbefore (List.nodup_append.1 hfresh).1
    rw [← hinStep.live, ← hinStep.names, Registry.name?, hsession]
    rfl
  rw [registry_run hstart hbefore] at hsession
  obtain ⟨rfl, -⟩ := Registry.held_of_session? hsession
  have hlater : ∀ c ∈ registryCalls (after.map (·.event)),
      ¬(c.EndsSession session ∨ c = .unsubscribe session.user topic) := by
    intro c hc hends
    obtain ⟨event, hevent, hcall⟩ := List.mem_filterMap.1 hc
    obtain ⟨entry, hentry, rfl⟩ := List.mem_map.1 hevent
    exact hkeeps session.sessionId hlive entry hentry (endsWatch_of_call? hcall hends)
  obtain ⟨t, newest, ht, htopic, hmem⟩ := Registry.subscribed_since
    { topic, joinedAt := clock.now, subscriptionId := toString id } hsession hlater
  have hcalls : registryCalls ((before ++
      ⟨.frame clock session.user (.subscribe id topic), some (.ack id none)⟩ :: after).map
        (·.event)) =
      registryCalls (before.map (·.event)) ++ .subscribe session.user
        { topic, joinedAt := clock.now, subscriptionId := toString id } ::
        registryCalls (after.map (·.event)) := by
    rw [List.map_append, List.map_cons, registryCalls_append, registryCalls_cons]
    rfl
  rw [← hcalls] at ht hmem
  exact ⟨t, newest, by rwa [registry_run hstart hrun], htopic, joinedAt_mem_readings hmem⟩

/-! ## Messages on a watched thread -/

section Sent

variable {clock : Clock} {author : UserId} {id : RequestId} {thread : ThreadId}
  {name : Option String} {members : List UserId} {body : String} {messageId : MessageId}
  {sent : Reply}

/-- An acknowledged message was created at a reading of the clock. -/
theorem OnTime.unixMillis_send {times : List Millis} (h : OnTime s₀ times log s)
    (hsend : s.handle clock author (.send id thread name members body) = some sent)
    (hack : sent.frame = .ack id (some messageId)) (hepoch : s₀.generator.epoch ≤ now)
    (hnow : now ∈ times) (hsteady : (times ++ clock.readings).Pairwise (· ≤ ·)) :
    ∃ reading ∈ clock.readings, s.generator.unixMillis messageId = reading.toNat := by
  obtain ⟨⟨reading, hreading, htimestamp⟩, -⟩ := h.send hsend hack hsteady
  refine ⟨reading, hreading, ?_⟩
  have hlater := (List.pairwise_append.1 hsteady).2.2 now hnow reading hreading
  rw [UInt64.le_iff_toNat_le] at hepoch hlater
  rw [Generator.unixMillis, htimestamp, Generator.elapsed, h.epoch]
  omega

/-- What an acknowledged message does: it is announced, and stored as read for every recipient to
whom it goes directly. -/
theorem send_direct
    (hsend : s.handle clock author (.send id thread name members body) = some sent)
    (hack : sent.frame = .ack id (some messageId)) :
    ∃ message : Message,
      message = { messageId, threadId := thread, threadName := name, authorName := none,
                  bucket := s.index.ofId messageId, author, body } ∧
      sent.server.index = s.index ∧
      s.Posts (s.announcements message (recipients author members)) sent.server ∧
      ∀ user ∈ recipients author members,
        s.registry.route s.generator.epoch user message = .direct →
          (Record.ofMessage message).withRead true ∈
            (sent.server.store.partition user thread message.bucket).records := by
  obtain ⟨-, -, -, hindex, -⟩ := send_kept hsend
  rcases send_posts_cases hsend with ⟨messageId', hframe, hposts⟩ | ⟨reason, hframe, -⟩
  · obtain ⟨-, hsame⟩ := ServerFrame.ack.inj (hack.symm.trans hframe)
    obtain rfl := Option.some.inj hsame
    refine ⟨_, rfl, hindex, hposts, fun user hmem hdirect => ?_⟩
    have hlisted : author = user ∨ user ∈ members := .inr (mem_recipients.1 hmem).1
    rw [send_partition hsend hack user thread, if_pos ⟨hlisted, rfl, rfl⟩,
      Partition.insert_records]
    simp only [Draft.send, hdirect, or_true, decide_true]
    exact mem_insertRecord_self _ _
  · rw [hframe] at hack
    cases hack

/-- **Whoever watches a thread gets its messages.** On a clock that never steps back, a message that
is acknowledged goes to the live session of every member who was listed and has a subscription to
the thread's topic: its queue gets the message as such, and the member's record is stored as
read. -/
theorem watching_gets_message (hstart : start config host now = .ok s₀)
    (hrun : s₀.run events = some (log, s)) (hfresh : (opened events).Nodup)
    (hwatching : Watching log user thread.topic)
    (hsend : s.handle clock author (.send id thread name members body) = some sent)
    (hack : sent.frame = .ack id (some messageId))
    (hsteady : (now :: readings events ++ clock.readings).Pairwise (· ≤ ·))
    (hother : user ≠ author) (hmember : user ∈ members) :
    ∃ session q, Live events user session ∧ s.registry.name? user = some session ∧
      s.outbox? user = some session ∧ s.queue? session = some q ∧
      sent.server.queue? session = some
        { q with
          frames := q.frames ++
            [.message thread.topic
              { messageId, threadId := thread, threadName := name, authorName := none,
                bucket := s₀.index.ofId messageId, author, body }] } ∧
      { messageId, threadId := thread, bucket := s₀.index.ofId messageId, author, body,
        read := true : Record } ∈
        (sent.server.store.partition user thread (s₀.index.ofId messageId)).records := by
  obtain ⟨hontime₀, hepoch, -, -, -⟩ := onTime_start hstart
  have hontime : OnTime s₀ (now :: readings events) log s := hontime₀.run hrun
  have hinStep : InStep events s := inStep_run hstart hrun hfresh
  obtain ⟨-, hstored⟩ := hontime.send hsend hack hsteady
  obtain ⟨message, rfl, hkept, hposts, hread⟩ := send_direct hsend hack
  have hindex : s.index = s₀.index := hkept.symm.trans hstored.filing
  have hmem : user ∈ recipients author members := mem_recipients.2 ⟨hmember, hother⟩
  -- the subscription was made before the message was created
  obtain ⟨session, subscription, hsession, hsubscription, hjoined⟩ :=
    hwatching.subscribed hstart hrun hfresh
  obtain ⟨reading, hreading, hmillis⟩ :=
    hontime.unixMillis_send hsend hack hepoch List.mem_cons_self hsteady
  have hwatches : session.Watches thread.topic (s.generator.unixMillis messageId) := by
    refine ⟨subscription, hsubscription, ?_⟩
    rw [hmillis, ← UInt64.le_iff_toNat_le]
    exact (List.pairwise_append.1 hsteady).2.2 _ (List.mem_cons_of_mem now hjoined) _ hreading
  have hname : s.registry.name? user = some session.sessionId := by
    rw [Registry.name?, hsession]
    rfl
  have houtbox : s.outbox? user = some session.sessionId := hinStep.names user ▸ hname
  obtain ⟨q, hq, habandoned, hopen⟩ := hinStep.queue_of_outbox? houtbox
  refine ⟨session.sessionId, q, (hinStep.live user session.sessionId).1 houtbox, hname, houtbox, hq,
    ?_, ?_⟩
  · rw [hposts.queues, hq, mail_announcements (recipients_nodup author members)
      (hinStep.outbox?_eq_some_iff hfresh houtbox), if_pos hmem,
      announcement?_of_session? hsession, if_pos hwatches, ← hindex]
    exact congrArg some (q.pushAll_of_open _ hopen habandoned)
  · rw [← hindex]
    refine hread user hmem ?_
    rw [route_eq_due, due, hsession]
    exact if_pos hwatches

end Sent

/-- A member who subscribes twice and whose older connection ends in between, and an author who has
subscribed to another thread. -/
def rejoined : List Entry :=
  [⟨.opening 1000 "ann" none "a1", none⟩, ⟨.opening 1001 "bob" none "b1", none⟩,
    ⟨.opening 1002 "bob" none "b2", none⟩,
    ⟨.frame ⟨1002, []⟩ "bob" (.subscribe 1 (ThreadId.topic ⟨0⟩)), some (.ack 1 none)⟩,
    ⟨.frame ⟨1500, []⟩ "bob" (.subscribe 2 (ThreadId.topic ⟨0⟩)), some (.ack 2 none)⟩,
    ⟨.closing "bob" "b1", none⟩,
    ⟨.frame ⟨1500, []⟩ "bob" (.unsubscribe 3 (ThreadId.topic ⟨1⟩)), some (.ack 3 none)⟩]

/-- What the general statement says of a message in the millisecond of the second subscription. -/
theorem watching_gets_message_at_once :
    ∃ log s sent q, secondsServer.run (rejoined.map (·.event)) = some (log, s) ∧
      s.handle ⟨1500, []⟩ "ann" (.send 4 ⟨0⟩ none ["bob"] "hello") = some sent ∧
      sent.frame = .ack 4 (some (.pack 1500 1 0)) ∧ s.queue? "b2" = some q ∧
      sent.server.queue? "b2" = some
        { q with
          frames := q.frames ++
            [.message (ThreadId.topic ⟨0⟩)
              { messageId := .pack 1500 1 0, threadId := ⟨0⟩, threadName := none, bucket := 1,
                author := "ann", authorName := none, body := "hello" }] } ∧
      { messageId := .pack 1500 1 0, threadId := ⟨0⟩, bucket := 1, author := "ann",
        body := "hello", read := true : Record } ∈
        (sent.server.store.partition "bob" ⟨0⟩ 1).records := by
  have hstart : start seconds {} 1000 = .ok secondsServer := rfl
  have hlog : (secondsServer.run (rejoined.map (·.event))).map (·.1) = some rejoined := by decide
  have hacked : (secondsServer.run (rejoined.map (·.event))).bind (fun after =>
      (after.2.handle ⟨1500, []⟩ "ann" (.send 4 ⟨0⟩ none ["bob"] "hello")).map
        (·.frame)) = some (.ack 4 (some (.pack 1500 1 0))) := by decide
  have hname : (secondsServer.run (rejoined.map (·.event))).map (·.2.registry.name? "bob") =
      some (some "b2") := by decide
  obtain ⟨⟨log, s⟩, hrun, rfl⟩ := Option.map_eq_some_iff.1 hlog
  simp only [hrun, Option.map_some, Option.bind_some, Option.some.injEq] at hacked hname
  obtain ⟨sent, hsend, hack⟩ := Option.map_eq_some_iff.1 hacked
  have hfresh : (opened (rejoined.map (·.event))).Nodup := by decide
  have hwatching : Watching rejoined "bob" (ThreadId.topic ⟨0⟩) := by
    refine ⟨rejoined.take 3, ⟨1002, []⟩, 1, rejoined.drop 4, rfl, fun session hlive => ?_⟩
    have hsession : session = "b2" := by
      rcases live_concat.1 (show Live ([_, _] ++ [_]) "bob" session from hlive) with
        ⟨now, address, heq⟩ | ⟨-, hnone, -⟩
      · exact (Event.opening.inj heq).2.2.2.symm
      · exact absurd rfl (hnone 1002 none "b2")
    subst hsession
    decide
  have hsteady : (1000 :: readings (rejoined.map (·.event)) ++
      Clock.readings ⟨1500, []⟩).Pairwise (· ≤ ·) := by decide
  obtain ⟨session, q, -, hsession, -, hbefore, hqueue, hrecord⟩ := watching_gets_message hstart hrun
    hfresh hwatching hsend hack hsteady (by decide) (by decide)
  obtain rfl := Option.some.inj (hname.symm.trans hsession)
  exact ⟨rejoined, s, sent, q, hrun, hsend, hack, hbefore, hqueue, hrecord⟩

end Server

end ChatRelay

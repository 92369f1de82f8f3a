import ChatRelay.Proofs.Server.Sessions

/-!
# Who hears of a message

Everybody who is listed hears of a message that is acknowledged, but for its author: one decision is
made about each of them, and one frame goes to the queue of their live session, if they have one
(`Announced`). Nobody else gets anything. What a session hears of comes in the order of the
identifiers (`Ordered`). Both rest on the sessions being in step (`announced_run`).
-/

namespace ChatRelay.Server

variable {s s' : Server} {message : Message} {targets : List UserId} {user : UserId}
  {session : SessionId}

/-! ## Decisions -/

/-- What is due to a user when a message is sent: it goes to a live session that has watched the
thread since the message was created or before, and to any other live session as a notification. -/
def due (s : Server) (message : Message) (user : UserId) : Decision :=
  match s.registry.session? user with
  | none => .dropped
  | some session =>
    if session.Watches message.threadId.topic (s.generator.unixMillis message.messageId) then
      .direct
    else .notification

theorem route_eq_due : s.registry.route s.generator.epoch user message = s.due message user := by
  rw [due]
  cases hsession : s.registry.session? user with
  | none => rw [Registry.route, hsession]
  | some session => exact s.registry.route_of_session? user _ message hsession

theorem push_metrics (s : Server) (user : UserId) (frame : ServerFrame) :
    (s.push user frame).metrics = s.metrics := by rw [push_queues]

/-- What is due depends on the sessions and on how identifiers tell the time. -/
theorem due_congr (hregistry : s'.registry = s.registry)
    (hmillis : s'.generator.unixMillis = s.generator.unixMillis) : s'.due = s.due := by
  funext message user
  rw [due, due, hregistry, hmillis]

theorem deliverTo_metrics (s : Server) (message : Message) (target : UserId) :
    (deliverTo message s target).metrics = s.metrics.delivery (s.due message target) := by
  rw [← route_eq_due]
  simp only [deliverTo]
  split <;> simp only [push_metrics, record]

/-- One decision is made about each recipient, which is what is due to them, and nothing else is
recorded. -/
theorem foldl_deliverTo_metrics (s : Server) (message : Message) (targets : List UserId) :
    (targets.foldl (deliverTo message) s).metrics =
      { s.metrics with
        deliveries := fun d => s.metrics.deliveries d + targets.countP (s.due message · = d) } := by
  induction targets generalizing s with
  | nil => rfl
  | cons target targets ih =>
    have hdue : (deliverTo message s target).due = s.due :=
      due_congr (deliverTo_registry s message target)
        (by rw [deliverTo_generator])
    rw [List.foldl_cons, ih, deliverTo_metrics, hdue]
    refine congrArg (fun deliveries => { s.metrics with deliveries }) (funext fun d => ?_)
    simp only [Metrics.delivery, List.countP_cons, decide_eq_true_eq, eq_comm (a := d)]
    split <;> omega

theorem deliver_metrics (s : Server) (fanout : Fanout) :
    (s.deliver fanout).metrics =
      { s.metrics.idMinted with
        deliveries := fun d => s.metrics.deliveries d +
          fanout.recipients.countP (s.due fanout.message · = d) } :=
  foldl_deliverTo_metrics _ fanout.message fanout.recipients

theorem deliver_deliveries (s : Server) (fanout : Fanout) (d : Decision) :
    (s.deliver fanout).metrics.deliveries d =
      s.metrics.deliveries d + fanout.recipients.countP (s.due fanout.message · = d) := by
  rw [deliver_metrics]

/-! ## Announcements -/

/-- What a live session hears of a message. -/
theorem announcement?_of_session? {session : Session}
    (h : s.registry.session? user = some session) :
    s.announcement? message user = some
      (if session.Watches message.threadId.topic (s.generator.unixMillis message.messageId) then
        .message message.threadId.topic message
      else .notification notificationTopic message) := by
  rw [announcement?, route_eq_due, due, h]
  by_cases hwatches :
      session.Watches message.threadId.topic (s.generator.unixMillis message.messageId)
  · simp only [if_pos hwatches]
  · simp only [if_neg hwatches]

/-- A server that has announced a message to some users, each of whom was named once. -/
structure Announced (s : Server) (message : Message) (targets : List UserId) (s' : Server) :
    Prop where
  /-- About each user one decision was made. -/
  decisions : ∀ d, s'.metrics.deliveries d =
    s.metrics.deliveries d + targets.countP (s.due message · = d)
  /-- The live session of each user got one frame. -/
  reached : ∀ user ∈ targets, ∀ session, s.registry.session? user = some session →
    ∃ q, s.queue? session.sessionId = some q ∧
      s'.queue? session.sessionId = some
        { q with
          frames := q.frames ++
            [if session.Watches message.threadId.topic
                (s.generator.unixMillis message.messageId) then
              .message message.threadId.topic message
            else .notification notificationTopic message] }
  /-- The live sessions of all others got nothing. -/
  others : ∀ user, user ∉ targets → ∀ session, s.registry.name? user = some session →
    s'.queue? session = s.queue? session
  /-- The sessions that are not live got nothing. -/
  ended : ∀ session, (∀ user, s.registry.name? user ≠ some session) →
    s'.queue? session = s.queue? session

variable {events : List Event}

namespace InStep

/-- Whose session it is. -/
theorem outbox?_eq_some_iff (h : InStep events s) (hfresh : (opened events).Nodup)
    (huser : s.outbox? user = some session) (user' : UserId) :
    s.outbox? user' = some session ↔ user' = user :=
  ⟨h.user_unique hfresh huser, fun heq => heq ▸ huser⟩

/-- **While the sessions are in step, each recipient hears of a message once** if they have a live
session, and nobody else does. -/
theorem announced (h : InStep events s) (hfresh : (opened events).Nodup) (hnodup : targets.Nodup)
    (hposts : s.Posts (s.announcements message targets) s')
    (hdecisions : ∀ d, s'.metrics.deliveries d =
      s.metrics.deliveries d + targets.countP (s.due message · = d)) :
    s.Announced message targets s' where
  decisions := hdecisions
  reached user hmem session hsession := by
    have huser : s.outbox? user = some session.sessionId := by
      rw [← h.names, Registry.name?, hsession]
      rfl
    obtain ⟨q, hq, habandoned, hopen⟩ := h.queue_of_outbox? huser
    refine ⟨q, hq, ?_⟩
    rw [hposts.queues, hq, mail_announcements hnodup (h.outbox?_eq_some_iff hfresh huser),
      if_pos hmem, announcement?_of_session? hsession]
    exact congrArg some (q.pushAll_of_open _ hopen habandoned)
  others user hmem session hname := by
    rw [h.names] at hname
    refine hposts.queue?_of_mail_eq_nil ?_
    rw [mail_announcements hnodup (h.outbox?_eq_some_iff hfresh hname), if_neg hmem]
  ended session hnone := by
    refine hposts.queue?_of_mail_eq_nil (mail_eq_nil fun letter _ => ?_)
    rw [← h.names]
    exact hnone letter.1

/-- A session gets at most one announcement, and only if it is live. -/
theorem mail_announcements (h : InStep events s) (hfresh : (opened events).Nodup)
    (hnodup : targets.Nodup) (session : SessionId) :
    s.mail (s.announcements message targets) session = [] ∨
      ∃ frame user, s.mail (s.announcements message targets) session = [frame] ∧
        frame.event? = some message ∧ s.outbox? user = some session := by
  by_cases hlive : ∃ user, s.outbox? user = some session
  · obtain ⟨user, huser⟩ := hlive
    rw [Server.mail_announcements hnodup (h.outbox?_eq_some_iff hfresh huser)]
    split
    · cases hframe : s.announcement? message user with
      | none => exact .inl rfl
      | some frame => exact .inr ⟨frame, user, rfl, event?_of_announcement? hframe, huser⟩
    · exact .inl rfl
  · exact .inl (mail_eq_nil fun letter _ huser => hlive ⟨letter.1, huser⟩)

end InStep

/-! ## The order of messages -/

/-- A server whose queues tell of messages in the order of their identifiers, all of which come
before everything that can still be minted. -/
structure Ordered (s : Server) : Prop where
  increasing : ∀ session q, s.queue? session = some q →
    q.events.Pairwise (·.messageId < ·.messageId)
  past : ∀ session q, s.queue? session = some q → ∀ event ∈ q.events,
    s.generator.Past event.messageId

namespace Ordered

/-- Nothing new is told of. -/
theorem of_events (h : Ordered s)
    (hpast : ∀ id, s.generator.Past id → s'.generator.Past id)
    (hevents : ∀ session q', s'.queue? session = some q' →
      q'.events = [] ∨ ∃ q, s.queue? session = some q ∧ q'.events = q.events) : Ordered s' where
  increasing session q' hq' := by
    rcases hevents session q' hq' with hnil | ⟨q, hq, heq⟩
    · rw [hnil]
      exact List.Pairwise.nil
    · rw [heq]
      exact h.increasing session q hq
  past session q' hq' event hevent := by
    rcases hevents session q' hq' with hnil | ⟨q, hq, heq⟩
    · rw [hnil] at hevent
      exact absurd hevent List.not_mem_nil
    · rw [heq] at hevent
      exact hpast _ (h.past session q hq event hevent)

/-- Letters that tell of no message leave the order as it is. -/
theorem posts (h : Ordered s) {letters : List Letter} (hposts : s.Posts letters s')
    (hnone : ∀ letter ∈ letters, letter.2.event? = none)
    (hpast : ∀ id, s.generator.Past id → s'.generator.Past id) : Ordered s' := by
  refine h.of_events hpast fun session q' hq' => .inr ?_
  rw [hposts.queues, Option.map_eq_some_iff] at hq'
  obtain ⟨q, hq, rfl⟩ := hq'
  refine ⟨q, hq, q.events_pushAll_of_none _ fun frame hframe => ?_⟩
  exact event?_eq_none_of_mem_mail hnone hframe

/-- A message above all the others comes last in every queue. -/
theorem announce (h : Ordered s) (hinStep : InStep events s) (hfresh : (opened events).Nodup)
    (hnodup : targets.Nodup) (hposts : s.Posts (s.announcements message targets) s')
    (hpast : ∀ id, s.generator.Past id → s'.generator.Past id ∧ id < message.messageId)
    (hnew : s'.generator.Past message.messageId) : Ordered s' := by
  have hqueue (session : SessionId) (q' : Queue) (hq' : s'.queue? session = some q') :
      ∃ q, s.queue? session = some q ∧
        (q'.events = q.events ∨ q'.events = q.events ++ [message]) := by
    rw [hposts.queues, Option.map_eq_some_iff] at hq'
    obtain ⟨q, hq, rfl⟩ := hq'
    refine ⟨q, hq, ?_⟩
    rcases hinStep.mail_announcements hfresh hnodup session with
      hnil | ⟨frame, user, hframe, hevent, huser⟩
    · rw [hnil]
      exact .inl rfl
    · obtain ⟨_, hq', habandoned, hopen⟩ := hinStep.queue_of_outbox? huser
      obtain rfl := Option.some.inj (hq'.symm.trans hq)
      rw [hframe, Queue.pushAll_of_open _ _ hopen habandoned]
      exact .inr (by simp [Queue.events, hevent])
  constructor
  · intro session q' hq'
    obtain ⟨q, hq, heq | heq⟩ := hqueue session q' hq'
    · rw [heq]
      exact h.increasing session q hq
    · rw [heq, List.pairwise_append]
      refine ⟨h.increasing session q hq, List.pairwise_singleton _ _, fun a ha b hb => ?_⟩
      rw [List.mem_singleton.1 hb]
      exact (hpast _ (h.past session q hq a ha)).2
  · intro session q' hq' event hevent
    obtain ⟨q, hq, heq | heq⟩ := hqueue session q' hq'
    · rw [heq] at hevent
      exact (hpast _ (h.past session q hq event hevent)).1
    · rw [heq, List.mem_append, List.mem_singleton] at hevent
      rcases hevent with hevent | rfl
      · exact (hpast _ (h.past session q hq event hevent)).1
      · exact hnew

/-- A request to send a message keeps the order. -/
theorem send (h : Ordered s) (hinStep : InStep events s) (hfresh : (opened events).Nodup)
    {clock : Clock} {author : UserId} {id : RequestId} {thread : ThreadId} {name : Option String}
    {members : List UserId} {body : String} {reply : Reply}
    (hreply : s.handle clock author (.send id thread name members body) = some reply)
    (hfit : ¬s.Overflows (.frame clock author (.send id thread name members body))) :
    Ordered reply.server := by
  obtain ⟨minting, hcall, hgenerator, hcases⟩ := send_posts hreply
  have hno : minting.overflows = false := Bool.eq_false_iff.2 fun hover =>
    hfit ⟨minting, hcall, hover⟩
  have hpast (id : MessageId) (hid : s.generator.Past id) :
      reply.server.generator.Past id ∧ ∀ new, minting.result = .ok new → id < new := by
    rw [hgenerator]
    exact hcall.lt_of_past hno hid
  rcases hcases with ⟨-, hposts⟩ | ⟨messageId, hid, hposts⟩
  · exact h.posts hposts (fun _ hletter => absurd hletter List.not_mem_nil)
      fun id hold => (hpast id hold).1
  · refine h.announce hinStep hfresh (recipients_nodup author members) hposts
      (fun id hold => ⟨(hpast id hold).1, (hpast id hold).2 messageId hid⟩) ?_
    rw [hgenerator]
    exact hcall.past_minted hno hid

/-- **Every event keeps the order.** -/
theorem step (h : Ordered s) (hinStep : InStep events s) (hfresh : (opened events).Nodup)
    {event : Event} {reply : Option ServerFrame} (hstep : s.step event = some (reply, s'))
    (hfit : ¬s.Overflows event) : Ordered s' := by
  cases event with
  | opening now user address session =>
    obtain ⟨rfl, rfl⟩ := Prod.mk.inj (Option.some.inj hstep)
    have halike := s.openSession_alike now user address session
    refine h.of_events (fun id hid => halike.generator ▸ hid) fun session' q' hq' => ?_
    rw [queue?_openSession] at hq'
    split at hq'
    · exact .inl (Option.some.inj hq' ▸ rfl)
    split at hq'
    · obtain ⟨q, hq, rfl⟩ := Option.map_eq_some_iff.1 hq'
      exact .inr ⟨q, hq, rfl⟩
    · exact .inr ⟨q', hq', rfl⟩
  | closing user session =>
    obtain ⟨rfl, rfl⟩ := Prod.mk.inj (Option.some.inj hstep)
    have halike := s.closeSession_alike user session
    refine h.of_events (fun id hid => halike.generator ▸ hid) fun session' q' hq' => .inr ?_
    rw [queue?_closeSession] at hq'
    split at hq'
    · obtain ⟨q, hq, rfl⟩ := Option.map_eq_some_iff.1 hq'
      exact ⟨q, hq, rfl⟩
    · exact ⟨q', hq', rfl⟩
  | frame clock user frame =>
    rcases step_frame_eq_some_iff.1 hstep with ⟨-, -, rfl⟩ | ⟨answer, hanswer, -, rfl⟩
    · exact h
    cases frame with
    | send id thread name members body => exact h.send hinStep hfresh hanswer hfit
    | _ =>
      obtain ⟨letters, hposts, hnone⟩ := handle_posts (by simp) hanswer
      have halike := handle_alike (by simp) hanswer
      exact h.posts hposts hnone fun id hid => halike.generator ▸ hid

end Ordered

variable {config : Config} {host : Host} {now : Millis} {s₀ : Server} {log : List Entry}

/-- A server that no timestamp was too large for has kept the order. -/
theorem ordered_run (hstart : start config host now = .ok s₀)
    (hrun : s₀.run events = some (log, s)) (hfresh : (opened events).Nodup)
    (hfit : ∀ entry ∈ log, ¬entry.Overflows) : Ordered s := by
  -- each step needs the sessions to be in step before it
  have hboth : (opened (log.map (·.event))).Nodup → (∀ entry ∈ log, ¬entry.Overflows) →
      InStep (log.map (·.event)) s ∧ Ordered s := by
    refine run_induct (P := fun log s => (opened (log.map (·.event))).Nodup →
      (∀ entry ∈ log, ¬entry.Overflows) → InStep (log.map (·.event)) s ∧ Ordered s) hrun ?_ ?_
    · obtain ⟨generator, index, history, -, -, -, rfl⟩ := start_eq_ok hstart
      exact fun _ _ => ⟨inStep_start hstart, by constructor <;> simp [queue?]⟩
    · intro log s event reply s' ih hstep hfresh hfit
      rw [List.map_append, List.map_singleton] at hfresh ⊢
      have hbefore := nodup_opened_of_append hfresh
      obtain ⟨hinStep, hordered⟩ := ih hbefore fun entry hentry => hfit entry (by simp [hentry])
      have hlast := hfit ⟨event, reply⟩ (by simp)
      exact ⟨hinStep.step hstep hfresh,
        hordered.step hinStep hbefore hstep (mt (overflows_entry hstep) hlast)⟩
  rw [map_event_of_run hrun] at hboth
  exact (hboth hfresh hfit).2

/-! ## Every run -/

/-- **Everybody who is listed hears of an acknowledged message once.** After every run, a request
for which an identifier is minted is acknowledged with it; the members, each named once and the
author left out, are announced the message, and nobody else is. Nothing is taken from the queues in
a run, so that they hold all that ever came into them: if no timestamp was too large, each session
hears of messages in the order of their identifiers. Sessions are told apart by their random names,
so that no name may be given twice. -/
theorem announced_run (hstart : start config host now = .ok s₀)
    (hrun : s₀.run events = some (log, s)) (hfresh : (opened events).Nodup) :
    (∀ clock author id thread name members body minting messageId,
      s.generator.mint clock = some minting → minting.result = .ok messageId →
      ∃ reply targets,
        s.handle clock author (.send id thread name members body) = some reply ∧
        reply.frame = .ack id (some messageId) ∧
        targets.Nodup ∧ (∀ user, user ∈ targets ↔ user ∈ members ∧ user ≠ author) ∧
        s.Announced
          { messageId, threadId := thread, threadName := name, bucket := s.index.ofId messageId
            author, authorName := none, body }
          targets reply.server) ∧
    ((∀ entry ∈ log, ¬entry.Overflows) → ∀ session q, s.queue? session = some q →
      q.events.Pairwise (·.messageId < ·.messageId)) := by
  have hinStep : InStep events s := inStep_run hstart hrun hfresh
  refine ⟨fun clock author id thread name members body minting messageId hmint hid => ?_,
    fun hfit => (ordered_run hstart hrun hfresh hfit).increasing⟩
  let draft : Draft := { threadId := thread, threadName := name, author, body }
  have hreply := send_of_ok hmint hid id draft members
  refine ⟨_, recipients author members, hreply, rfl, recipients_nodup author members,
    fun _ => mem_recipients, ?_⟩
  obtain ⟨minting', hcall, -, hcases⟩ := send_posts hreply
  obtain rfl := (Generator.mint_eq_some_iff.1 hmint).unique hcall
  rcases hcases with ⟨⟨e, he⟩, -⟩ | ⟨messageId', hid', hposts⟩
  · exact nomatch he.symm.trans hid
  obtain rfl : messageId' = messageId := Except.ok.inj (hid'.symm.trans hid)
  refine hinStep.announced hfresh (recipients_nodup author members) hposts fun d => ?_
  have hdue : ({ s with generator := minting.generator } : Server).due = s.due :=
    due_congr rfl (funext fun id => by
      rw [Generator.unixMillis, Generator.unixMillis, hcall.settings.1])
  rw [deliver_deliveries, hdue]
  rfl

/-- One member watches a thread, in the second of two sessions, and one does not. -/
def audience : List Entry :=
  [⟨.opening 1000 "ann" none "a1", none⟩, ⟨.opening 1000 "bob" none "b1", none⟩,
    ⟨.opening 1001 "bob" none "b2", none⟩, ⟨.opening 1002 "carl" none "c1", none⟩,
    ⟨.frame ⟨1003, []⟩ "bob" (.subscribe 1 (ThreadId.topic ⟨0⟩)), some (.ack 1 none)⟩,
    ⟨.frame ⟨1004, []⟩ "carl" (.send 2 ⟨0⟩ none ["bob"] "hello"),
      some (.ack 2 (some (.pack 1004 1 0)))⟩]

/-- What the general statement says of a message to members of whom one is named twice, one is the
author and one has no session. -/
theorem announced_run_mixed :
    ∃ log s reply, secondsServer.run (audience.map (·.event)) = some (log, s) ∧
      s.handle ⟨1500, []⟩ "ann"
        (.send 3 ⟨0⟩ none ["bob", "ann", "carl", "bob", "dan"] "hi") = some reply ∧
      reply.frame = .ack 3 (some (.pack 1500 1 1)) ∧
      (∃ q message, s.queue? "b2" = some q ∧ reply.server.queue? "b2" = some
        { q with frames := q.frames ++ [.message (ThreadId.topic ⟨0⟩) message] }) ∧
      reply.server.queue? "a1" = s.queue? "a1" ∧
      ∀ session q, s.queue? session = some q → q.events.Pairwise (·.messageId < ·.messageId) := by
  have hstart : start seconds {} 1000 = .ok secondsServer := rfl
  have hlog : (secondsServer.run (audience.map (·.event))).map (·.1) = some audience := by decide
  have hfresh : (opened (audience.map (·.event))).Nodup := by decide
  have hfit : ∀ entry ∈ audience, ¬entry.Overflows := by simp [audience, Entry.Overflows]
  have hgenerator : (secondsServer.run (audience.map (·.event))).map (·.2.generator) =
      some { epoch := 0, node := 1, tolerance := 1000, last := 1004, sequence := 1 } := by decide
  have hbob : (secondsServer.run (audience.map (·.event))).map
      (fun after => (after.2.registry.session? "bob").map fun session =>
        (session.sessionId, decide (session.Watches (ThreadId.topic ⟨0⟩) 1500))) =
      some (some ("b2", true)) := by decide
  have hann : (secondsServer.run (audience.map (·.event))).map
      (·.2.registry.name? "ann") = some (some "a1") := by decide
  obtain ⟨⟨log, s⟩, hrun, rfl⟩ := Option.map_eq_some_iff.1 hlog
  simp only [hrun, Option.map_some, Option.some.injEq] at hgenerator hbob hann
  obtain ⟨session, hsession, hwatching⟩ := Option.map_eq_some_iff.1 hbob
  obtain ⟨hname, hwatches⟩ := Prod.mk.inj hwatching
  obtain ⟨hsend, hordered⟩ := announced_run hstart hrun hfresh
  have hmint : s.generator.mint ⟨1500, []⟩ = some
      { result := .ok (.pack 1500 1 1)
        generator := { s.generator with last := 1500, sequence := 2 }
        reading := 1500, unread := [] } := by
    rw [hgenerator]
    rfl
  obtain ⟨reply, targets, hreply, hframe, -, htargets, hannounced⟩ :=
    hsend ⟨1500, []⟩ "ann" 3 ⟨0⟩ none ["bob", "ann", "carl", "bob", "dan"] "hi" _ _ hmint rfl
  refine ⟨audience, s, reply, hrun, hreply, hframe, ?_, ?_, hordered hfit⟩
  · have hbob : "bob" ∈ targets := (htargets "bob").2 (by decide)
    obtain ⟨q, hq, hq'⟩ := hannounced.reached "bob" hbob session hsession
    have hmillis : s.generator.unixMillis (.pack 1500 1 1) = 1500 := by
      rw [hgenerator]
      rfl
    rw [hname] at hq hq'
    rw [hmillis, if_pos (of_decide_eq_true hwatches)] at hq'
    exact ⟨q, _, hq, hq'⟩
  · exact hannounced.others "ann" (fun hmem => ((htargets "ann").1 hmem).2 rfl) "a1" hann

end ChatRelay.Server

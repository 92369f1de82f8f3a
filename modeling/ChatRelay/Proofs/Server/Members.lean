import ChatRelay.Proofs.Server.Watching

/-!
# How members are listed

The recipients of a message are the members other than its author, in the order in which they are
named first. What becomes of the message does not depend on this order, nor on how often somebody is
named: what is decided about a recipient rests on the registry, which no delivery changes, what is
stored for one recipient commutes with what is stored for another, and each session gets what is for
its user alone (`Apart.deliver_perm`). The last rests on no session being two users' (`Apart`),
which holds while the sessions are in step. The generator matters only through the identifier that
it has minted and through its epoch (`deliver_withGenerator`). So a request to send does the same
however its members are listed (`listed_anyhow`).
-/

namespace ChatRelay.Server

variable {s s' : Server} {message : Message} {targets targets' : List UserId}
  {fanout fanout' : Fanout}

/-! ## What is stored -/

/-- Delivery to several users stores one record for each of them, and what it stores is decided
beforehand. -/
theorem foldl_deliverTo_store (s : Server) (message : Message) (targets : List UserId) :
    (targets.foldl (deliverTo message) s).store =
      targets.foldl (fun store target => store.insert target ((Record.ofMessage message).withRead
        (s.registry.route s.generator.epoch target message = .direct))) s.store := by
  induction targets generalizing s with
  | nil => rfl
  | cons target targets ih =>
    rw [List.foldl_cons, List.foldl_cons, ih, deliverTo_store, deliverTo_registry,
      deliverTo_generator]

/-- The order of the recipients does not show in the store. -/
theorem foldl_deliverTo_store_perm (s : Server) (message : Message)
    (hperm : targets.Perm targets') :
    (targets.foldl (deliverTo message) s).store =
      (targets'.foldl (deliverTo message) s).store := by
  rw [foldl_deliverTo_store, foldl_deliverTo_store]
  refine hperm.foldl_eq' (fun target _ target' _ store => ?_) s.store
  by_cases hsame : target = target'
  · rw [hsame]
  · exact store.insert_comm hsame _ _

/-! ## What is queued -/

/-- No session is two users' at once. -/
def Apart (s : Server) : Prop :=
  ∀ user user' session, s.outbox? user = some session → s.outbox? user' = some session →
    user' = user

/-- While the sessions are in step, each is one user's. -/
theorem InStep.apart {events : List Event} (h : InStep events s) (hfresh : (opened events).Nodup) :
    s.Apart := fun _ _ _ huser huser' => h.user_unique hfresh huser huser'

/-- The order of the recipients does not show in what a session gets. -/
theorem Apart.mail_announcements_perm (h : s.Apart) (hnodup : targets.Nodup)
    (hperm : targets.Perm targets') (session : SessionId) :
    s.mail (s.announcements message targets) session =
      s.mail (s.announcements message targets') session := by
  by_cases howned : ∃ user, s.outbox? user = some session
  · obtain ⟨user, huser⟩ := howned
    have howner (user' : UserId) : s.outbox? user' = some session ↔ user' = user :=
      ⟨h user user' session huser, fun heq => heq ▸ huser⟩
    rw [mail_announcements hnodup howner, mail_announcements (hperm.nodup_iff.1 hnodup) howner]
    exact if_congr hperm.mem_iff rfl rfl
  · have hnone (letters : List Letter) : s.mail letters session = [] :=
      mail_eq_nil fun letter _ houtbox => howned ⟨letter.1, houtbox⟩
    rw [hnone, hnone]

/-- Letters that bring each session the same leave the same queues. -/
theorem Posts.queues_eq {s'' : Server} {letters letters' : List Letter} (h : s.Posts letters s')
    (h' : s.Posts letters' s'')
    (hmail : ∀ session, s.mail letters session = s.mail letters' session) :
    s'.queues = s''.queues := by
  refine Std.ExtTreeMap.ext_getElem? fun session => ?_
  show s'.queue? session = s''.queue? session
  rw [h.queues, h'.queues, hmail]

/-! ## Delivery -/

/-- Servers are the same if they are so before a delivery and after it. -/
theorem ext_settled (hsettled : s.settled = s'.settled) (hstore : s.store = s'.store)
    (hqueues : s.queues = s'.queues) (hmetrics : s.metrics = s'.metrics) : s = s' := by
  cases s
  cases s'
  simp_all [settled]

/-- **The order of the recipients does not show in what a delivery does.** -/
theorem Apart.deliver_perm (h : s.Apart) (hmessage : fanout.message = fanout'.message)
    (hnodup : fanout.recipients.Nodup) (hperm : fanout.recipients.Perm fanout'.recipients) :
    s.deliver fanout = s.deliver fanout' := by
  refine ext_settled ?_ ?_ ?_ ?_
  · rw [deliver_settled, deliver_settled]
  · simp only [deliver, hmessage]
    exact foldl_deliverTo_store_perm _ fanout'.message hperm
  · refine (deliver_posts s fanout).queues_eq (deliver_posts s fanout') ?_
    rw [hmessage]
    exact h.mail_announcements_perm hnodup hperm
  · rw [deliver_metrics, deliver_metrics, hmessage]
    simp only [hperm.countP_eq]

section Generator

variable {g : Generator}

theorem push_withGenerator (s : Server) (user : UserId) (frame : ServerFrame) :
    ({ s with generator := g } : Server).push user frame =
      { s.push user frame with generator := g } := by
  simp only [push, outbox?]
  split <;> rfl

theorem deliverTo_withGenerator (hepoch : g.epoch = s.generator.epoch) (message : Message)
    (target : UserId) :
    deliverTo message { s with generator := g } target =
      { deliverTo message s target with generator := g } := by
  let stored (decision : Decision) : Server :=
    { s with store := s.store.insert target (.ofMessage message) }.record (·.delivery decision)
  simp only [deliverTo, hepoch]
  cases s.registry.route s.generator.epoch target message with
  | dropped => rfl
  | notification => exact push_withGenerator (stored .notification) target _
  | direct =>
    exact congrArg (fun s : Server =>
      { s with store := s.store.markRead target message.threadId message.bucket message.messageId })
      (push_withGenerator (stored .direct) target (.message message.threadId.topic message))

/-- **A generator matters to a delivery for its epoch only.** -/
theorem deliver_withGenerator (hepoch : g.epoch = s.generator.epoch) (fanout : Fanout) :
    ({ s with generator := g } : Server).deliver fanout =
      { s.deliver fanout with generator := g } := by
  have hfold (targets : List UserId) (s : Server) (hepoch : g.epoch = s.generator.epoch) :
      targets.foldl (deliverTo fanout.message) { s with generator := g } =
        { targets.foldl (deliverTo fanout.message) s with generator := g } := by
    induction targets generalizing s with
    | nil => rfl
    | cons target targets ih =>
      rw [List.foldl_cons, List.foldl_cons, deliverTo_withGenerator hepoch]
      exact ih _ (hepoch.trans (congrArg _ (deliverTo_generator s fanout.message target).symm))
  exact hfold fanout.recipients
    { s.record (·.idMinted) with
      store := s.store.insert fanout.message.author
        ((Record.ofMessage fanout.message).withRead true) } hepoch

end Generator

/-! ## Requests to send -/

section Requests

variable {clock clock' : Clock} {id : RequestId} {draft : Draft} {members members' : List UserId}
  {reply reply' : Reply} {messageId : MessageId}

/-- Lists with the same members but for the author are delivered to alike. -/
theorem Apart.deliver_ofDraft (h : s.Apart) (messageId : MessageId)
    (hmembers : ∀ user, user ≠ draft.author → (user ∈ members ↔ user ∈ members')) :
    s.deliver (.ofDraft s.index messageId draft members) =
      s.deliver (.ofDraft s.index messageId draft members') :=
  h.deliver_perm rfl (recipients_nodup draft.author members) (recipients_perm hmembers)

/-- A request to send has the same outcome however its members are listed. -/
theorem Apart.send_eq (h : s.Apart) (clock : Clock) (id : RequestId) (draft : Draft)
    (hmembers : ∀ user, user ≠ draft.author → (user ∈ members ↔ user ∈ members')) :
    s.send clock id draft members = s.send clock id draft members' := by
  refine congrArg (s.generator.mint clock).bind (funext fun minting => ?_)
  split
  next messageId _ =>
    have hminted : Apart { s with generator := minting.generator } := h
    exact congrArg (fun server => some (Reply.mk (.ack id (some messageId)) server _))
      (hminted.deliver_ofDraft messageId hmembers)
  next => rfl

/-- Two requests that mint the same identifier leave servers that differ in their generators only,
whenever they are made. -/
theorem Apart.send_of_ack_eq (h : s.Apart) (draft : Draft)
    (hmembers : ∀ user, user ≠ draft.author → (user ∈ members ↔ user ∈ members'))
    (hsend : s.send clock id draft members = some reply)
    (hsend' : s.send clock' id draft members' = some reply')
    (hack : reply.frame = .ack id (some messageId))
    (hack' : reply'.frame = .ack id (some messageId)) :
    reply'.server = { reply.server with generator := reply'.server.generator } := by
  obtain ⟨minting, hcall, -, hserver⟩ := send_of_ack hsend hack
  obtain ⟨minting', hcall', -, hserver'⟩ := send_of_ack hsend' hack'
  rw [hserver, hserver', deliver_withGenerator hcall.settings.1,
    deliver_withGenerator hcall'.settings.1, h.deliver_ofDraft messageId hmembers]

end Requests

/-! ## Every run -/

/-- **What a request to send does is the same however its members are listed.** The recipients of a
message are the members other than its author, each of them once and in the order in which they are
named first. Take two lists with the same members but for the author, in any order, with any
repeats, each with or without the author. After every run, whatever was taken from the queues and
was recorded, a request to send to the one has the same outcome as a request to send to the other:
the same reply and the same server. Where the two are made at different instants but mint the same
identifier, the servers after them differ in nothing but the generator; so they have the same store,
the same registry and the same queues. Sessions are told apart by their random names, so that no
name may be given twice. -/
theorem listed_anyhow :
    (∀ (index : BucketIndex) (messageId : MessageId) (draft : Draft) (members : List UserId),
      (Fanout.ofDraft index messageId draft members).recipients =
          (members.filter (· ≠ draft.author)).eraseDups ∧
        (Fanout.ofDraft index messageId draft members).recipients.Pairwise
          fun a b => members.idxOf a < members.idxOf b) ∧
    ∀ config host now s₀ events log s (t : Server), start config host now = .ok s₀ →
      s₀.run events = some (log, s) → (opened events).Nodup →
      t = { s with queues := t.queues, metrics := t.metrics } →
      ∀ author id thread name body members members',
        (∀ user, user ≠ author → (user ∈ members ↔ user ∈ members')) →
        (∀ clock, t.handle clock author (.send id thread name members body) =
          t.handle clock author (.send id thread name members' body)) ∧
        ∀ clock clock' reply reply' messageId,
          t.handle clock author (.send id thread name members body) = some reply →
          t.handle clock' author (.send id thread name members' body) = some reply' →
          reply.frame = .ack id (some messageId) → reply'.frame = .ack id (some messageId) →
          reply'.server = { reply.server with generator := reply'.server.generator } := by
  refine ⟨fun index messageId draft members =>
    ⟨recipients_eq_eraseDups _ _, recipients_pairwise_idxOf _ _⟩, ?_⟩
  intro config host now s₀ events log s t hstart hrun hfresh ht author id thread name body members
    members' hmembers
  -- whose session is whose is said by neither the queues nor what is recorded
  have hapart : t.Apart := by
    rw [ht]
    exact (inStep_run hstart hrun hfresh).apart hfresh
  let draft : Draft := { threadId := thread, threadName := name, author, body }
  exact ⟨fun clock => hapart.send_eq clock id draft hmembers,
    fun clock clock' reply reply' messageId hsend hsend' =>
      hapart.send_of_ack_eq draft hmembers hsend hsend'⟩

/-- What a session takes from its queue is taken from nothing else. -/
theorem drain_eq (s : Server) (session : SessionId) :
    (s.drain session).2 = { s with
      queues := (s.drain session).2.queues, metrics := (s.drain session).2.metrics } := by
  rw [drain]
  split <;> rfl

/-- What the general statement says of two lists of the same members, one of which names a member
twice and the author as well. A member has taken what was queued, and the clock has stepped back
between the two requests, so that they mint the same identifier. -/
theorem listed_anyhow_mixed :
    ∃ log s t sent sent', secondsServer.run (audience.map (·.event)) = some (log, s) ∧
      t = (s.drain "b2").2 ∧
      (Fanout.ofDraft t.index (.pack 1004 1 1) { threadId := ⟨0⟩, author := "ann", body := "hi" }
        ["bob", "ann", "carl", "bob", "dan"]).recipients = ["bob", "carl", "dan"] ∧
      t.handle ⟨1000, []⟩ "ann" (.send 3 ⟨0⟩ none ["bob", "ann", "carl", "bob", "dan"] "hi") =
        some sent ∧
      t.handle ⟨1000, []⟩ "ann" (.send 3 ⟨0⟩ none ["dan", "carl", "bob"] "hi") = some sent ∧
      t.handle ⟨900, []⟩ "ann" (.send 3 ⟨0⟩ none ["dan", "carl", "bob"] "hi") = some sent' ∧
      sent.frame = .ack 3 (some (.pack 1004 1 1)) ∧
      sent'.server = { sent.server with generator := sent'.server.generator } := by
  have hstart : start seconds {} 1000 = .ok secondsServer := rfl
  have hsome : (secondsServer.run (audience.map (·.event))).isSome := by decide
  have hfresh : (opened (audience.map (·.event))).Nodup := by decide
  have hsent : (secondsServer.run (audience.map (·.event))).map (fun after =>
      ((after.2.drain "b2").2.handle ⟨1000, []⟩ "ann"
        (.send 3 ⟨0⟩ none ["bob", "ann", "carl", "bob", "dan"] "hi")).map (·.frame)) =
      some (some (.ack 3 (some (.pack 1004 1 1)))) := by decide
  have hsent' : (secondsServer.run (audience.map (·.event))).map (fun after =>
      ((after.2.drain "b2").2.handle ⟨900, []⟩ "ann"
        (.send 3 ⟨0⟩ none ["dan", "carl", "bob"] "hi")).map (·.frame)) =
      some (some (.ack 3 (some (.pack 1004 1 1)))) := by decide
  obtain ⟨⟨log, s⟩, hrun⟩ := Option.isSome_iff_exists.1 hsome
  simp only [hrun, Option.map_some, Option.some.injEq, Option.map_eq_some_iff] at hsent hsent'
  obtain ⟨sent, hsent, hack⟩ := hsent
  obtain ⟨sent', hsent', hack'⟩ := hsent'
  obtain ⟨hrecipients, hlisted⟩ := listed_anyhow
  obtain ⟨hsame, hkept⟩ := hlisted _ _ _ _ _ _ s (s.drain "b2").2 hstart hrun hfresh
    (s.drain_eq "b2") "ann" 3 ⟨0⟩ none "hi" ["bob", "ann", "carl", "bob", "dan"]
    ["dan", "carl", "bob"] (by simp only [List.mem_cons]; grind)
  exact ⟨log, s, _, sent, sent', hrun, rfl, (hrecipients _ _ _ _).1.trans (by decide), hsent,
    (hsame _).symm.trans hsent, hsent', hack, hkept _ _ _ _ _ hsent hsent' hack hack'⟩

end ChatRelay.Server

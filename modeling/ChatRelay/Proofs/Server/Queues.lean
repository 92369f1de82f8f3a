import ChatRelay.Proofs.Server.Messages
import ChatRelay.Proofs.Session

/-!
# What serving a frame queues

To serve a frame opens and closes no session. All that it does to the queues is to put letters into
them, that is frames for users, each of which goes to the queue of the session that the user's
outbox names (`Server.Posts`, `handle_postings`). Only a message that is sent puts events into
letters, and it does so once for each recipient who has a session (`announcements`,
`mail_announcements`).
-/

namespace ChatRelay

/-- The message that a frame tells of. -/
def ServerFrame.event? : ServerFrame → Option Message
  | .message _ event => some event
  | .notification _ event => some event
  | _ => none

/-- A frame for a user. -/
abbrev Letter := UserId × ServerFrame

/-! ## Queues -/

namespace Queue

variable (q : Queue) (frames : List ServerFrame)

/-- Adds frames, one after the other. -/
def pushAll (q : Queue) (frames : List ServerFrame) : Queue := frames.foldl push q

@[simp] theorem pushAll_nil : q.pushAll [] = q := rfl

@[simp] theorem pushAll_cons (frame : ServerFrame) :
    q.pushAll (frame :: frames) = (q.push frame).pushAll frames := rfl

@[simp] theorem pushAll_append (frames' : List ServerFrame) :
    q.pushAll (frames ++ frames') = (q.pushAll frames).pushAll frames' :=
  List.foldl_append

/-- The messages that are told of, in their order. -/
def events : List Message := q.frames.filterMap ServerFrame.event?

/-- To close a queue again changes nothing. -/
theorem close_of_closed (h : q.closed = true) : q.close = q := by
  rw [close, ← h]

/-- Nothing comes into a queue that is closed. -/
theorem pushAll_of_closed (h : q.closed = true) : q.pushAll frames = q := by
  induction frames with
  | nil => rfl
  | cons frame frames ih =>
    have hpush : q.push frame = q := by simp [push, h]
    rwa [pushAll_cons, hpush]

/-- Frames come to the end of a queue that is open and that somebody takes frames from. -/
theorem pushAll_of_open (h : q.closed = false) (h' : q.abandoned = false) :
    q.pushAll frames = { q with frames := q.frames ++ frames } := by
  induction frames generalizing q with
  | nil => simp [pushAll]
  | cons frame frames ih =>
    have hpush : q.push frame = { q with frames := q.frames ++ [frame] } := by simp [push, h, h']
    rw [pushAll_cons, hpush]
    simpa using ih { q with frames := q.frames ++ [frame] } h h'

@[simp] theorem pushAll_closed : (q.pushAll frames).closed = q.closed := by
  induction frames generalizing q with
  | nil => rfl
  | cons frame frames ih =>
    rw [pushAll_cons, ih, push]
    split <;> rfl

@[simp] theorem pushAll_abandoned : (q.pushAll frames).abandoned = q.abandoned := by
  induction frames generalizing q with
  | nil => rfl
  | cons frame frames ih =>
    rw [pushAll_cons, ih, push]
    split <;> rfl

/-- Frames that tell of no message leave the events as they are. -/
theorem events_pushAll_of_none (h : ∀ frame ∈ frames, frame.event? = none) :
    (q.pushAll frames).events = q.events := by
  induction frames generalizing q with
  | nil => rfl
  | cons frame frames ih =>
    have hpush : (q.push frame).events = q.events := by
      rw [push]
      split
      · rfl
      · simp [events, h frame List.mem_cons_self]
    rw [pushAll_cons, ih _ fun f hf => h f (List.mem_cons_of_mem frame hf), hpush]

end Queue

namespace Server

theorem queue?_modifyQueue (s : Server) (session session' : SessionId) (change : Queue → Queue) :
    (s.modifyQueue session change).queue? session' =
      if session = session' then (s.queue? session').map change else s.queue? session' := by
  simp only [queue?, modifyQueue, Std.ExtTreeMap.getElem?_modify,
    Std.LawfulEqOrd.compare_eq_iff_eq]
  split
  next h => rw [h]
  next => rfl

/-! ## Letters -/

/-- The frames among some letters that go to a session. -/
def mail (s : Server) (letters : List Letter) (session : SessionId) : List ServerFrame :=
  letters.filterMap fun letter => if s.outbox? letter.1 = some session then some letter.2 else none

variable {s s' s'' : Server} {letters letters' : List Letter} {session : SessionId}

theorem mail_append : s.mail (letters ++ letters') session =
    s.mail letters session ++ s.mail letters' session :=
  List.filterMap_append

/-- A session gets nothing that is for others. -/
theorem mail_eq_nil (h : ∀ letter ∈ letters, s.outbox? letter.1 ≠ some session) :
    s.mail letters session = [] := by
  rw [mail, List.filterMap_eq_nil_iff]
  intro letter hletter
  exact if_neg (h letter hletter)

/-- A session gets the frame for its user if they are a target, and nothing that is for others. -/
theorem mail_filterMap {targets : List UserId} (frame? : UserId → Option ServerFrame)
    (hnodup : targets.Nodup) {user : UserId}
    (howner : ∀ user', s.outbox? user' = some session ↔ user' = user) :
    s.mail (targets.filterMap fun target => (frame? target).map (target, ·)) session =
      if user ∈ targets then (frame? user).toList else [] := by
  induction targets with
  | nil => rfl
  | cons target targets ih =>
    obtain ⟨hnot, hnodup⟩ := List.nodup_cons.1 hnodup
    have hsplit : (target :: targets).filterMap (fun target => (frame? target).map (target, ·)) =
        ((frame? target).map (target, ·)).toList ++
          targets.filterMap fun target => (frame? target).map (target, ·) := by
      rw [List.filterMap_cons]
      cases frame? target <;> rfl
    rw [hsplit, mail_append, ih hnodup]
    by_cases huser : target = user
    · subst huser
      have hmail : s.mail ((frame? target).map (target, ·)).toList session =
          (frame? target).toList := by
        cases frame? target <;> simp [mail, (howner target).2 rfl]
      rw [hmail, if_neg hnot, if_pos List.mem_cons_self, List.append_nil]
    · have hmail : s.mail ((frame? target).map (target, ·)).toList session = [] := by
        have hother : s.outbox? target ≠ some session := mt (howner target).1 huser
        cases frame? target <;> simp [mail, hother]
      rw [hmail, List.nil_append]
      simp [Ne.symm huser]

/-- What a session gets are frames of letters. -/
theorem event?_eq_none_of_mem_mail (h : ∀ letter ∈ letters, letter.2.event? = none)
    {frame : ServerFrame} (hframe : frame ∈ s.mail letters session) : frame.event? = none := by
  obtain ⟨letter, hletter, hsome⟩ := List.mem_filterMap.1 hframe
  rw [Option.ite_none_right_eq_some] at hsome
  exact (Option.some.inj hsome.2) ▸ h letter hletter

/-- A server with the same sessions, whose queues have got some letters. -/
structure Posts (s : Server) (letters : List Letter) (s' : Server) : Prop where
  names : s'.registry.name? = s.registry.name?
  outboxes : s'.outboxes = s.outboxes
  queues : ∀ session, s'.queue? session =
    (s.queue? session).map (·.pushAll (s.mail letters session))

namespace Posts

theorem nil (hnames : s'.registry.name? = s.registry.name?) (houtboxes : s'.outboxes = s.outboxes)
    (hqueues : s'.queues = s.queues) : s.Posts [] s' where
  names := hnames
  outboxes := houtboxes
  queues session := by
    have hid : (fun q : Queue => q.pushAll (s.mail [] session)) = id := rfl
    rw [hid, Option.map_id, queue?, queue?, hqueues]
    rfl

theorem outbox? (h : s.Posts letters s') (user : UserId) : s'.outbox? user = s.outbox? user := by
  rw [Server.outbox?, Server.outbox?, h.outboxes]

theorem mail (h : s.Posts letters s') : s'.mail = s.mail := by
  funext letters session
  simp only [Server.mail, h.outbox?]

/-- A session that gets nothing keeps its queue. -/
theorem queue?_of_mail_eq_nil (h : s.Posts letters s') (hmail : s.mail letters session = []) :
    s'.queue? session = s.queue? session := by
  rw [h.queues, hmail]
  cases s.queue? session <;> rfl

theorem trans (h : s.Posts letters s') (h' : s'.Posts letters' s'') :
    s.Posts (letters ++ letters') s'' where
  names := h'.names.trans h.names
  outboxes := h'.outboxes.trans h.outboxes
  queues session := by
    rw [h'.queues, h.queues, Option.map_map, h.mail, mail_append]
    exact congrArg (Option.map · _) (funext fun q => (Queue.pushAll_append q _ _).symm)

end Posts

/-- To queue a frame for a user is to post one letter. -/
theorem push_posts (s : Server) (user : UserId) (frame : ServerFrame) :
    s.Posts [(user, frame)] (s.push user frame) := by
  rw [push]
  cases houtbox : s.outbox? user with
  | none =>
    have hnone (session : SessionId) : s.mail [(user, frame)] session = [] :=
      mail_eq_nil (by simp [houtbox])
    exact ⟨rfl, rfl, fun session => by simp [hnone]⟩
  | some named =>
    refine ⟨rfl, rfl, fun session => ?_⟩
    show (s.modifyQueue named (·.push frame)).queue? session = _
    rw [queue?_modifyQueue]
    by_cases h : named = session
    · simp [mail, houtbox, h, Queue.pushAll]
    · simp [mail, houtbox, h]

/-- Indicators go to all members who are told. -/
theorem sendTyping_posts (s : Server) (user : UserId) (thread : ThreadId)
    (members : List UserId) :
    s.Posts ((s.typingTargets user members).map (·, .typing typingTopic user thread))
      (s.sendTyping user thread members).2 := by
  rw [sendTyping_eq]
  generalize s.typingTargets user members = targets
  induction targets generalizing s with
  | nil => exact .nil rfl rfl rfl
  | cons target targets ih =>
    exact (s.push_posts target (.typing typingTopic user thread)).trans (ih _)

/-! ## Announcements -/

/-- The frame by which a user hears of a message, if they have a session. -/
def announcement? (s : Server) (message : Message) (user : UserId) : Option ServerFrame :=
  match s.registry.route s.generator.epoch user message with
  | .dropped => none
  | .notification => some (.notification notificationTopic message)
  | .direct => some (.message message.threadId.topic message)

/-- The letters by which some users hear of a message. -/
def announcements (s : Server) (message : Message) (targets : List UserId) : List Letter :=
  targets.filterMap fun target => (s.announcement? message target).map (target, ·)

variable {message : Message} {targets : List UserId}

theorem announcements_cons (target : UserId) :
    s.announcements message (target :: targets) =
      s.announcements message [target] ++ s.announcements message targets := by
  rw [announcements, announcements, announcements, ← List.filterMap_append]
  rfl

/-- An announcement tells of the message. -/
theorem event?_of_announcement? {user : UserId} {frame : ServerFrame}
    (h : s.announcement? message user = some frame) : frame.event? = some message := by
  rw [announcement?] at h
  split at h
  · exact nomatch h
  · exact Option.some.inj h ▸ rfl
  · exact Option.some.inj h ▸ rfl

/-- **A session gets one announcement if its user is a recipient**, and none otherwise. -/
theorem mail_announcements (hnodup : targets.Nodup) {user : UserId}
    (howner : ∀ user', s.outbox? user' = some session ↔ user' = user) :
    s.mail (s.announcements message targets) session =
      if user ∈ targets then (s.announcement? message user).toList else [] :=
  mail_filterMap _ hnodup howner

/-! ## Delivery -/

/-- What is decided about one recipient does not change what is decided about the others. -/
theorem deliverTo_announcement? (s : Server) (message : Message) (target : UserId) :
    (deliverTo message s target).announcement? = s.announcement? := by
  funext message' user
  rw [announcement?, deliverTo_registry, deliverTo_generator]
  rfl

theorem deliverTo_posts (s : Server) (message : Message) (target : UserId) :
    s.Posts (s.announcements message [target]) (deliverTo message s target) := by
  have hstored : s.Posts [] ({ s with
      store := s.store.insert target (.ofMessage message) : Server }.record
        (·.delivery (s.registry.route s.generator.epoch target message))) := .nil rfl rfl rfl
  simp only [deliverTo]
  cases hroute : s.registry.route s.generator.epoch target message with
  | dropped =>
    simp only [hroute] at hstored ⊢
    have hnone : s.announcements message [target] = [] := by
      simp [announcements, announcement?, hroute]
    rw [hnone]
    exact hstored
  | notification =>
    simp only [hroute] at hstored ⊢
    have hone : s.announcements message [target] =
        [(target, .notification notificationTopic message)] := by
      simp [announcements, announcement?, hroute]
    rw [hone]
    exact hstored.trans (push_posts _ target _)
  | direct =>
    simp only [hroute] at hstored ⊢
    have hone : s.announcements message [target] =
        [(target, .message message.threadId.topic message)] := by
      simp [announcements, announcement?, hroute]
    rw [hone]
    exact (hstored.trans (push_posts _ target _)).trans (.nil rfl rfl rfl)

theorem foldl_deliverTo_posts (s : Server) (message : Message) (targets : List UserId) :
    s.Posts (s.announcements message targets) (targets.foldl (deliverTo message) s) := by
  induction targets generalizing s with
  | nil => exact .nil rfl rfl rfl
  | cons target targets ih =>
    have hrest := ih (deliverTo message s target)
    rw [announcements, deliverTo_announcement?] at hrest
    rw [announcements_cons, List.foldl_cons]
    exact (deliverTo_posts s message target).trans hrest

/-- **Delivery announces the message to every recipient who has a session.** -/
theorem deliver_posts (s : Server) (fanout : Fanout) :
    s.Posts (s.announcements fanout.message fanout.recipients) (s.deliver fanout) := by
  have hstored : s.Posts [] { s.record (·.idMinted) with
      store := (s.record (·.idMinted)).store.insert fanout.message.author
        ((Record.ofMessage fanout.message).withRead true) } := .nil rfl rfl rfl
  exact hstored.trans (foldl_deliverTo_posts _ fanout.message fanout.recipients)

/-! ## Serving a frame -/

/-- A message that is sent is announced if it is acknowledged, and nothing is queued otherwise. -/
theorem send_posts {clock : Clock} {id : RequestId} {draft : Draft} {members : List UserId}
    {reply : Reply} (h : s.send clock id draft members = some reply) :
    ∃ minting, s.generator.Call clock minting ∧
      reply.server.generator = minting.generator ∧
      ((∃ e, minting.result = .error e) ∧ s.Posts [] reply.server ∨
        ∃ messageId, minting.result = .ok messageId ∧
          s.Posts (s.announcements (draft.send messageId (s.index.ofId messageId))
            (recipients draft.author members)) reply.server) := by
  obtain ⟨minting, hcall, hcases⟩ := send_cases h
  have hminted : s.Posts [] { s with generator := minting.generator } := .nil rfl rfl rfl
  have hepoch : ({ s with generator := minting.generator } : Server).announcement? =
      s.announcement? := by
    funext message user
    rw [announcement?, hcall.settings.1]
    rfl
  refine ⟨minting, hcall, ?_⟩
  rcases hcases with ⟨e, he, -, hserver⟩ | ⟨messageId, hid, -, hserver⟩
  · rw [hserver]
    exact ⟨rfl, .inl ⟨⟨e, he⟩, hminted.trans (.nil rfl rfl rfl)⟩⟩
  · rw [hserver]
    refine ⟨(deliver_kept _ _).1, .inr ⟨messageId, hid, ?_⟩⟩
    have hdelivered := deliver_posts { s with generator := minting.generator }
      (.ofDraft s.index messageId draft members)
    rw [announcements, hepoch] at hdelivered
    exact hminted.trans hdelivered

/-- The letters that serving a frame of a user posts: announcements of the message that is sent, if
an identifier is minted for it, or indicators. -/
def postings (s : Server) (clock : Clock) (user : UserId) : ClientFrame → List Letter
  | .send _ threadId threadName members body =>
    match s.generator.mint clock with
    | some { result := .ok messageId, .. } =>
      s.announcements
        { messageId, threadId, threadName, bucket := s.index.ofId messageId, author := user
          authorName := none, body }
        (recipients user members)
    | _ => []
  | .typing _ thread members =>
    (s.typingTargets user members).map (·, .typing typingTopic user thread)
  | _ => []

/-- **All that a frame does to the queues**. -/
theorem handle_postings {clock : Clock} {user : UserId} {frame : ClientFrame} {reply : Reply}
    (h : s.handle clock user frame = some reply) :
    s.Posts (s.postings clock user frame) reply.server := by
  cases frame with
  | subscribe id topic =>
    simp only [handle] at h
    split at h <;> obtain rfl := Option.some.inj h
    · exact .nil (funext fun _ => Registry.name?_subscribe _ _ _ _) rfl rfl
    · exact .nil rfl rfl rfl
  | unsubscribe id topic =>
    obtain rfl := Option.some.inj h
    exact .nil (funext fun _ => Registry.name?_unsubscribe _ _ _ _) rfl rfl
  | send id thread name members body =>
    obtain ⟨minting, hcall, -, hcases⟩ := send_posts h
    rw [postings, Generator.mint_eq_some_iff.2 hcall]
    obtain ⟨result, reading, unread, generator⟩ := minting
    rcases hcases with ⟨⟨e, rfl⟩, hposts⟩ | ⟨messageId, rfl, hposts⟩
    · exact hposts
    · exact hposts
  | history id thread query =>
    rw [show reply.server = _ from sendHistory_rest (sendHistory_of_handle h)]
    exact .nil rfl rfl rfl
  | typing id thread members =>
    obtain rfl := Option.some.inj h
    exact s.sendTyping_posts user thread members
  | ping timestamp =>
    obtain rfl := Option.some.inj h
    exact .nil rfl rfl rfl

/-- No letter but for a message that is sent tells of one. -/
theorem handle_posts {clock : Clock} {user : UserId} {frame : ClientFrame} {reply : Reply}
    (hframe : ∀ id thread name members body, frame ≠ .send id thread name members body)
    (h : s.handle clock user frame = some reply) :
    ∃ letters, s.Posts letters reply.server ∧ ∀ letter ∈ letters, letter.2.event? = none := by
  refine ⟨_, handle_postings h, fun letter hletter => ?_⟩
  cases frame with
  | send id thread name members body => exact absurd rfl (hframe id thread name members body)
  | typing id thread members =>
    obtain ⟨target, -, rfl⟩ := List.mem_map.1 hletter
    rfl
  | _ => exact absurd hletter List.not_mem_nil

/-- What is queued can be told from the reply. -/
theorem send_posts_cases {clock : Clock} {id : RequestId} {draft : Draft} {members : List UserId}
    {reply : Reply} (h : s.send clock id draft members = some reply) :
    (∃ messageId, reply.frame = .ack id (some messageId) ∧
      s.Posts (s.announcements (draft.send messageId (s.index.ofId messageId))
        (recipients draft.author members)) reply.server) ∨
    ∃ reason, reply.frame = .error id .idUnavailable reason ∧ s.Posts [] reply.server := by
  obtain ⟨minting, hcall, hcases⟩ := send_cases h
  obtain ⟨minting', hcall', -, hposts⟩ := send_posts h
  obtain rfl := hcall.unique hcall'
  rcases hcases with ⟨e, he, hframe, -⟩ | ⟨messageId, hid, hframe, -⟩
  · rcases hposts with ⟨-, hposts⟩ | ⟨messageId, hid, -⟩
    · exact .inr ⟨_, hframe, hposts⟩
    · exact nomatch he.symm.trans hid
  · rcases hposts with ⟨⟨e, he⟩, -⟩ | ⟨messageId', hid', hposts⟩
    · exact nomatch he.symm.trans hid
    · obtain rfl := Except.ok.inj (hid.symm.trans hid')
      exact .inl ⟨messageId, hframe, hposts⟩

end Server

end ChatRelay

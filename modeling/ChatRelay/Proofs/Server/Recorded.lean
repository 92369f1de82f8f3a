import ChatRelay.Proofs.Server.Watching

/-!
# What is recorded

Metrics are recorded apart from what they count. What serving a frame records can be told from the
reply and from the decisions about the recipients of the message, if it acknowledges one
(`handle_metrics`). So, along a run, what is recorded follows the log (`Counted.run`), and every
session that was opened was replaced, removed, or is still there (`run_sessions`).
-/

namespace ChatRelay

namespace ServerFrame

/-- Whether a frame acknowledges a message. -/
def isReceipt : ServerFrame → Bool
  | ack _ (some _) => true
  | _ => false

/-- The records of a page of history. -/
def page? : ServerFrame → Option (List Record)
  | history _ records _ _ => some records
  | _ => none

/-- Whether a frame is an error of a code. -/
def isError (code : ErrorCode) : ServerFrame → Bool
  | error _ code' _ => code' = code
  | _ => false

end ServerFrame

/-- The code of the replies that go with an error. -/
def ErrorLabel.code? : ErrorLabel → Option ErrorCode
  | idGeneration => some .idUnavailable
  | history => some .historyFailed
  | decode => none
  | webSocket => none

/-- What is recorded with a reply, if it is known how often each decision was made. -/
def Metrics.replied (m : Metrics) (decisions : Decision → Nat) (frame : ServerFrame) : Metrics :=
  { m with
    idsMinted := m.idsMinted + if frame.isReceipt then 1 else 0
    deliveries := fun d => m.deliveries d + decisions d
    historyRecords := m.historyRecords ++ (frame.page?.map List.length).toList
    errors := fun l => m.errors l + if l.code?.any frame.isError then 1 else 0 }

namespace Metrics

variable (m : Metrics) {decisions : Decision → Nat} {frame : ServerFrame}

/-- What the frames of no kind that is counted record. -/
theorem replied_of_quiet (hdecisions : ∀ d, decisions d = 0) (hreceipt : frame.isReceipt = false)
    (hpage : frame.page? = none) (herror : ∀ l : ErrorLabel, l.code?.any frame.isError = false) :
    m.replied decisions frame = m := by
  simp [replied, hdecisions, hreceipt, hpage, herror]

theorem replied_receipt (id : RequestId) (messageId : MessageId) :
    m.replied decisions (.ack id (some messageId)) =
      { m.idMinted with deliveries := fun d => m.deliveries d + decisions d } := by
  have herror (l : ErrorLabel) :
      (l.code?.any (ServerFrame.ack id (some messageId)).isError) = false := by
    cases l <;> rfl
  simp [replied, ServerFrame.isReceipt, ServerFrame.page?, herror, idMinted]

theorem replied_page (hdecisions : ∀ d, decisions d = 0) (id : RequestId) (records : List Record)
    (cursor : Option Cursor) (bucket : Option Bucket) :
    m.replied decisions (.history id records cursor bucket) = m.historyPage records.length := by
  have herror (l : ErrorLabel) :
      (l.code?.any (ServerFrame.history id records cursor bucket).isError) = false := by
    cases l <;> rfl
  simp [replied, hdecisions, ServerFrame.isReceipt, ServerFrame.page?, herror, historyPage]

theorem replied_error (hdecisions : ∀ d, decisions d = 0) (label : ErrorLabel) {code : ErrorCode}
    (hcode : label.code? = some code) (id : RequestId) (reason : String) :
    m.replied decisions (.error id code reason) = m.error label := by
  have herror (l : ErrorLabel) :
      (l.code?.any (ServerFrame.error id code reason).isError) = decide (l = label) := by
    cases label with
    | idGeneration => obtain rfl := Option.some.inj hcode; cases l <;> rfl
    | history => obtain rfl := Option.some.inj hcode; cases l <;> rfl
    | decode => exact nomatch hcode
    | webSocket => exact nomatch hcode
  have herrors : (fun l => m.errors l + if l = label then 1 else 0) = (m.error label).errors := by
    funext l
    simp only [error]
    split <;> rfl
  simp [replied, hdecisions, ServerFrame.isReceipt, ServerFrame.page?, herror, herrors, error]

end Metrics

/-- The number of decisions. -/
def Metrics.decisions (m : Metrics) : Nat :=
  m.deliveries .dropped + m.deliveries .notification + m.deliveries .direct

/-- A message with one of its recipients. -/
abbrev Delivery := UserId × Message

/-- The deliveries of the message that an entry acknowledges. -/
def Entry.deliveries (index : BucketIndex) : Entry → List Delivery
  | ⟨.frame _ author (.send _ threadId threadName members body), some (.ack _ (some messageId))⟩ =>
    (recipients author members).map
      (·, { messageId, threadId, threadName, bucket := index.ofId messageId, author,
            authorName := none, body })
  | _ => []

/-- Whether an event closes a live session. -/
def Event.removes (s : Server) : Event → Bool
  | .closing user session => s.registry.name? user = some session
  | _ => false

namespace Server

/-- What the events of a run come to: the server before each of them. -/
def moments (s : Server) : List Event → List (Server × Event)
  | [] => []
  | event :: events =>
    (s, event) ::
      match s.step event with
      | some (_, s') => s'.moments events
      | none => []

/-- The number of replies of some kind. -/
def replies (kind : ServerFrame → Bool) (log : List Entry) : Nat :=
  log.countP fun entry => entry.reply.any kind

/-- The deliveries of all the messages that were acknowledged. -/
def deliveries (index : BucketIndex) (log : List Entry) : List Delivery :=
  log.flatMap (Entry.deliveries index)

/-- How often a decision is made about the recipients of the message that an entry acknowledges. -/
def decided (s : Server) (entry : Entry) (d : Decision) : Nat :=
  (entry.deliveries s.index).countP fun delivery => s.due delivery.2 delivery.1 = d

variable {s s' s'' : Server} {log log' : List Entry} {entry : Entry} {events : List Event}
  {event : Event} {reply : Option ServerFrame} {index : BucketIndex} {user : UserId}
  {decisions : Decision → Nat}

/-! ## What is recorded -/

/-- Nothing is decided but with the acknowledgement of a message. -/
theorem decided_of_not_receipt (h : entry.reply.any ServerFrame.isReceipt = false) (d : Decision) :
    s.decided entry d = 0 := by
  have hnil : entry.deliveries s.index = [] := by
    unfold Entry.deliveries
    split
    · exact nomatch h
    · rfl
  rw [decided, hnil]
  rfl

theorem sendHistory_metrics {now : Millis} {id : RequestId} {thread : ThreadId}
    {query : HistoryQuery} {answer : ServerFrame × Server}
    (h : s.sendHistory now id user thread query = some answer)
    (hdecisions : ∀ d, decisions d = 0) :
    answer.2.metrics = s.metrics.replied decisions answer.1 := by
  rcases sendHistory_cases h with ⟨page, -, hframe, hserver⟩ | ⟨e, rfl⟩
  · rw [hframe, hserver]
    exact (s.metrics.replied_page hdecisions _ _ _ _).symm
  · exact (s.metrics.replied_error hdecisions .history rfl _ _).symm

theorem send_metrics {clock : Clock} {id : RequestId} {thread : ThreadId} {name : Option String}
    {members : List UserId} {body : String} {answer : Reply}
    (h : s.handle clock user (.send id thread name members body) = some answer) :
    answer.server.metrics = s.metrics.replied (s.decided
      ⟨.frame clock user (.send id thread name members body), some answer.frame⟩) answer.frame := by
  obtain ⟨minting, hcall, ⟨e, -, hframe, hserver⟩ | ⟨messageId, -, hframe, hserver⟩⟩ := send_cases h
  · rw [hserver, hframe, s.metrics.replied_error (decided_of_not_receipt rfl) .idGeneration rfl]
    rfl
  · have hdue : ({ s with generator := minting.generator } : Server).due = s.due :=
      due_congr rfl (funext fun id => by
        rw [Generator.unixMillis, Generator.unixMillis, hcall.settings.1])
    rw [hserver, hframe, deliver_metrics, hdue, Metrics.replied_receipt]
    simp only [decided, Entry.deliveries, List.countP_map]
    rfl

/-- **All that serving a frame records** can be told from the reply and the decisions. -/
theorem handle_metrics {clock : Clock} {frame : ClientFrame} {answer : Reply}
    (h : s.handle clock user frame = some answer) :
    answer.server.metrics =
      s.metrics.replied (s.decided ⟨.frame clock user frame, some answer.frame⟩) answer.frame := by
  have hquiet (hmetrics : answer.server.metrics = s.metrics)
      (hreceipt : answer.frame.isReceipt = false) (hpage : answer.frame.page? = none)
      (herror : ∀ l : ErrorLabel, l.code?.any answer.frame.isError = false) :
      answer.server.metrics = s.metrics.replied
        (s.decided ⟨.frame clock user frame, some answer.frame⟩) answer.frame := by
    have hdecided : ∀ d, s.decided ⟨.frame clock user frame, some answer.frame⟩ d = 0 :=
      decided_of_not_receipt hreceipt
    rw [s.metrics.replied_of_quiet hdecided hreceipt hpage herror, hmetrics]
  cases frame with
  | subscribe id topic =>
    simp only [handle] at h
    split at h <;> obtain rfl := Option.some.inj h
    · exact hquiet rfl rfl rfl fun l => by cases l <;> rfl
    · exact hquiet rfl rfl rfl fun l => by cases l <;> rfl
  | unsubscribe id topic =>
    obtain rfl := Option.some.inj h
    exact hquiet rfl rfl rfl fun l => by cases l <;> rfl
  | send id thread name members body => exact send_metrics h
  | history id thread query =>
    have hsend := sendHistory_of_handle h
    refine sendHistory_metrics hsend (decided_of_not_receipt ?_)
    rcases sendHistory_cases hsend with ⟨page, -, hframe, -⟩ | ⟨e, heq⟩
    · rw [show answer.frame = _ from hframe]
      rfl
    · rw [show answer.frame = _ from congrArg Prod.fst heq]
      rfl
  | typing id thread members =>
    obtain rfl := Option.some.inj h
    exact hquiet (s.sendTyping_kept push_metrics user thread members) rfl rfl fun l => by
      cases l <;> rfl
  | ping timestamp =>
    obtain rfl := Option.some.inj h
    exact hquiet rfl rfl rfl fun l => by cases l <;> rfl

theorem openSession_metrics (s : Server) (now : Millis) (user : UserId) (address : Option String)
    (session : SessionId) : (s.openSession now user address session).metrics =
      if s.registry.isConnected user then s.metrics.displacement else s.metrics := by
  simp only [openSession]
  by_cases hconnected : s.registry.isConnected user = true
  · rw [if_pos hconnected]
    have hsome : (s.registry.session? user).isSome = true := hconnected
    rw [if_pos hsome]
    split <;> rfl
  · rw [if_neg hconnected]
    have hnone : ¬(s.registry.session? user).isSome = true := hconnected
    rw [if_neg hnone]
    split <;> rfl

theorem closeSession_metrics (s : Server) (user : UserId) (session : SessionId) :
    (s.closeSession user session).metrics = s.metrics := by
  simp only [closeSession]
  split <;> rfl

/-! ## Replies and decisions -/

theorem replies_append (kind : ServerFrame → Bool) :
    replies kind (log ++ log') = replies kind log + replies kind log' := List.countP_append

theorem replies_singleton (kind : ServerFrame → Bool) :
    replies kind [entry] = if entry.reply.any kind then 1 else 0 := List.countP_singleton

theorem deliveries_append :
    deliveries index (log ++ log') = deliveries index log ++ deliveries index log' :=
  List.flatMap_append

theorem deliveries_singleton : deliveries index [entry] = entry.deliveries index :=
  List.flatMap_singleton _ _

/-- How many deliveries there are is not a matter of where messages are filed. -/
theorem length_entry_deliveries (index index' : BucketIndex) :
    (entry.deliveries index).length = (entry.deliveries index').length := by
  unfold Entry.deliveries
  split <;> simp

/-- One decision is made about each delivery. -/
theorem decided_total (s : Server) (entry : Entry) (index : BucketIndex) :
    s.decided entry .dropped + s.decided entry .notification + s.decided entry .direct =
      (entry.deliveries index).length := by
  rw [length_entry_deliveries index s.index, decided, decided, decided]
  induction entry.deliveries s.index with
  | nil => rfl
  | cons delivery rest ih =>
    rw [List.countP_cons, List.countP_cons, List.countP_cons, List.length_cons, ← ih]
    cases s.due delivery.2 delivery.1 <;> simp <;> omega

/-- **Every event records the decisions that it makes.** -/
theorem step_deliveries (hstep : s.step event = some (reply, s')) (d : Decision) :
    s'.metrics.deliveries d = s.metrics.deliveries d + s.decided ⟨event, reply⟩ d := by
  cases event with
  | opening now user address session =>
    obtain ⟨rfl, rfl⟩ := Prod.mk.inj (Option.some.inj hstep)
    rw [openSession_metrics, decided_of_not_receipt rfl]
    split <;> rfl
  | closing user session =>
    obtain ⟨rfl, rfl⟩ := Prod.mk.inj (Option.some.inj hstep)
    rw [closeSession_metrics, decided_of_not_receipt rfl]
    rfl
  | frame clock user frame =>
    rcases step_frame_eq_some_iff.1 hstep with ⟨-, rfl, rfl⟩ | ⟨answer, hanswer, rfl, rfl⟩
    · rw [decided_of_not_receipt rfl]
      rfl
    · rw [handle_metrics hanswer]
      rfl

/-- What was recorded along a log, about replies and deliveries. -/
structure Counted (s : Server) (log : List Entry) (s' : Server) : Prop where
  idsMinted : s'.metrics.idsMinted = s.metrics.idsMinted + replies ServerFrame.isReceipt log
  historyPages : s'.metrics.historyPages = s.metrics.historyPages + replies (·.page?.isSome) log
  errors : ∀ label : ErrorLabel, ∀ code ∈ label.code?,
    s'.metrics.errors label = s.metrics.errors label + replies (·.isError code) log
  decisions : ∀ index,
    s'.metrics.decisions = s.metrics.decisions + (deliveries index log).length

namespace Counted

theorem trans (h : Counted s log s') (h' : Counted s' log' s'') : Counted s (log ++ log') s'' where
  idsMinted := by rw [h'.idsMinted, h.idsMinted, replies_append, Nat.add_assoc]
  historyPages := by rw [h'.historyPages, h.historyPages, replies_append, Nat.add_assoc]
  errors label code hcode := by
    rw [h'.errors label code hcode, h.errors label code hcode, replies_append, Nat.add_assoc]
  decisions index := by
    rw [h'.decisions index, h.decisions index, deliveries_append, List.length_append, Nat.add_assoc]

/-- An event without a reply records nothing of the kind. -/
theorem of_no_reply (hreply : entry.reply = none)
    (hmetrics : ∃ displaced, s'.metrics = { s.metrics with displaced }) :
    Counted s [entry] s' := by
  obtain ⟨displaced, hmetrics⟩ := hmetrics
  constructor
  · simp [replies_singleton, hreply, hmetrics]
  · simp [replies_singleton, hreply, hmetrics, Metrics.historyPages]
  · intro label code _
    simp [replies_singleton, hreply, hmetrics]
  · intro index
    have hnone : entry.reply.any ServerFrame.isReceipt = false := by rw [hreply]; rfl
    rw [hmetrics, deliveries_singleton, ← s.decided_total]
    simp [decided_of_not_receipt hnone, Metrics.decisions]

/-- **Every event is recorded by its reply.** -/
theorem step (hstep : s.step event = some (reply, s')) : Counted s [⟨event, reply⟩] s' := by
  cases event with
  | opening now user address session =>
    obtain ⟨rfl, rfl⟩ := Prod.mk.inj (Option.some.inj hstep)
    have hmetrics := s.openSession_metrics now user address session
    split at hmetrics <;> exact of_no_reply rfl ⟨_, hmetrics⟩
  | closing user session =>
    obtain ⟨rfl, rfl⟩ := Prod.mk.inj (Option.some.inj hstep)
    exact of_no_reply rfl ⟨_, s.closeSession_metrics user session⟩
  | frame clock user frame =>
    rcases step_frame_eq_some_iff.1 hstep with ⟨-, rfl, rfl⟩ | ⟨answer, hanswer, rfl, rfl⟩
    · exact of_no_reply rfl ⟨_, rfl⟩
    have hmetrics := handle_metrics hanswer
    constructor
    · rw [hmetrics, replies_singleton]
      rfl
    · rw [hmetrics, replies_singleton, Metrics.historyPages, Metrics.historyPages]
      cases answer.frame <;> simp [Metrics.replied, ServerFrame.page?]
    · intro label code hcode
      rw [hmetrics, replies_singleton]
      simp [Metrics.replied, Option.mem_def.1 hcode]
    · intro index
      rw [hmetrics, deliveries_singleton, ← s.decided_total _ index]
      simp only [Metrics.decisions, Metrics.replied]
      omega

/-- **Every run is recorded by its replies.** -/
theorem run (hrun : s.run events = some (log, s')) : Counted s log s' := by
  refine run_induct (P := Counted s) hrun ?_ fun log s' event reply s'' h hstep =>
    h.trans (step hstep)
  constructor <;> simp [replies, deliveries]

end Counted

/-! ## Sessions -/

/-- **Every event keeps the balance of sessions**: one that is opened is there until it is replaced
or removed. -/
theorem step_sessions (hstep : s.step event = some (reply, s')) :
    s'.metrics.displaced + (if event.removes s then 1 else 0) + s'.registry.size =
      s.metrics.displaced + s.registry.size + event.opened?.toList.length := by
  have hregistry := registry_step hstep
  cases event with
  | opening now user address session =>
    obtain ⟨rfl, rfl⟩ := Prod.mk.inj (Option.some.inj hstep)
    have hsize := s.registry.size_connect
      { user, sessionId := session, remoteAddress := address, connectedAt := now }
    rw [hregistry, openSession_metrics]
    simp only [Event.call?, Option.toList_some, Registry.callAll, List.foldl_cons, List.foldl_nil,
      Registry.call, Event.removes, Event.opened?, List.length_singleton]
    split at hsize
    next hconnected =>
      rw [if_pos hconnected, Metrics.displacement]
      simp only [Bool.false_eq_true, if_false]
      omega
    next hconnected =>
      rw [if_neg hconnected]
      simp only [Bool.false_eq_true, if_false]
      omega
  | closing user session =>
    obtain ⟨rfl, rfl⟩ := Prod.mk.inj (Option.some.inj hstep)
    have hsize := s.registry.size_disconnectSession user session
    rw [hregistry, closeSession_metrics]
    simp only [Event.call?, Option.toList_some, Registry.callAll, List.foldl_cons, List.foldl_nil,
      Registry.call, Event.removes, Event.opened?, Option.toList_none, List.length_nil,
      decide_eq_true_eq]
    omega
  | frame clock user frame =>
    rcases step_frame_eq_some_iff.1 hstep with ⟨-, -, rfl⟩ | ⟨answer, hanswer, -, rfl⟩
    · simp [Event.removes, Event.opened?]
    have hsize : answer.server.registry.size = s.registry.size := by
      rw [hregistry]
      cases frame with
      | subscribe id topic => exact Registry.size_subscribe _ _ _
      | unsubscribe id topic => exact Registry.size_unsubscribe _ _ _
      | _ => rfl
    rw [handle_metrics hanswer, hsize]
    simp [Metrics.replied, Event.removes, Event.opened?]

theorem moments_cons (hstep : s.step event = some (reply, s')) :
    s.moments (event :: events) = (s, event) :: s'.moments events := by
  simp only [moments, hstep]

/-- **Every run keeps the balance of sessions.** -/
theorem run_sessions (hrun : s.run events = some (log, s')) :
    s'.metrics.displaced + (s.moments events).countP (fun moment => moment.2.removes moment.1) +
        s'.registry.size =
      s.metrics.displaced + s.registry.size + (opened events).length := by
  induction events generalizing s log with
  | nil =>
    obtain ⟨-, rfl⟩ := Prod.mk.inj (Option.some.inj hrun)
    rfl
  | cons event events ih =>
    obtain ⟨reply, middle, rest, hstep, hrest, -⟩ := run_cons_eq_some_iff.1 hrun
    have hfirst := step_sessions hstep
    have hlater := ih hrest
    rw [moments_cons hstep, List.countP_cons, opened_cons, List.length_append]
    dsimp only
    omega

end Server

end ChatRelay

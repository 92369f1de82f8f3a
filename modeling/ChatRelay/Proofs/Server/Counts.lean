import ChatRelay.Proofs.Server.Recorded
import Mathlib.Algebra.BigOperators.Group.List.Basic
import Mathlib.Algebra.GroupWithZero.Nat

/-!
# What the metrics count

After every run the metrics agree with what they count (`counts_run`): with the replies that were
given, with the records that the store has for recipients (`received`), with the frames that were
put into queues (`Server.queued`), and with the sessions that were opened. Nothing is taken from the
queues in a run, so that they still hold every frame that a decision put there (`queued_run`).
-/

namespace ChatRelay

namespace ServerFrame

/-- The decision by which a frame comes into a queue. -/
def decision? : ServerFrame → Option Decision
  | message .. => some .direct
  | notification .. => some .notification
  | _ => none

/-- A frame that tells of no message does not come of a decision. -/
theorem decision?_of_event? {frame : ServerFrame} (h : frame.event? = none) :
    frame.decision? = none := by
  cases frame with
  | message destination event => exact nomatch h
  | notification destination event => exact nomatch h
  | _ => rfl

end ServerFrame

namespace Server

/-- The frames in the queues of some sessions. -/
def queued (s : Server) (sessions : List SessionId) : List ServerFrame :=
  sessions.flatMap fun session => (s.queue session).frames

variable {s s' s₀ : Server} {log log' : List Entry} {entry : Entry} {events : List Event}
  {event : Event} {reply : Option ServerFrame} {index : BucketIndex} {user : UserId}
  {session : SessionId} {d : Decision}

/-! ## Records of recipients -/

/-- The records of the recipients of all the messages that were acknowledged. -/
def received (index : BucketIndex) (log : List Entry) : List (UserId × Record) :=
  (deliveries index log).map fun delivery => (delivery.1, .ofMessage delivery.2)

theorem received_append :
    received index (log ++ log') = received index log ++ received index log' := by
  rw [received, deliveries_append, List.map_append]
  rfl

/-- A user other than the author has a copy exactly if they are a recipient. -/
theorem mem_received_singleton {r : Record} : (user, r) ∈ received index [entry] ↔
    r.author ≠ user ∧ entry.copy? index user r.threadId = some r := by
  rw [received, deliveries_singleton]
  unfold Entry.deliveries
  split
  next clock author id threadId name members body id' messageId =>
    simp only [List.map_map, List.mem_map, Entry.copy?, Option.ite_none_right_eq_some,
      Function.comp_apply, Prod.mk.injEq, Option.some.injEq]
    constructor
    · rintro ⟨target, hmem, rfl, rfl⟩
      have hmember := mem_recipients.1 hmem
      exact ⟨hmember.2.symm, ⟨rfl, .inr hmember.1⟩, rfl⟩
    · rintro ⟨hother, ⟨-, hlisted⟩, rfl⟩
      exact ⟨user, mem_recipients.2 ⟨hlisted.resolve_left hother, Ne.symm hother⟩, rfl, rfl⟩
  next hnone =>
    unfold Entry.copy?
    split
    · exact absurd rfl (hnone _ _ _ _ _ _ _ _ _)
    · simp

theorem received_singleton_nodup : (received index [entry]).Nodup := by
  -- nobody is named twice
  refine List.Nodup.of_map Prod.fst ?_
  rw [received, deliveries_singleton, List.map_map]
  unfold Entry.deliveries
  split
  next clock author id threadId name members body id' messageId =>
    simpa [Function.comp_def] using recipients_nodup author members
  next => exact List.nodup_nil

theorem mem_received {r : Record} : (user, r) ∈ received index log ↔
    r.author ≠ user ∧ r ∈ copies index user r.threadId log := by
  induction log using List.reverseRecOn with
  | nil => simp [received, deliveries, copies]
  | append_singleton log entry ih =>
    rw [received_append, List.mem_append, ih, mem_received_singleton, copies_concat,
      List.mem_append, Option.mem_toList, and_or_left]

/-- If identifiers are given once, nobody has two records of a message. -/
theorem received_nodup (hincreasing : ∀ user thread,
    (copies index user thread log).Pairwise (·.messageId < ·.messageId)) :
    (received index log).Nodup := by
  induction log using List.reverseRecOn with
  | nil => exact List.nodup_nil
  | append_singleton log entry ih =>
    have hsplit (user : UserId) (thread : ThreadId) := hincreasing user thread
    simp only [copies_concat, List.pairwise_append] at hsplit
    rw [received_append, List.nodup_append]
    refine ⟨ih fun user thread => (hsplit user thread).1, ?_, ?_⟩
    · exact received_singleton_nodup
    · rintro ⟨user, r⟩ hold _ hnew rfl
      have hlt := (hsplit user r.threadId).2.2 r (mem_received.1 hold).2 r
        (Option.mem_toList.2 (mem_received_singleton.1 hnew).2)
      exact UInt64.lt_irrefl _ hlt

/-! ## Frames in queues -/

section Queued

variable {sessions : List SessionId} {letters : List Letter} {message : Message}

theorem countP_queued (p : ServerFrame → Bool) : (s.queued sessions).countP p =
    (sessions.map fun session => (s.queue session).frames.countP p).sum := List.countP_flatMap

theorem queued_congr
    (h : ∀ session ∈ sessions, (s'.queue session).frames = (s.queue session).frames) :
    s'.queued sessions = s.queued sessions := List.flatMap_congr h

/-- A letter comes to one session if its user has one, and to none otherwise. -/
theorem sum_countP_mail (hnodup : sessions.Nodup)
    (hmem : ∀ user session, s.outbox? user = some session → session ∈ sessions)
    (p : ServerFrame → Bool) (letters : List Letter) :
    (sessions.map fun session => (s.mail letters session).countP p).sum =
      letters.countP fun letter => (s.outbox? letter.1).isSome && p letter.2 := by
  induction letters with
  | nil => simp [mail]
  | cons letter letters ih =>
    have hmail (session : SessionId) : (s.mail (letter :: letters) session).countP p =
        (s.mail [letter] session).countP p + (s.mail letters session).countP p := by
      rw [← List.countP_append, ← mail_append]
      rfl
    have hone : (sessions.map fun session => (s.mail [letter] session).countP p).sum =
        if (s.outbox? letter.1).isSome && p letter.2 then 1 else 0 := by
      cases houtbox : s.outbox? letter.1 with
      | none => simp [mail, houtbox]
      | some named =>
        have hcount (session : SessionId) : (s.mail [letter] session).countP p =
            if session = named then (if p letter.2 then 1 else 0) else 0 := by
          by_cases hnamed : session = named
          · simp [mail, houtbox, hnamed, List.countP_cons]
          · simp [mail, houtbox, hnamed, Ne.symm hnamed]
        simp only [hcount]
        rw [List.sum_map_ite, List.sum_map_zero, List.filter_eq,
          List.count_eq_one_of_mem hnodup (hmem letter.1 named houtbox)]
        simp
    simp only [hmail]
    rw [List.sum_map_add, ih, hone, List.countP_cons, Nat.add_comm]

/-- While the sessions are in step, every letter for a user with a session is queued once. -/
theorem InStep.queued_posts (h : InStep events s) (hfresh : (opened events).Nodup)
    (hposts : s.Posts letters s') (p : ServerFrame → Bool) :
    (s'.queued (opened events)).countP p = (s.queued (opened events)).countP p +
      letters.countP fun letter => (s.outbox? letter.1).isSome && p letter.2 := by
  have hmem (user : UserId) (session : SessionId) (houtbox : s.outbox? user = some session) :
      session ∈ opened events := ((h.live user session).1 houtbox).mem_opened
  have hframes : ∀ session ∈ opened events, (s'.queue session).frames.countP p =
      (s.queue session).frames.countP p + (s.mail letters session).countP p := by
    intro session hsession
    rw [h.frames_posts hposts hsession, List.countP_append]
  rw [countP_queued, countP_queued, ← sum_countP_mail hfresh hmem, ← List.sum_map_add,
    List.map_congr_left hframes]

/-- While the sessions are in step, whoever is not passed over has an outbox. -/
theorem InStep.isSome_outbox? (h : InStep events s) (hdue : s.due message user = d)
    (hd : d ≠ .dropped) : (s.outbox? user).isSome := by
  rw [← h.names, Registry.name?, Option.isSome_map]
  cases hsession : s.registry.session? user with
  | none =>
    rw [due, hsession] at hdue
    exact absurd hdue.symm hd
  | some session => rfl

/-- A recipient gets a frame by the decision about them, unless the message is dropped. -/
theorem InStep.countP_announcements (h : InStep events s) (hd : d ≠ .dropped) (message : Message)
    (targets : List UserId) :
    (s.announcements message targets).countP (fun letter =>
        (s.outbox? letter.1).isSome && letter.2.decision? = some d) =
      targets.countP (s.due message · = d) := by
  induction targets with
  | nil => rfl
  | cons target targets ih =>
    rw [announcements_cons, List.countP_append, ih, List.countP_cons, Nat.add_comm]
    refine congrArg _ ?_
    rw [announcements, List.filterMap_cons, List.filterMap_nil, announcement?, route_eq_due]
    cases hdue : s.due message target with
    | dropped => simp [Ne.symm hd]
    | notification =>
      have hsome := h.isSome_outbox? hdue (by simp)
      simp [hsome, ServerFrame.decision?, List.countP_cons]
    | direct =>
      have hsome := h.isSome_outbox? hdue (by simp)
      simp [hsome, ServerFrame.decision?, List.countP_cons]

/-- A session that is opened has an empty queue, and the queues of the others keep their frames. -/
theorem queued_openSession (s : Server) (now : Millis) (user : UserId) (address : Option String)
    (hnew : session ∉ sessions) :
    (s.openSession now user address session).queued (sessions ++ [session]) =
      s.queued sessions := by
  have hempty : ((s.openSession now user address session).queue session).frames = [] := by
    rw [queue, queue?_openSession, if_pos rfl]
    rfl
  have hothers : ∀ other ∈ sessions, ((s.openSession now user address session).queue other).frames =
      (s.queue other).frames := by
    intro other hother
    have hne : session ≠ other := fun heq => hnew (heq ▸ hother)
    rw [queue, queue, queue?_openSession, if_neg hne]
    split
    · cases s.queue? other <;> rfl
    · rfl
  rw [queued, List.flatMap_append, List.flatMap_singleton, hempty, List.append_nil]
  exact queued_congr hothers

theorem queued_closeSession (s : Server) (user : UserId) (session : SessionId)
    (sessions : List SessionId) :
    (s.closeSession user session).queued sessions = s.queued sessions := by
  refine queued_congr fun other _ => ?_
  rw [queue, queue, queue?_closeSession]
  split
  · cases s.queue? other <;> rfl
  · rfl

/-- What is queued with the acknowledgement of a message is decided on. -/
theorem InStep.queued_send (h : InStep events s) (hfresh : (opened events).Nodup)
    (hd : d ≠ .dropped) {clock : Clock} {author : UserId} {id : RequestId} {thread : ThreadId}
    {name : Option String} {members : List UserId} {body : String} {answer : Reply}
    (hanswer : s.handle clock author (.send id thread name members body) = some answer) :
    (answer.server.queued (opened events)).countP (·.decision? = some d) =
      (s.queued (opened events)).countP (·.decision? = some d) + s.decided
        ⟨.frame clock author (.send id thread name members body), some answer.frame⟩ d := by
  rcases send_posts_cases hanswer with ⟨messageId, hframe, hposts⟩ | ⟨reason, hframe, hposts⟩
  · rw [h.queued_posts hfresh hposts, h.countP_announcements hd, hframe, decided,
      Entry.deliveries, List.countP_map]
    rfl
  · rw [h.queued_posts hfresh hposts, hframe, decided_of_not_receipt rfl]
    rfl

/-- **Every event queues as many frames as it decides to**, while the sessions are in step. -/
theorem InStep.queued_step (h : InStep events s) (hd : d ≠ .dropped)
    (hfresh : (opened (events ++ [event])).Nodup) (hstep : s.step event = some (reply, s')) :
    (s'.queued (opened (events ++ [event]))).countP (·.decision? = some d) =
      (s.queued (opened events)).countP (·.decision? = some d) +
        s.decided ⟨event, reply⟩ d := by
  rw [opened_concat] at hfresh ⊢
  cases event with
  | opening now user address session =>
    obtain ⟨rfl, rfl⟩ := Prod.mk.inj (Option.some.inj hstep)
    have hnew : session ∉ opened events := fun hmem =>
      (List.nodup_append.1 hfresh).2.2 session hmem session (List.mem_singleton_self _) rfl
    rw [decided_of_not_receipt rfl]
    exact congrArg _ (s.queued_openSession now user address hnew)
  | closing user session =>
    obtain ⟨rfl, rfl⟩ := Prod.mk.inj (Option.some.inj hstep)
    rw [decided_of_not_receipt rfl, queued_closeSession]
    exact congrArg _ (congrArg _ (List.append_nil _))
  | frame clock user frame =>
    have hopened : opened events ++ (Event.frame clock user frame).opened?.toList =
        opened events := List.append_nil _
    rw [hopened] at hfresh ⊢
    rcases step_frame_eq_some_iff.1 hstep with ⟨-, rfl, rfl⟩ | ⟨answer, hanswer, rfl, rfl⟩
    · rw [decided_of_not_receipt rfl]
      rfl
    cases frame with
    | send id thread name members body => exact h.queued_send hfresh hd hanswer
    | _ =>
      obtain ⟨letters, hposts, hquiet⟩ := handle_posts (by simp) hanswer
      have hnone : letters.countP (fun letter =>
          (s.outbox? letter.1).isSome && letter.2.decision? = some d) = 0 := by
        refine List.countP_eq_zero.2 fun letter hletter => ?_
        simp [ServerFrame.decision?_of_event? (hquiet letter hletter)]
      rw [h.queued_posts hfresh hposts, hnone]
      rfl

end Queued

/-! ## Every run -/

variable {config : Config} {host : Host} {now : Millis}

/-- **A run queues as many frames as it decides to.** -/
theorem queued_run (hstart : start config host now = .ok s₀)
    (hrun : s₀.run events = some (log, s)) (hfresh : (opened events).Nodup) (hd : d ≠ .dropped) :
    s.metrics.deliveries d = (s.queued (opened events)).countP (·.decision? = some d) := by
  -- each step needs the sessions to be in step before it
  have hboth : (opened (log.map (·.event))).Nodup → InStep (log.map (·.event)) s ∧
      s.metrics.deliveries d =
        (s.queued (opened (log.map (·.event)))).countP (·.decision? = some d) := by
    refine run_induct (P := fun log s => (opened (log.map (·.event))).Nodup →
      InStep (log.map (·.event)) s ∧ s.metrics.deliveries d =
        (s.queued (opened (log.map (·.event)))).countP (·.decision? = some d)) hrun ?_ ?_
    · obtain ⟨generator, index, history, -, -, -, rfl⟩ := start_eq_ok hstart
      exact fun _ => ⟨inStep_start hstart, rfl⟩
    · intro log s event reply s' ih hstep hfresh
      rw [List.map_append, List.map_singleton] at hfresh ⊢
      have hbefore := nodup_opened_of_append hfresh
      obtain ⟨hinStep, hqueued⟩ := ih hbefore
      refine ⟨hinStep.step hstep hfresh, ?_⟩
      rw [step_deliveries hstep, hqueued, hinStep.queued_step hd hfresh hstep]
  rw [map_event_of_run hrun] at hboth
  exact (hboth hfresh).2

/-- **The metrics count what they are said to count.** After every run, identifiers are counted as
often as messages were acknowledged, pages of history and errors as often as the replies say, and
decisions once for each recipient of a message that was acknowledged; if no timestamp was too large,
these are the records that the store has for others than their authors. As many messages and
notifications were queued as the decisions say, if no two sessions have one name. Sessions that were
opened were replaced, or removed by an event that closes them, or are still there. -/
theorem counts_run (hstart : start config host now = .ok s₀)
    (hrun : s₀.run events = some (log, s)) :
    s.metrics.idsMinted = replies ServerFrame.isReceipt log ∧
    s.metrics.historyPages = replies (·.page?.isSome) log ∧
    s.metrics.errors .idGeneration = replies (·.isError .idUnavailable) log ∧
    s.metrics.errors .history = replies (·.isError .historyFailed) log ∧
    s.metrics.deliveries .dropped + s.metrics.deliveries .notification +
        s.metrics.deliveries .direct = (received s₀.index log).length ∧
    ((∀ entry ∈ log, ¬entry.Overflows) → (received s₀.index log).Nodup ∧
      ∀ user r, (user, r) ∈ received s₀.index log ↔
        r.author ≠ user ∧ r ∈ s.store.messages user r.threadId r.bucket) ∧
    ((opened events).Nodup →
      s.metrics.deliveries .notification =
          (s.queued (opened events)).countP (·.decision? = some .notification) ∧
        s.metrics.deliveries .direct =
          (s.queued (opened events)).countP (·.decision? = some .direct)) ∧
    s.metrics.displaced + (s₀.moments events).countP (fun moment => moment.2.removes moment.1) +
        s.registry.size = (opened events).length := by
  have hcounted : Counted s₀ log s := .run hrun
  have hsessions := run_sessions hrun
  have hdecisions := hcounted.decisions s₀.index
  have hzero : s₀.metrics = {} ∧ s₀.registry = .empty := by
    obtain ⟨generator, index, history, -, -, -, rfl⟩ := start_eq_ok hstart
    exact ⟨rfl, rfl⟩
  have hidErrors := hcounted.errors .idGeneration .idUnavailable rfl
  have hhistoryErrors := hcounted.errors .history .historyFailed rfl
  rw [hzero.1] at hidErrors hhistoryErrors hdecisions hsessions
  refine ⟨?_, ?_, ?_, ?_, ?_, fun hfit => ?_, fun hfresh => ?_, ?_⟩
  · rw [hcounted.idsMinted, hzero.1, Nat.zero_add]
  · rw [hcounted.historyPages, hzero.1]
    exact Nat.zero_add _
  · rw [hidErrors, Nat.zero_add]
  · rw [hhistoryErrors, Nat.zero_add]
  · rw [received, List.length_map]
    exact hdecisions.trans (Nat.zero_add _)
  · have hstored : Stored s₀.index log s := (stored_start hstart).run hrun hfit
    refine ⟨received_nodup hstored.increasing, fun user r => ?_⟩
    rw [mem_received, hstored.messages, List.mem_reverse, List.mem_filter]
    simp
  · exact ⟨queued_run hstart hrun hfresh (by simp), queued_run hstart hrun hfresh (by simp)⟩
  · have hempty : ({} : Metrics).displaced + Registry.empty.size = 0 := rfl
    rw [hsessions, hzero.2, hempty, Nat.zero_add]

/-- What the general statement says of the exchange: two messages, one to a member who hears of it
and one to a member who has no session, a page, and a session that is closed. -/
theorem counts_run_exchange :
    ∃ s, secondsServer.run (exchange.map (·.event)) = some (exchange, s) ∧
      s.metrics.idsMinted = 2 ∧ s.metrics.historyPages = 1 ∧
      s.metrics.deliveries .dropped + s.metrics.deliveries .notification +
        s.metrics.deliveries .direct = 2 ∧
      hello ∈ s.store.messages "ann" ⟨0⟩ 1 ∧
      s.metrics.deliveries .notification =
        (s.queued ["a1"]).countP (·.decision? = some .notification) ∧
      s.metrics.displaced + (secondsServer.moments (exchange.map (·.event))).countP
        (fun moment => moment.2.removes moment.1) + s.registry.size = 1 := by
  have hstart : start seconds {} 1000 = .ok secondsServer := rfl
  have hlog : (secondsServer.run (exchange.map (·.event))).map (·.1) = some exchange := by decide
  have hfit : ∀ entry ∈ exchange, ¬entry.Overflows := by simp [exchange, Entry.Overflows]
  have hfresh : (opened (exchange.map (·.event))).Nodup := by decide
  obtain ⟨⟨log, s⟩, hrun, rfl⟩ := Option.map_eq_some_iff.1 hlog
  obtain ⟨hids, hpages, -, -, hdecisions, hstored, hqueued, hsessions⟩ := counts_run hstart hrun
  have hmem : ("ann", hello) ∈ received secondsServer.index exchange := by decide
  exact ⟨s, hrun, hids.trans (by decide), hpages.trans (by decide), hdecisions.trans (by decide),
    (((hstored hfit).2 "ann" hello).1 hmem).2, (hqueued hfresh).1, hsessions.trans (by decide)⟩

end Server

end ChatRelay

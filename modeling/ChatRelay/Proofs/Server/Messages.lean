import ChatRelay.History.Serving
import ChatRelay.Proofs.Generator
import ChatRelay.Proofs.Message
import ChatRelay.Proofs.Store.Messages
import ChatRelay.Server.Request

/-!
# What serving a frame stores

Only a request to send a message stores anything; every other operation leaves the messages of the
store, the generator and the bucket index alone (`Server.Alike`). A message is stored once for its
author and once for each of its recipients (`deliver_messages`). Apart from that, delivery changes
nothing but what is queued and recorded (`deliver_settled`).
-/

namespace ChatRelay.Server

/-! ## Operations that store no message -/

/-- A server that has the same messages and mints, files and shows the next one in the same way. -/
structure Alike (s s' : Server) : Prop where
  generator : s'.generator = s.generator
  index : s'.index = s.index
  history : s'.history = s.history
  messages : s'.store.messages = s.store.messages

theorem Alike.refl (s : Server) : s.Alike s := ⟨rfl, rfl, rfl, rfl⟩

variable (s : Server)

theorem record_alike (change : Metrics → Metrics) : s.Alike (s.record change) :=
  ⟨rfl, rfl, rfl, rfl⟩

/-- A frame that is queued changes nothing but queues. -/
theorem push_queues (user : UserId) (frame : ServerFrame) :
    s.push user frame = { s with queues := (s.push user frame).queues } := by
  unfold push
  split <;> rfl

theorem push_registry (user : UserId) (frame : ServerFrame) :
    (s.push user frame).registry = s.registry := by rw [push_queues]

theorem push_store (user : UserId) (frame : ServerFrame) :
    (s.push user frame).store = s.store := by rw [push_queues]

/-- The members of a thread who are told that a user is typing: all others who are connected. -/
def typingTargets (user : UserId) (members : List UserId) : List UserId :=
  (recipients user members).filter s.registry.isConnected

/-- Telling somebody connects nobody, so that it can be said beforehand who will be told. -/
theorem notifyTyping_eq (user : UserId) (thread : ThreadId) (seen : List UserId) (notified : Nat)
    (members : List UserId) :
    s.notifyTyping user thread seen notified members =
      (notified + ((newNames seen members).filter s.registry.isConnected).length,
        ((newNames seen members).filter s.registry.isConnected).foldl
          (fun s target => s.push target (.typing typingTopic user thread)) s) := by
  induction members generalizing s seen notified with
  | nil => rfl
  | cons member members ih =>
    by_cases hseen : member ∈ seen
    · rw [notifyTyping, if_pos hseen, ih, newNames, if_pos hseen]
    · rw [notifyTyping, if_neg hseen, newNames, if_neg hseen]
      by_cases hconnected : s.registry.isConnected member = true
      · rw [if_pos hconnected, ih, push_registry, List.filter_cons_of_pos hconnected,
          List.length_cons, List.foldl_cons, Nat.add_right_comm, Nat.add_assoc]
      · rw [if_neg hconnected, ih, List.filter_cons_of_neg hconnected]

/-- The targets are told one after the other, and as many are told as there are targets. -/
theorem sendTyping_eq (user : UserId) (thread : ThreadId) (members : List UserId) :
    s.sendTyping user thread members =
      ((s.typingTargets user members).length,
        (s.typingTargets user members).foldl
          (fun s target => s.push target (.typing typingTopic user thread)) s) := by
  rw [sendTyping, notifyTyping_eq, Nat.zero_add]
  rfl

/-- What no frame that is queued changes, an indicator does not change. -/
theorem sendTyping_kept {A : Type} {f : Server → A}
    (hpush : ∀ s user frame, f (push s user frame) = f s) (user : UserId) (thread : ThreadId)
    (members : List UserId) : f (s.sendTyping user thread members).2 = f s := by
  rw [sendTyping_eq]
  generalize s.typingTargets user members = targets
  induction targets generalizing s with
  | nil => rfl
  | cons target targets ih => exact (ih _).trans (hpush s target _)

/-- An indicator changes nothing but queues. -/
theorem sendTyping_queues (user : UserId) (thread : ThreadId) (members : List UserId) :
    (s.sendTyping user thread members).2 =
      { s with queues := (s.sendTyping user thread members).2.queues } := by
  have hpush (s : Server) (user : UserId) (frame : ServerFrame) :
      { s.push user frame with queues := ∅ : Server } = { s with queues := ∅ } := by
    rw [push_queues]
  have hkept := s.sendTyping_kept (f := fun s => { s with queues := ∅ : Server }) hpush user thread
    members
  exact congrArg (fun t : Server =>
    { t with queues := (s.sendTyping user thread members).2.queues }) hkept

theorem openSession_alike (now : Millis) (user : UserId) (address : Option String)
    (session : SessionId) : s.Alike (s.openSession now user address session) := by
  simp only [openSession]
  split <;> split <;> exact ⟨rfl, rfl, rfl, rfl⟩

theorem closeSession_alike (user : UserId) (session : SessionId) :
    s.Alike (s.closeSession user session) := by
  simp only [closeSession]
  split <;> exact ⟨rfl, rfl, rfl, rfl⟩

theorem sendTyping_alike (user : UserId) (thread : ThreadId) (members : List UserId) :
    s.Alike (s.sendTyping user thread members).2 := by
  rw [sendTyping_queues]
  exact ⟨rfl, rfl, rfl, rfl⟩

/-- A page that is fetched is shown, and its first record may be marked. -/
theorem sendHistory_of_page {s : Server} {now : Millis} {user : UserId} {thread : ThreadId}
    {query : HistoryQuery} {page : HistoryPage}
    (h : (s.history.fetch (s.store.reader user thread) .embedded now thread query).outcome =
      .ok page) (id : RequestId) :
    s.sendHistory now id user thread query =
      some (.history id (page.markFirst query).1.records
          ((page.markFirst query).1.next.map (·.cursor))
          ((page.markFirst query).1.next.map (·.bucket)),
        { s with
          store := (s.store.marker user thread).mark s.store (page.markFirst query).2 :
            Server }.record (·.historyPage (page.markFirst query).1.records.length)) := by
  rw [sendHistory, History.fetchMarking, h]
  simp only [Except.map]
  generalize page.markFirst query = marked
  obtain ⟨shown, _ | record⟩ := marked <;> rfl

/-- **All that a request for history can do**: a page is fetched and shown, and its first record may
be marked; or there is none, which the user is told. -/
theorem sendHistory_cases {s : Server} {now : Millis} {id : RequestId} {user : UserId}
    {thread : ThreadId} {query : HistoryQuery} {answer : ServerFrame × Server}
    (h : s.sendHistory now id user thread query = some answer) :
    (∃ page, (s.history.fetch (s.store.reader user thread) .embedded now thread query).outcome =
        .ok page ∧
      answer.1 = .history id (page.markFirst query).1.records
        ((page.markFirst query).1.next.map (·.cursor))
        ((page.markFirst query).1.next.map (·.bucket)) ∧
      answer.2 = { s with
        store := (s.store.marker user thread).mark s.store (page.markFirst query).2 :
          Server }.record (·.historyPage (page.markFirst query).1.records.length)) ∨
    ∃ e : HistoryError,
      answer = (.error id .historyFailed e.message, s.record (·.error .history)) := by
  cases hfetch : (s.history.fetch (s.store.reader user thread) .embedded now thread
      query).outcome with
  | ok page =>
    obtain rfl := Option.some.inj ((sendHistory_of_page hfetch id).symm.trans h)
    exact .inl ⟨page, rfl, rfl, rfl⟩
  | error e =>
    rw [sendHistory, History.fetchMarking, hfetch] at h
    cases e with
    | overflow => cases h
    | _ => exact .inr ⟨_, (Option.some.inj h).symm⟩

/-- The answer to a request for history. -/
theorem sendHistory_of_handle {s : Server} {clock : Clock} {id : RequestId} {user : UserId}
    {thread : ThreadId} {query : HistoryQuery} {reply : Reply}
    (h : s.handle clock user (.history id thread query) = some reply) :
    s.sendHistory clock.now id user thread query = some (reply.frame, reply.server) := by
  obtain ⟨answer, hanswer, rfl⟩ := Option.map_eq_some_iff.1 h
  exact hanswer

/-- A request for history changes at most what is stored and recorded. -/
theorem sendHistory_rest {s : Server} {now : Millis} {id : RequestId} {user : UserId}
    {thread : ThreadId} {query : HistoryQuery} {answer : ServerFrame × Server}
    (h : s.sendHistory now id user thread query = some answer) :
    answer.2 = { s with store := answer.2.store, metrics := answer.2.metrics } := by
  rcases sendHistory_cases h with ⟨page, -, -, hserver⟩ | ⟨e, rfl⟩
  · rw [hserver]
    rfl
  · rfl

/-- A page of history marks at most one record. -/
theorem sendHistory_alike {s : Server} {now : Millis} {id : RequestId} {user : UserId}
    {thread : ThreadId} {query : HistoryQuery} {answer : ServerFrame × Server}
    (h : s.sendHistory now id user thread query = some answer) : s.Alike answer.2 := by
  rcases sendHistory_cases h with ⟨page, -, -, hserver⟩ | ⟨e, rfl⟩
  · rw [hserver]
    refine ⟨rfl, rfl, rfl, ?_⟩
    cases (page.markFirst query).2 with
    | none => rfl
    | some record => exact s.store.messages_markRead user thread record.bucket record.messageId
  · exact ⟨rfl, rfl, rfl, rfl⟩

/-- No frame but a message to send stores or mints anything. -/
theorem handle_alike {s : Server} {clock : Clock} {user : UserId} {frame : ClientFrame}
    {reply : Reply}
    (hframe : ∀ id thread name members body, frame ≠ .send id thread name members body)
    (h : s.handle clock user frame = some reply) : s.Alike reply.server := by
  cases frame with
  | subscribe id topic =>
    simp only [handle] at h
    split at h <;> obtain rfl := Option.some.inj h
    · exact ⟨rfl, rfl, rfl, rfl⟩
    · exact .refl s
  | unsubscribe id topic =>
    obtain rfl := Option.some.inj h
    exact ⟨rfl, rfl, rfl, rfl⟩
  | send id thread name members body => exact absurd rfl (hframe id thread name members body)
  | history id thread query => exact sendHistory_alike (sendHistory_of_handle h)
  | typing id thread members =>
    obtain rfl := Option.some.inj h
    exact s.sendTyping_alike user thread members
  | ping timestamp =>
    obtain rfl := Option.some.inj h
    exact .refl s

/-! ## Delivery -/

variable {s} {message : Message} {user target : UserId} {targets : List UserId} {fanout : Fanout}

/-- A server without what a delivery changes. -/
def settled (s : Server) : Server := { s with store := .empty, queues := ∅, metrics := {} }

theorem push_settled (s : Server) (user : UserId) (frame : ServerFrame) :
    (s.push user frame).settled = s.settled := by
  rw [push_queues]
  rfl

theorem deliverTo_settled (s : Server) (message : Message) (target : UserId) :
    (deliverTo message s target).settled = s.settled := by
  simp only [deliverTo]
  split
  · rfl
  · exact push_settled _ target _
  · exact push_settled _ target _

/-- **Delivery changes nothing but what is stored, queued and recorded.** -/
theorem deliver_settled (s : Server) (fanout : Fanout) :
    (s.deliver fanout).settled = s.settled := by
  have hfold (targets : List UserId) (s : Server) :
      (targets.foldl (deliverTo fanout.message) s).settled = s.settled := by
    induction targets generalizing s with
    | nil => rfl
    | cons target targets ih => exact (ih _).trans (deliverTo_settled s _ target)
  exact hfold fanout.recipients _

theorem deliverTo_generator (s : Server) (message : Message) (target : UserId) :
    (deliverTo message s target).generator = s.generator :=
  (congrArg generator (deliverTo_settled s message target) :)

theorem deliverTo_registry (s : Server) (message : Message) (target : UserId) :
    (deliverTo message s target).registry = s.registry :=
  (congrArg registry (deliverTo_settled s message target) :)

theorem deliver_registry (s : Server) (fanout : Fanout) :
    (s.deliver fanout).registry = s.registry := (congrArg registry (s.deliver_settled fanout) :)

/-- **Delivery to a user stores one record for them**, a read one if the message goes to them
directly. -/
theorem deliverTo_store (s : Server) (message : Message) (target : UserId) :
    (deliverTo message s target).store = s.store.insert target ((Record.ofMessage message).withRead
      (s.registry.route s.generator.epoch target message = .direct)) := by
  simp only [deliverTo]
  cases hroute : s.registry.route s.generator.epoch target message with
  | dropped => rfl
  | notification =>
    simp only [push_store]
    rfl
  | direct =>
    simp only [push_store]
    exact s.store.markRead_insert target (.ofMessage message)

theorem deliverTo_partition (s : Server) (message : Message) (target user : UserId)
    (thread : ThreadId) (bucket : Bucket) :
    (deliverTo message s target).store.partition user thread bucket =
      if target = user ∧ message.threadId = thread ∧ message.bucket = bucket then
        (s.store.partition target thread bucket).insert ((Record.ofMessage message).withRead
          (s.registry.route s.generator.epoch target message = .direct))
      else s.store.partition user thread bucket := by
  rw [deliverTo_store, Store.partition_insert]
  rfl

/-- Delivery to several users stores the message for each of them, who has read it if it goes to
them directly. -/
theorem foldl_deliverTo_partition (s : Server) (message : Message) (hnodup : targets.Nodup)
    (user : UserId) (thread : ThreadId) (bucket : Bucket) :
    (targets.foldl (deliverTo message) s).store.partition user thread bucket =
      if user ∈ targets ∧ message.threadId = thread ∧ message.bucket = bucket then
        (s.store.partition user thread bucket).insert ((Record.ofMessage message).withRead
          (s.registry.route s.generator.epoch user message = .direct))
      else s.store.partition user thread bucket := by
  induction targets generalizing s with
  | nil => simp
  | cons target targets ih =>
    obtain ⟨hnot, hnodup⟩ := List.nodup_cons.1 hnodup
    rw [List.foldl_cons, ih (deliverTo message s target) hnodup, deliverTo_registry,
      deliverTo_generator, deliverTo_partition]
    by_cases huser : target = user
    · subst huser
      simp only [hnot, false_and, if_false, List.mem_cons_self, true_and]
    · have hmem : user ∈ target :: targets ↔ user ∈ targets := by simp [Ne.symm huser]
      simp only [huser, hmem, false_and, if_false]

/-- Delivery changes no settings and mints nothing. -/
theorem deliver_kept (s : Server) (fanout : Fanout) :
    (s.deliver fanout).generator = s.generator ∧ (s.deliver fanout).index = s.index ∧
      (s.deliver fanout).history = s.history :=
  have hsettled := s.deliver_settled fanout
  ⟨(congrArg generator hsettled :), (congrArg index hsettled :), (congrArg history hsettled :)⟩

/-- **A message is stored once for its author and once for each recipient**, in the partition of its
thread and bucket, and for nobody else. Its author has read it, and so has a recipient if it goes to
them directly. -/
theorem deliver_partition (s : Server) (hnodup : fanout.recipients.Nodup)
    (hauthor : fanout.message.author ∉ fanout.recipients) (user : UserId) (thread : ThreadId)
    (bucket : Bucket) :
    (s.deliver fanout).store.partition user thread bucket =
      if (fanout.message.author = user ∨ user ∈ fanout.recipients) ∧
          fanout.message.threadId = thread ∧ fanout.message.bucket = bucket then
        (s.store.partition user thread bucket).insert ((Record.ofMessage fanout.message).withRead
          (fanout.message.author = user ∨
            s.registry.route s.generator.epoch user fanout.message = .direct))
      else s.store.partition user thread bucket := by
  simp only [deliver]
  rw [foldl_deliverTo_partition _ _ hnodup]
  simp only [record, Store.partition_insert]
  by_cases huser : fanout.message.author = user
  · subst huser
    simp only [hauthor, false_and, if_false, true_and, true_or]
    rfl
  · simp only [huser, false_and, if_false, false_or]
    split <;> rfl

/-- The newest message comes first in what its author and each recipient have of its thread. -/
theorem deliver_messages (hnodup : fanout.recipients.Nodup)
    (hauthor : fanout.message.author ∉ fanout.recipients)
    (hnew : ∀ r ∈ s.store.messages user fanout.message.threadId fanout.message.bucket,
      r.messageId < fanout.message.messageId) (thread : ThreadId) (bucket : Bucket) :
    (s.deliver fanout).store.messages user thread bucket =
      if (fanout.message.author = user ∨ user ∈ fanout.recipients) ∧
          fanout.message.threadId = thread ∧ fanout.message.bucket = bucket then
        .ofMessage fanout.message :: s.store.messages user thread bucket
      else s.store.messages user thread bucket := by
  rw [Store.messages, deliver_partition s hnodup hauthor]
  split
  next hkey =>
    obtain ⟨-, rfl, rfl⟩ := hkey
    exact s.store.map_unread_insert user hnew
  next => rfl

/-- **All that a request to send can do**: the generator's call fails, which stores nothing, or it
mints the identifier of the message that is delivered. -/
theorem send_cases {clock : Clock} {id : RequestId} {draft : Draft} {members : List UserId}
    {reply : Reply} (h : s.send clock id draft members = some reply) :
    ∃ minting, s.generator.Call clock minting ∧
      ((∃ e, minting.result = .error e ∧ reply.frame = .error id .idUnavailable e.message ∧
          reply.server =
            { s with generator := minting.generator : Server }.record (·.error .idGeneration)) ∨
        ∃ messageId, minting.result = .ok messageId ∧ reply.frame = .ack id (some messageId) ∧
          reply.server = { s with generator := minting.generator : Server }.deliver
            (.ofDraft s.index messageId draft members)) := by
  obtain ⟨minting, hmint, h⟩ := Option.bind_eq_some_iff.1 h
  refine ⟨minting, Generator.mint_eq_some_iff.1 hmint, ?_⟩
  split at h
  next messageId hresult =>
    obtain rfl := Option.some.inj h
    exact .inr ⟨messageId, hresult, rfl, rfl⟩
  next e hresult =>
    obtain rfl := Option.some.inj h
    exact .inl ⟨e, hresult, rfl, rfl⟩

/-- A request to send changes nothing but the generator of what messages are minted, filed and shown
with. -/
theorem send_kept {clock : Clock} {id : RequestId} {draft : Draft} {members : List UserId}
    {reply : Reply} (h : s.send clock id draft members = some reply) :
    ∃ minting, s.generator.Call clock minting ∧ reply.server.generator = minting.generator ∧
      reply.server.index = s.index ∧ reply.server.history = s.history := by
  obtain ⟨minting, hcall, ⟨e, -, -, hserver⟩ | ⟨messageId, -, -, hserver⟩⟩ := send_cases h
  · rw [hserver]
    exact ⟨minting, hcall, rfl, rfl, rfl⟩
  · rw [hserver]
    exact ⟨minting, hcall, deliver_kept { s with generator := minting.generator }
      (.ofDraft s.index messageId draft members)⟩

/-- A message that is acknowledged has its identifier from the generator and is delivered. -/
theorem send_of_ack {clock : Clock} {id : RequestId} {draft : Draft} {members : List UserId}
    {reply : Reply} {messageId : MessageId} (h : s.send clock id draft members = some reply)
    (hack : reply.frame = .ack id (some messageId)) :
    ∃ minting, s.generator.Call clock minting ∧ minting.result = .ok messageId ∧
      reply.server = { s with generator := minting.generator : Server }.deliver
        (.ofDraft s.index messageId draft members) := by
  obtain ⟨minting, hcall, ⟨e, -, hframe, -⟩ | ⟨messageId', hid, hframe, hserver⟩⟩ := send_cases h
  · exact nomatch hack.symm.trans hframe
  · obtain ⟨-, hsame⟩ := ServerFrame.ack.inj (hack.symm.trans hframe)
    obtain rfl := Option.some.inj hsame
    exact ⟨minting, hcall, hid, hserver⟩

/-- What an acknowledged message does to what is stored. -/
theorem send_partition {clock : Clock} {id : RequestId} {draft : Draft} {members : List UserId}
    {reply : Reply} {messageId : MessageId} (h : s.send clock id draft members = some reply)
    (hack : reply.frame = .ack id (some messageId)) (user : UserId) (thread : ThreadId)
    (bucket : Bucket) :
    reply.server.store.partition user thread bucket =
      if (draft.author = user ∨ user ∈ members) ∧ draft.threadId = thread ∧
          s.index.ofId messageId = bucket then
        (s.store.partition user thread bucket).insert
          ((Record.ofMessage (draft.send messageId (s.index.ofId messageId))).withRead
            (draft.author = user ∨ s.registry.route s.generator.epoch user
              (draft.send messageId (s.index.ofId messageId)) = .direct))
      else s.store.partition user thread bucket := by
  obtain ⟨minting, hcall, -, hserver⟩ := send_of_ack h hack
  have hauthor : draft.author ∉ recipients draft.author members := fun hmem =>
    (mem_recipients.1 hmem).2 rfl
  rw [hserver, deliver_partition _ (recipients_nodup draft.author members) hauthor]
  simp only [Fanout.ofDraft, Draft.send, author_or_mem_recipients, hcall.settings.1]
  split <;> rfl

/-- A message for which an identifier is minted is acknowledged and delivered. -/
theorem send_of_ok {clock : Clock} {minting : Minting} {messageId : MessageId}
    (hmint : s.generator.mint clock = some minting) (hid : minting.result = .ok messageId)
    (id : RequestId) (draft : Draft) (members : List UserId) :
    s.send clock id draft members = some
      { frame := .ack id (some messageId)
        server := { s with generator := minting.generator : Server }.deliver
          (.ofDraft s.index messageId draft members)
        clock := { now := minting.reading, later := minting.unread } } := by
  simp only [send, hmint, Option.bind_eq_bind, Option.bind_some, hid]
  rfl

end ChatRelay.Server

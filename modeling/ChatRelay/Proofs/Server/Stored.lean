import ChatRelay.Proofs.Bucket
import ChatRelay.Proofs.Server.Messages
import ChatRelay.Proofs.Server.Run

/-!
# What a run stores

Nothing is lost, doubled or shown to others: after a run, a user's records of a thread are the
copies of the messages on it that were acknowledged and that the user wrote or was listed for
(`Entry.copy?`, `stored_run`). New identifiers are above all that were acknowledged before, so that
no record replaces another; the invariant `Stored` carries this along.
-/

namespace ChatRelay

namespace Entry

/-- The copy that a user has of the message that an entry acknowledges, if it is on a thread and the
user is its author or one of the members. -/
def copy? (index : BucketIndex) (user : UserId) (thread : ThreadId) : Entry → Option Record
  | ⟨.frame _ author (.send _ threadId _ members body), some (.ack _ (some messageId))⟩ =>
    if threadId = thread ∧ (author = user ∨ user ∈ members) then
      some { messageId, threadId, bucket := index.ofId messageId, author, body }
    else none
  | _ => none

/-- No identifier was minted because the timestamp is too large. -/
def Overflows (entry : Entry) : Prop :=
  ∃ id timestamp, entry.reply =
    some (.error id .idUnavailable (MintError.timestampOverflow timestamp).message)

end Entry

namespace Server

/-- Whether an event asks for an identifier whose timestamp is too large. -/
def Overflows (s : Server) : Event → Prop
  | .frame clock _ (.send ..) => ∃ minting, s.generator.Call clock minting ∧ minting.overflows
  | _ => False

/-- The copies that a user has of the messages of a log on a thread, oldest first. -/
def copies (index : BucketIndex) (user : UserId) (thread : ThreadId) (log : List Entry) :
    List Record :=
  log.filterMap (Entry.copy? index user thread)

/-- A server whose messages are the copies of the acknowledged ones, with a generator that mints
only above them. -/
structure Stored (index : BucketIndex) (log : List Entry) (s : Server) : Prop where
  filing : s.index = index
  messages : ∀ user thread bucket, s.store.messages user thread bucket =
    ((copies index user thread log).filter (·.bucket = bucket)).reverse
  increasing : ∀ user thread,
    (copies index user thread log).Pairwise (·.messageId < ·.messageId)
  past : ∀ user thread, ∀ r ∈ copies index user thread log, s.generator.Past r.messageId

variable {index : BucketIndex} {log : List Entry} {s s' : Server} {entry : Entry}

/-- The reply says so if a timestamp is too large. -/
theorem overflows_entry {event : Event} {reply : Option ServerFrame}
    (hstep : s.step event = some (reply, s')) (h : s.Overflows event) :
    Entry.Overflows ⟨event, reply⟩ := by
  match event with
  | .frame clock author (.send id thread name members body) =>
    obtain ⟨minting, hcall, hover⟩ := h
    obtain ⟨answer, hanswer, rfl, rfl⟩ := answer_of_step hstep nofun
    obtain ⟨minting', hcall', hcases⟩ := send_cases hanswer
    obtain rfl := hcall.unique hcall'
    rcases hcases with ⟨e, he, hframe, -⟩ | ⟨messageId, hid, -, -⟩
    · cases e with
      | clockRegressed regression tolerance =>
        rw [Minting.overflows, he] at hover
        exact absurd hover Bool.false_ne_true
      | timestampOverflow timestamp => exact ⟨id, timestamp, congrArg some hframe⟩
    · rw [Minting.overflows, hid] at hover
      exact absurd hover Bool.false_ne_true

/-- **All that an event can do to messages**: nothing, or it is a request to send one. -/
theorem step_cases {event : Event} {reply : Option ServerFrame}
    (hstep : s.step event = some (reply, s')) :
    (s.Alike s' ∧ ∀ index user thread, Entry.copy? index user thread ⟨event, reply⟩ = none) ∨
    ∃ clock author id thread name members body answer,
      event = .frame clock author (.send id thread name members body) ∧
      s.handle clock author (.send id thread name members body) = some answer ∧
      reply = some answer.frame ∧ s' = answer.server := by
  cases event with
  | opening now user address session =>
    obtain ⟨rfl, rfl⟩ := Prod.mk.inj (Option.some.inj hstep)
    exact .inl ⟨s.openSession_alike now user address session, fun _ _ _ => rfl⟩
  | closing user session =>
    obtain ⟨rfl, rfl⟩ := Prod.mk.inj (Option.some.inj hstep)
    exact .inl ⟨s.closeSession_alike user session, fun _ _ _ => rfl⟩
  | frame clock user frame =>
    rcases step_frame_eq_some_iff.1 hstep with ⟨hstops, rfl, rfl⟩ | ⟨answer, hanswer, rfl, rfl⟩
    · obtain ⟨id, thread, query, rfl, -⟩ := stops_iff.1 hstops
      exact .inl ⟨.refl _, fun _ _ _ => rfl⟩
    cases frame with
    | send id thread name members body =>
      exact .inr ⟨clock, user, id, thread, name, members, body, answer, rfl, hanswer, rfl, rfl⟩
    | _ => exact .inl ⟨handle_alike (by simp) hanswer, fun _ _ _ => rfl⟩

theorem copies_concat (user : UserId) (thread : ThreadId) :
    copies index user thread (log ++ [entry]) =
      copies index user thread log ++ (entry.copy? index user thread).toList := by
  rw [copies, List.filterMap_append, List.filterMap_cons]
  cases entry.copy? index user thread <;> rfl

namespace Stored

/-- Nothing stored, nothing acknowledged. -/
theorem alike (h : Stored index log s) (halike : s.Alike s')
    (hcopy : ∀ user thread, entry.copy? index user thread = none) :
    Stored index (log ++ [entry]) s' := by
  have hcopies (user : UserId) (thread : ThreadId) :
      copies index user thread (log ++ [entry]) = copies index user thread log := by
    rw [copies_concat, hcopy, Option.toList_none, List.append_nil]
  constructor
  · exact halike.index.trans h.filing
  · simpa only [hcopies, halike.messages] using h.messages
  · simpa only [hcopies] using h.increasing
  · simpa only [hcopies, halike.generator] using h.past

section Acknowledged

variable {messageId : MessageId} {draft : Draft} {members : List UserId}
  (hcopy : ∀ user thread, entry.copy? index user thread =
    if draft.threadId = thread ∧ (draft.author = user ∨ user ∈ members) then
      some (.ofMessage (draft.send messageId (index.ofId messageId)))
    else none)
include hcopy

/-- A copy of the acknowledged message has its identifier. -/
theorem messageId_of_mem_copy {user : UserId} {thread : ThreadId} {r : Record}
    (hr : r ∈ (entry.copy? index user thread).toList) : r.messageId = messageId := by
  rw [hcopy, Option.mem_toList, Option.ite_none_right_eq_some] at hr
  exact (Option.some.inj hr.2) ▸ rfl

variable (h : Stored index log s) {generator : Generator}
include h

/-- A message above all the others is in front of what its author and its recipients have. -/
theorem messages_deliver
    (hbelow : ∀ user thread, ∀ r ∈ copies index user thread log, r.messageId < messageId)
    (user : UserId) (thread : ThreadId) (bucket : Bucket) :
    ({ s with generator : Server }.deliver
        (.ofDraft s.index messageId draft members)).store.messages user thread bucket =
      ((copies index user thread (log ++ [entry])).filter (·.bucket = bucket)).reverse := by
  have hstored : ∀ r ∈ s.store.messages user draft.threadId (s.index.ofId messageId),
      r.messageId < messageId := by
    intro r hr
    rw [h.messages, List.mem_reverse] at hr
    exact hbelow user draft.threadId r (List.mem_filter.1 hr).1
  have hauthor : draft.author ∉ recipients draft.author members := fun hmem =>
    (mem_recipients.1 hmem).2 rfl
  rw [deliver_messages (recipients_nodup draft.author members) hauthor hstored, copies_concat,
    hcopy, List.filter_append, List.reverse_append, ← h.messages]
  simp only [Fanout.ofDraft, Draft.send, author_or_mem_recipients, h.filing]
  by_cases hcopied : draft.threadId = thread ∧ (draft.author = user ∨ user ∈ members)
  · by_cases hbucket : index.ofId messageId = bucket
    · simp [hcopied, hbucket, Record.ofMessage]
    · simp [hcopied, hbucket, Record.ofMessage]
  · rw [if_neg hcopied, if_neg fun hall => hcopied ⟨hall.2.1, hall.1⟩]
    rfl

/-- To deliver a message above all the others and to acknowledge it goes together. -/
theorem deliver (hpast : ∀ id, s.generator.Past id → generator.Past id ∧ id < messageId)
    (hnew : generator.Past messageId) :
    Stored index (log ++ [entry]) ({ s with generator : Server }.deliver
      (.ofDraft s.index messageId draft members)) := by
  obtain ⟨hgenerator, hindex, -⟩ := deliver_kept { s with generator }
    (.ofDraft s.index messageId draft members)
  have hbelow (user : UserId) (thread : ThreadId) :
      ∀ r ∈ copies index user thread log, r.messageId < messageId := fun r hr =>
    (hpast _ (h.past user thread r hr)).2
  constructor
  · exact hindex.trans h.filing
  · exact h.messages_deliver hcopy hbelow
  · intro user thread
    rw [copies_concat, List.pairwise_append]
    refine ⟨h.increasing user thread, ?_, fun a ha b hb => ?_⟩
    · cases entry.copy? index user thread <;> simp
    · rw [messageId_of_mem_copy hcopy hb]
      exact hbelow user thread a ha
  · intro user thread r hr
    rw [hgenerator]
    rw [copies_concat, List.mem_append] at hr
    rcases hr with hr | hr
    · exact (hpast _ (h.past user thread r hr)).1
    · rw [messageId_of_mem_copy hcopy hr]
      exact hnew

end Acknowledged

/-- A request to send a message stores it if it is acknowledged, and nothing otherwise. -/
theorem send (h : Stored index log s) {clock : Clock} {author : UserId} {id : RequestId}
    {thread : ThreadId} {name : Option String} {members : List UserId} {body : String}
    {answer : Reply}
    (hanswer : s.handle clock author (.send id thread name members body) = some answer)
    (hfit : ¬s.Overflows (.frame clock author (.send id thread name members body))) :
    Stored index
      (log ++ [⟨.frame clock author (.send id thread name members body), some answer.frame⟩])
      answer.server := by
  obtain ⟨minting, hcall, hcases⟩ := send_cases hanswer
  have hno : minting.overflows = false := Bool.eq_false_iff.2 fun hover =>
    hfit ⟨minting, hcall, hover⟩
  rcases hcases with ⟨e, he, hframe, hserver⟩ | ⟨messageId, hid, hframe, hserver⟩
  · -- the clock was refused, which leaves the generator as it was
    rcases hcall.refused_or_minted hno with ⟨-, hgenerator⟩ | ⟨_, _, _, _, hminted, _⟩
    · rw [hgenerator] at hserver
      rw [hserver]
      exact h.alike (record_alike s _) fun _ _ => by rw [hframe]; rfl
    · exact nomatch he.symm.trans hminted
  · rw [hserver]
    refine h.deliver (fun _ _ => by rw [hframe]; rfl) (fun old hold => ?_)
      (hcall.past_minted hno hid)
    obtain ⟨hpast, hlt⟩ := hcall.lt_of_past hno hold
    exact ⟨hpast, hlt messageId hid⟩

/-- **Every event keeps the messages in step with the log.** -/
theorem step (h : Stored index log s) {event : Event} {reply : Option ServerFrame}
    (hstep : s.step event = some (reply, s')) (hfit : ¬s.Overflows event) :
    Stored index (log ++ [⟨event, reply⟩]) s' := by
  rcases step_cases hstep with
    ⟨halike, hcopy⟩ |
      ⟨clock, author, id, thread, name, members, body, answer, rfl, hanswer, rfl, rfl⟩
  · exact h.alike halike (hcopy index)
  · exact h.send hanswer hfit

/-- A run that no timestamp is too large for keeps the messages in step with the log. -/
theorem run (h : Stored index log s) {events : List Event} {rest : List Entry}
    (hrun : s.run events = some (rest, s')) (hfit : ∀ entry ∈ rest, ¬entry.Overflows) :
    Stored index (log ++ rest) s' := by
  refine run_induct
    (P := fun rest s' => (∀ entry ∈ rest, ¬entry.Overflows) → Stored index (log ++ rest) s')
    hrun (fun _ => by rwa [List.append_nil]) (fun rest s event reply s' ih hstep hfit => ?_) hfit
  have hlast := hfit ⟨event, reply⟩ (by simp)
  rw [← List.append_assoc]
  exact (ih fun entry hentry => hfit entry (by simp [hentry])).step hstep
    (mt (overflows_entry hstep) hlast)

end Stored

/-- A server starts with nothing stored. -/
theorem stored_start {config : Config} {host : Host} {now : Millis}
    (h : start config host now = .ok s) : Stored s.index [] s := by
  obtain ⟨generator, index, history, -, -, -, rfl⟩ := start_eq_ok h
  refine ⟨rfl, fun user thread bucket => ?_, fun _ _ => List.Pairwise.nil, nofun⟩
  rw [Store.messages_empty]
  rfl

variable {config : Config} {host : Host} {now : Millis} {events : List Event} {s₀ : Server}

/-- **A run stores exactly the acknowledged messages.** Whatever happens in whatever order, a user
has of a thread, read flags aside, one record for each acknowledged message on it that the user
wrote or was listed for, in the bucket of its identifier and newest first; and no identifier comes
twice. -/
theorem stored_run (hstart : start config host now = .ok s₀)
    (hrun : s₀.run events = some (log, s)) (hfit : ∀ entry ∈ log, ¬entry.Overflows)
    (user : UserId) (thread : ThreadId) :
    (∀ bucket, s.store.messages user thread bucket =
      ((copies s₀.index user thread log).filter (·.bucket = bucket)).reverse) ∧
    (copies s₀.index user thread log).Pairwise (·.messageId < ·.messageId) := by
  have hstored : Stored s₀.index log s := (stored_start hstart).run hrun hfit
  exact ⟨hstored.messages user thread, hstored.increasing user thread⟩

/-! ## A short exchange -/

/-- Buckets of a second. -/
def seconds : Config :=
  { ids := { node := some 1 }, history := { bucketSize := 1000, pageSize := 1 } }

/-- What has started from it. -/
def secondsServer : Server where
  generator :=
    { epoch := 0, node := ⟨1, MessageId.one_lt_nodeCount⟩, tolerance := 1000, last := 999
      sequence := ⟨0, MessageId.sequenceCount_pos⟩ }
  index := { size := 1000, epoch := 0, size_pos := BucketIndex.second_pos }
  history :=
    { index := { size := 1000, epoch := 0, size_pos := BucketIndex.second_pos }, pageSize := 1
      pageSize_pos := Nat.one_pos }

/-- The first message of the exchange. -/
def hello : Record :=
  { messageId := .pack 1500 1 0, threadId := ⟨0⟩, bucket := 1, author := "bob", body := "hello" }

/-- The answer to it. -/
def hi : Record :=
  { messageId := .pack 2000 1 1, threadId := ⟨0⟩, bucket := 2, author := "ann", body := "hi" }

/-- A message to members who are named twice, an answer and a look at the thread. -/
def exchange : List Entry :=
  [⟨.opening 1000 "ann" none "a1", none⟩,
    ⟨.frame ⟨1500, []⟩ "bob" (.send 1 ⟨0⟩ none ["ann", "bob", "ann"] "hello"),
      some (.ack 1 (some hello.messageId))⟩,
    ⟨.frame ⟨2000, []⟩ "ann" (.send 2 ⟨0⟩ none ["bob"] "hi"), some (.ack 2 (some hi.messageId))⟩,
    ⟨.frame ⟨2001, []⟩ "bob" (.history 3 ⟨0⟩ {}),
      some (.history 3 [hi.withRead true] none none)⟩,
    ⟨.closing "ann" "a1", none⟩]

/-- What the general statement says of the exchange. -/
theorem stored_run_exchange :
    ∃ s, secondsServer.run (exchange.map (·.event)) = some (exchange, s) ∧
      s.store.messages "ann" ⟨0⟩ 1 = [hello] ∧ s.store.messages "bob" ⟨0⟩ 2 = [hi] ∧
      s.store.messages "eve" ⟨0⟩ 1 = [] := by
  have hstart : start seconds {} 1000 = .ok secondsServer := rfl
  have hlog : (secondsServer.run (exchange.map (·.event))).map (·.1) = some exchange := by decide
  obtain ⟨⟨log, s⟩, hrun, rfl⟩ := Option.map_eq_some_iff.1 hlog
  have hfit : ∀ entry ∈ exchange, ¬entry.Overflows := by simp [exchange, Entry.Overflows]
  have hstored := stored_run hstart hrun hfit
  exact ⟨s, hrun, (hstored "ann" ⟨0⟩).1 1, (hstored "bob" ⟨0⟩).1 2, (hstored "eve" ⟨0⟩).1 1⟩

end Server

end ChatRelay

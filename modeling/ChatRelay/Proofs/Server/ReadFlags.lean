import ChatRelay.History.Serving
import ChatRelay.Proofs.Server.ReadBack
import Mathlib.Data.List.Induction

/-!
# Which records are read

A user has read a message exactly if they wrote it, or it went to them directly when it was sent, or
a history that they asked for without a cursor began with it (`read_run`). One event changes the
read flags only of what it sends or shows (`Stored.read_step`), and identifiers are new, so that
nothing is stored over what has been read.
-/

namespace ChatRelay

namespace Entry

/-- Whether a user is answered a history of a thread, without having given a cursor, that begins
with a message. -/
def Shows (user : UserId) (thread : ThreadId) (messageId : MessageId) : Entry → Prop
  | ⟨.frame _ asker (.history _ thread' query), some (.history _ records _ _)⟩ =>
    asker = user ∧ thread' = thread ∧ query.cursor = none ∧
      records.head?.map (·.messageId) = some messageId
  | _ => False

end Entry

/-- Records that differ in their read flags at most are of the same message. -/
theorem Record.same_of_unread_eq {a b : Record} (h : a.unread = b.unread) :
    a.messageId = b.messageId ∧ a.author = b.author := by
  simp only [unread, withRead, Record.mk.injEq] at h
  exact ⟨h.1, h.2.2.2.1⟩

namespace HistoryPage

/-- **All that a page can do to read flags**: one that resumes, or is empty, does nothing, and any
other shows its first record as read, which is marked in the store unless it was read. -/
theorem markFirst_cases (query : HistoryQuery) (page : HistoryPage) :
    (page.markFirst query = (page, none) ∧ ∀ id,
      ¬(query.cursor = none ∧ page.records.head?.map (·.messageId) = some id)) ∨
    ∃ first older, query.cursor = none ∧ page.records = first :: older ∧
      (page.markFirst query).1.records = first.withRead true :: older ∧
      (first.read = true ∧ (page.markFirst query).2 = none ∨
        (page.markFirst query).2 = some first) := by
  unfold markFirst
  split
  next newest older hcursor hrecords =>
    refine .inr ⟨newest, older, hcursor, hrecords, ?_⟩
    split
    next hread =>
      refine ⟨?_, .inl ⟨hread, rfl⟩⟩
      rw [hrecords, Record.withRead, ← hread]
    next => exact ⟨rfl, .inr rfl⟩
  next hnot =>
    refine .inl ⟨rfl, ?_⟩
    rintro id ⟨hcursor, hfirst⟩
    obtain ⟨first, hhead, -⟩ := Option.map_eq_some_iff.1 hfirst
    obtain ⟨older, hrecords⟩ := List.head?_eq_some_iff.1 hhead
    exact hnot first older hcursor hrecords

end HistoryPage

namespace Server

/-- Whether an entry acknowledges a message that goes to a user directly. -/
def SendsDirectly (s : Server) (user : UserId) (messageId : MessageId) : Entry → Prop
  | ⟨.frame _ author (.send _ thread name members body), some (.ack _ (some messageId'))⟩ =>
    messageId' = messageId ∧ user ∈ recipients author members ∧
      s.registry.route s.generator.epoch user
        { messageId, threadId := thread, threadName := name, bucket := s.index.ofId messageId
          author, authorName := none, body } = .direct
  | _ => False

/-- In a run, a message went to a user directly when it was sent. -/
def WentDirectly (s₀ : Server) (log : List Entry) (user : UserId) (messageId : MessageId) : Prop :=
  ∃ before entry after s, log = before ++ entry :: after ∧
    s₀.run (before.map (·.event)) = some (before, s) ∧ s.SendsDirectly user messageId entry

/-- In a run, a history began with a message. -/
def ShownFirst (log : List Entry) (user : UserId) (thread : ThreadId) (messageId : MessageId) :
    Prop :=
  ∃ entry ∈ log, entry.Shows user thread messageId

variable {s s' s₀ : Server} {log rest : List Entry} {entry : Entry} {events later : List Event}
  {event : Event} {reply : Option ServerFrame} {index : BucketIndex} {user : UserId}
  {thread : ThreadId} {bucket : Bucket} {r : Record} {messageId : MessageId}

theorem shownFirst_concat : ShownFirst (log ++ [entry]) user thread messageId ↔
    ShownFirst log user thread messageId ∨ entry.Shows user thread messageId := by
  simp [ShownFirst, or_and_right, exists_or]

theorem wentDirectly_concat (hrun : s₀.run (log.map (·.event)) = some (log, s)) :
    WentDirectly s₀ (log ++ [entry]) user messageId ↔
      WentDirectly s₀ log user messageId ∨ s.SendsDirectly user messageId entry := by
  constructor
  · rintro ⟨before, entry', after, middle, h, hbefore, hsends⟩
    rcases after.eq_nil_or_concat with rfl | ⟨init, last, rfl⟩
    · obtain rfl := List.append_inj_left' h rfl
      obtain rfl := List.singleton_inj.1 (List.append_inj_right' h rfl)
      obtain ⟨-, rfl⟩ := Prod.mk.inj (Option.some.inj (hbefore.symm.trans hrun))
      exact .inr hsends
    · rw [List.concat_eq_append, ← List.cons_append, ← List.append_assoc] at h
      obtain rfl := List.append_inj_left' h rfl
      exact .inl ⟨before, entry', init, middle, rfl, hbefore, hsends⟩
  · rintro (⟨before, entry', after, middle, rfl, hbefore, hsends⟩ | hsends)
    · exact ⟨before, entry', after ++ [entry], middle, by simp, hbefore, hsends⟩
    · exact ⟨log, entry, [], s, rfl, hrun, hsends⟩

/-! ## One event -/

theorem openSession_store (s : Server) (now : Millis) (user : UserId) (address : Option String)
    (session : SessionId) : (s.openSession now user address session).store = s.store := by
  simp only [openSession]
  split <;> split <;> rfl

theorem closeSession_store (s : Server) (user : UserId) (session : SessionId) :
    (s.closeSession user session).store = s.store := by
  simp only [closeSession]
  split <;> rfl

/-- An event that neither sends nor asks for a history stores and marks nothing. -/
theorem step_store (hstep : s.step event = some (reply, s'))
    (hsend : ∀ clock user id thread name members body,
      event ≠ .frame clock user (.send id thread name members body))
    (hhistory : ∀ clock user id thread query,
      event ≠ .frame clock user (.history id thread query)) : s'.store = s.store := by
  cases event with
  | opening now user address session =>
    obtain ⟨rfl, rfl⟩ := Prod.mk.inj (Option.some.inj hstep)
    exact s.openSession_store now user address session
  | closing user session =>
    obtain ⟨rfl, rfl⟩ := Prod.mk.inj (Option.some.inj hstep)
    exact s.closeSession_store user session
  | frame clock user frame =>
    rcases step_frame_eq_some_iff.1 hstep with ⟨-, -, rfl⟩ | ⟨answer, hanswer, -, rfl⟩
    · rfl
    cases frame with
    | subscribe id topic =>
      simp only [handle] at hanswer
      split at hanswer <;> obtain rfl := Option.some.inj hanswer <;> rfl
    | unsubscribe id topic =>
      obtain rfl := Option.some.inj hanswer
      rfl
    | send id thread name members body => exact absurd rfl (hsend _ _ _ _ _ _ _)
    | history id thread query => exact absurd rfl (hhistory _ _ _ _ _)
    | typing id thread members =>
      obtain rfl := Option.some.inj hanswer
      exact s.sendTyping_kept push_store user thread members
    | ping timestamp =>
      obtain rfl := Option.some.inj hanswer
      rfl

section History

variable {clock : Clock} {asker : UserId} {id : RequestId} {asked : ThreadId}
  {query : HistoryQuery} {answer : Reply}

/-- A server serves its histories from its own store. -/
theorem sendHistory_eq_serve (s : Server) (now : Millis) :
    s.sendHistory now id asker asked query =
      let served := s.history.serve s.store (s.store.reader asker asked)
        (s.store.marker asker asked) .embedded now asked query
      match served.outcome with
      | .ok page =>
        some (.history id page.records (page.next.map (·.cursor)) (page.next.map (·.bucket)),
          { s with store := served.store }.record (·.historyPage page.records.length))
      | .error .overflow => none
      | .error e => some (.error id .historyFailed e.message, s.record (·.error .history)) := by
  rw [sendHistory, History.serve]
  rcases s.history.fetchMarking (s.store.reader asker asked) .embedded now asked query with
    ⟨calls, error | ⟨page, _ | record⟩⟩
  · cases error <;> rfl
  · rfl
  · rfl

/-- **All that a history does to what is stored**: it fails, or shows nothing first, and then marks
nothing, or it shows a record of the store first, which is marked unless it was read. -/
theorem history_cases (hanswer : s.handle clock asker (.history id asked query) = some answer) :
    (answer.server.store = s.store ∧
      ∀ user thread messageId, ¬Entry.Shows user thread messageId
        ⟨.frame clock asker (.history id asked query), some answer.frame⟩) ∨
    ∃ first, first ∈ (s.store.partition asker asked first.bucket).records ∧
      (∀ user thread messageId, Entry.Shows user thread messageId
        ⟨.frame clock asker (.history id asked query), some answer.frame⟩ ↔
        asker = user ∧ asked = thread ∧ first.messageId = messageId) ∧
      (first.read = true ∧ answer.server.store = s.store ∨
        answer.server.store = s.store.markRead asker asked first.bucket first.messageId) := by
  obtain ⟨frame, server, clock'⟩ := answer
  rcases sendHistory_cases (sendHistory_of_handle hanswer) with
    ⟨page, hfetch, hframe, hserver⟩ | ⟨e, heq⟩
  · have hstored : ∀ r ∈ page.records, r ∈ (s.store.partition asker asked r.bucket).records :=
      fun r => s.history.mem_partition_of_fetch hfetch
    dsimp only at hframe hserver ⊢
    rw [hframe, hserver]
    rcases page.markFirst_cases query with
      ⟨hmark, hnone⟩ | ⟨first, older, hcursor, hrecords, hshown, hmark⟩
    · rw [hmark]
      exact .inl ⟨rfl, fun _ _ id' h => hnone id' h.2.2⟩
    · generalize page.markFirst query = marked at hshown hmark ⊢
      obtain ⟨marked, mark⟩ := marked
      refine .inr ⟨first, hstored first (by simp [hrecords]), fun user thread messageId => ?_, ?_⟩
      · simp only [Entry.Shows, hcursor, true_and]
        rw [show marked.records = _ from hshown]
        simp [Record.withRead]
      · rcases hmark with ⟨hread, rfl⟩ | rfl
        · exact .inl ⟨hread, rfl⟩
        · exact .inr rfl
  · obtain ⟨rfl, rfl⟩ := Prod.mk.inj heq
    exact .inl ⟨rfl, fun _ _ _ h => h⟩

/-- A history changes the read flag of the record that it shows first and nothing else. -/
theorem Stored.read_history (h : Stored index log s)
    (hanswer : s.handle clock asker (.history id asked query) = some answer)
    (hr : r ∈ (answer.server.store.partition user thread bucket).records) :
    ∃ old ∈ (s.store.partition user thread bucket).records, r.unread = old.unread ∧
      (r.read = true ↔ old.read = true ∨ Entry.Shows user thread r.messageId
        ⟨.frame clock asker (.history id asked query), some answer.frame⟩) := by
  rcases history_cases hanswer with ⟨hstore, hnone⟩ | ⟨first, hfirst, hshows, hstore⟩
  · rw [hstore] at hr
    exact ⟨r, hr, rfl, by simp [hnone]⟩
  simp only [hshows]
  -- a record of this message can only be the one that is shown
  have hunique {old : Record} (hold : old ∈ (s.store.partition user thread bucket).records)
      (hsame : asker = user ∧ asked = thread ∧ first.messageId = old.messageId) :
      old = first ∧ first.bucket = bucket := by
    obtain ⟨rfl, rfl, hid⟩ := hsame
    have hbucket := s.store.bucket_of_mem_partition asker asked hold
    have hbuckets : first.bucket = old.bucket := by
      rw [h.bucket_of_mem_partition hfirst, h.bucket_of_mem_partition hold, hid]
    rw [hbuckets, hbucket] at hfirst
    exact ⟨Partition.eq_of_messageId_eq _ hold hfirst hid.symm, hbuckets.trans hbucket⟩
  have hkept (hr : r ∈ (s.store.partition user thread bucket).records)
      (hread : asker = user ∧ asked = thread ∧ first.messageId = r.messageId → r.read = true) :
      ∃ old ∈ (s.store.partition user thread bucket).records, r.unread = old.unread ∧
        (r.read = true ↔ old.read = true ∨
          asker = user ∧ asked = thread ∧ first.messageId = r.messageId) :=
    ⟨r, hr, rfl, .inl, fun hsame => hsame.elim (fun h => h) hread⟩
  rcases hstore with ⟨hread, hstore⟩ | hstore
  · rw [hstore] at hr
    exact hkept hr fun hsame => (hunique hr hsame).1 ▸ hread
  rw [hstore, Store.partition_markRead] at hr
  split at hr
  next hkey =>
    obtain ⟨rfl, rfl, rfl⟩ := hkey
    obtain ⟨old, hold, rfl⟩ := List.mem_map.1 hr
    refine ⟨old, hold, ?_⟩
    split
    next hid => exact ⟨rfl, iff_of_true rfl (.inr ⟨rfl, rfl, hid.symm⟩)⟩
    next hid => exact ⟨rfl, by simp [Ne.symm hid]⟩
  next hkey =>
    exact hkept hr fun hsame => absurd ⟨hsame.1, hsame.2.1, (hunique hr hsame).2⟩ hkey

end History

/-- Whoever has a record has it from a message that was minted. -/
theorem Stored.past_of_mem_partition (h : Stored index log s)
    (hr : r ∈ (s.store.partition user thread bucket).records) : s.generator.Past r.messageId :=
  h.past user thread r.unread (h.unread_mem_copies hr)

/-- A request to send leaves what was stored as it was. What is new is read by its author, and by
a recipient to whom it goes directly. -/
theorem Stored.read_send (h : Stored index log s) {clock : Clock} {author : UserId}
    {id : RequestId} {thread' : ThreadId} {name : Option String} {members : List UserId}
    {body : String} {answer : Reply}
    (hanswer : s.handle clock author (.send id thread' name members body) = some answer)
    (hfit : ¬s.Overflows (.frame clock author (.send id thread' name members body)))
    (hr : r ∈ (answer.server.store.partition user thread bucket).records) :
    r ∈ (s.store.partition user thread bucket).records ∧
        ¬s.SendsDirectly user r.messageId
          ⟨.frame clock author (.send id thread' name members body), some answer.frame⟩ ∨
      (∀ id, s.generator.Past id → id < r.messageId) ∧
        (r.read = true ↔ r.author = user ∨ s.SendsDirectly user r.messageId
          ⟨.frame clock author (.send id thread' name members body), some answer.frame⟩) := by
  obtain ⟨minting, hcall, hcases⟩ := send_cases hanswer
  have hno : minting.overflows = false := Bool.eq_false_iff.2 fun hover =>
    hfit ⟨minting, hcall, hover⟩
  rcases hcases with ⟨e, -, hframe, hserver⟩ | ⟨messageId, hid, hframe, -⟩
  · rw [hserver] at hr
    refine .inl ⟨hr, fun hsends => ?_⟩
    rw [hframe] at hsends
    exact hsends
  have hpast (old : MessageId) (hold : s.generator.Past old) : old < messageId :=
    (hcall.lt_of_past hno hold).2 messageId hid
  rw [send_partition hanswer hframe] at hr
  rw [hframe]
  have hold (hr : r ∈ (s.store.partition user thread bucket).records) :
      r ∈ (s.store.partition user thread bucket).records ∧ ¬s.SendsDirectly user r.messageId
        ⟨.frame clock author (.send id thread' name members body),
          some (.ack id (some messageId))⟩ := by
    refine ⟨hr, fun hsends => ?_⟩
    have hlt := hpast r.messageId (h.past_of_mem_partition hr)
    rw [hsends.1] at hlt
    exact UInt64.lt_irrefl _ hlt
  split at hr
  next hkey =>
    rcases Partition.mem_insert hr with rfl | hr
    · refine .inr ⟨hpast, fun hread => ?_, fun hread => ?_⟩
      · rcases of_decide_eq_true hread with hauthor | hdirect
        · exact .inl hauthor
        · exact (author_or_mem_recipients.2 hkey.1).imp_right fun hmem => ⟨rfl, hmem, hdirect⟩
      · exact decide_eq_true (hread.imp_right fun hsends => hsends.2.2)
    · exact .inl (hold hr)
  next => exact .inl (hold hr)

/-- **What one event does to a record.** It was there before and nothing has changed but that it may
have become read, or it is new. -/
theorem Stored.read_step (h : Stored index log s) (hstep : s.step event = some (reply, s'))
    (hfit : ¬s.Overflows event) (hr : r ∈ (s'.store.partition user thread bucket).records) :
    (∃ old ∈ (s.store.partition user thread bucket).records, r.unread = old.unread ∧
      (r.read = true ↔ old.read = true ∨ s.SendsDirectly user r.messageId ⟨event, reply⟩ ∨
        Entry.Shows user thread r.messageId ⟨event, reply⟩)) ∨
    (∀ id, s.generator.Past id → id < r.messageId) ∧
      (r.read = true ↔ r.author = user ∨ s.SendsDirectly user r.messageId ⟨event, reply⟩ ∨
        Entry.Shows user thread r.messageId ⟨event, reply⟩) := by
  have hquiet (hstore : s'.store = s.store)
      (hsends : ¬s.SendsDirectly user r.messageId ⟨event, reply⟩)
      (hshows : ¬Entry.Shows user thread r.messageId ⟨event, reply⟩) :
      ∃ old ∈ (s.store.partition user thread bucket).records, r.unread = old.unread ∧
        (r.read = true ↔ old.read = true ∨ s.SendsDirectly user r.messageId ⟨event, reply⟩ ∨
          Entry.Shows user thread r.messageId ⟨event, reply⟩) := by
    rw [hstore] at hr
    exact ⟨r, hr, rfl, by simp [hsends, hshows]⟩
  cases event with
  | opening now user address session =>
    exact .inl (hquiet (step_store hstep nofun nofun) id id)
  | closing user session => exact .inl (hquiet (step_store hstep nofun nofun) id id)
  | frame clock asker frame =>
    cases frame with
    | send id thread' name members body =>
      obtain ⟨answer, hanswer, rfl, rfl⟩ := answer_of_step hstep nofun
      rcases h.read_send hanswer hfit hr with ⟨hold, hsends⟩ | ⟨hnew, hread⟩
      · exact .inl ⟨r, hold, rfl, by simp [hsends, Entry.Shows]⟩
      · exact .inr ⟨hnew, by simp [hread, Entry.Shows]⟩
    | history id asked query =>
      rcases step_frame_eq_some_iff.1 hstep with ⟨-, rfl, rfl⟩ | ⟨answer, hanswer, rfl, rfl⟩
      · exact .inl (hquiet rfl (fun h => h) (fun h => h))
      · obtain ⟨old, hold, hunread, hread⟩ := h.read_history hanswer hr
        exact .inl ⟨old, hold, hunread, by simp [hread, SendsDirectly]⟩
    | _ => exact .inl (hquiet (step_store hstep nofun nofun) (fun h => h) (fun h => h))

/-! ## Runs -/

theorem WentDirectly.append (h : WentDirectly s₀ log user messageId) (rest : List Entry) :
    WentDirectly s₀ (log ++ rest) user messageId := by
  obtain ⟨before, entry, after, s, rfl, hbefore, hsends⟩ := h
  exact ⟨before, entry, after ++ rest, s, by simp, hbefore, hsends⟩

theorem ShownFirst.append (h : ShownFirst log user thread messageId) (rest : List Entry) :
    ShownFirst (log ++ rest) user thread messageId := by
  obtain ⟨entry, hentry, hshows⟩ := h
  exact ⟨entry, List.mem_append_left rest hentry, hshows⟩

/-- What goes to a user directly is a message that they are listed for. -/
theorem Stored.past_of_wentDirectly (h : Stored index log s)
    (hdirect : WentDirectly s₀ log user messageId) : s.generator.Past messageId := by
  obtain ⟨before, entry, after, middle, rfl, -, hsends⟩ := hdirect
  unfold SendsDirectly at hsends
  split at hsends
  next clock author id thread name members body id' messageId' =>
    obtain ⟨rfl, hmem, -⟩ := hsends
    refine h.past user thread
      { messageId := messageId', threadId := thread, bucket := index.ofId messageId', author, body }
      (List.mem_filterMap.2 ⟨_, List.mem_append_right before List.mem_cons_self, ?_⟩)
    exact if_pos ⟨rfl, .inr (mem_recipients.1 hmem).1⟩
  next => exact hsends.elim

/-- What an event shows first is in the store. -/
theorem mem_partition_of_shows (hstep : s.step event = some (reply, s'))
    (hshows : Entry.Shows user thread messageId ⟨event, reply⟩) :
    ∃ bucket, ∃ r ∈ (s.store.partition user thread bucket).records, r.messageId = messageId := by
  match event with
  | .frame clock asker (.history id asked query) =>
    rcases step_frame_eq_some_iff.1 hstep with ⟨-, rfl, -⟩ | ⟨answer, hanswer, rfl, -⟩
    · exact hshows.elim
    rcases history_cases hanswer with ⟨-, hnone⟩ | ⟨first, hfirst, hiff, -⟩
    · exact absurd hshows (hnone user thread messageId)
    · obtain ⟨rfl, rfl, rfl⟩ := (hiff user thread messageId).1 hshows
      exact ⟨first.bucket, first, hfirst, rfl⟩

variable {config : Config} {host : Host} {now : Millis}

/-- What was ever shown first is a message that was minted. -/
theorem past_of_shownFirst (hstart : start config host now = .ok s₀)
    (hrun : s₀.run events = some (log, s)) (hfit : ∀ entry ∈ log, ¬entry.Overflows)
    (hshown : ShownFirst log user thread messageId) : s.generator.Past messageId := by
  obtain ⟨entry, hentry, hshows⟩ := hshown
  obtain ⟨before, after, rfl⟩ := List.append_of_mem hentry
  obtain ⟨middle, next, hbefore, hstep, -⟩ := run_before hrun
  have hstored : Stored s₀.index (before ++ entry :: after) s := (stored_start hstart).run hrun hfit
  have hmiddle : Stored s₀.index before middle :=
    (stored_start hstart).run hbefore fun entry hentry => hfit entry (List.mem_append_left _ hentry)
  obtain ⟨bucket, r, hr, rfl⟩ := mem_partition_of_shows hstep hshows
  refine hstored.past user thread r.unread ?_
  rw [copies, List.filterMap_append]
  exact List.mem_append_left _ (hmiddle.unread_mem_copies hr)

/-- **A record is read exactly if** its user wrote the message, it went to them directly, or it was
shown to them first. -/
theorem read_iff (hstart : start config host now = .ok s₀)
    (hrun : s₀.run events = some (log, s)) (hfit : ∀ entry ∈ log, ¬entry.Overflows)
    (hr : r ∈ (s.store.partition user thread bucket).records) :
    r.read = true ↔ r.author = user ∨ WentDirectly s₀ log user r.messageId ∨
      ShownFirst log user thread r.messageId := by
  induction log using List.reverseRecOn generalizing events s r with
  | nil =>
    obtain rfl := map_event_of_run hrun
    obtain ⟨-, rfl⟩ := Prod.mk.inj (Option.some.inj hrun)
    exact absurd ((stored_start hstart).unread_mem_copies hr) List.not_mem_nil
  | append_singleton log entry ih =>
    obtain ⟨middle, next, hbefore, hstep, hafter⟩ := run_before hrun
    obtain ⟨-, rfl⟩ := Prod.mk.inj (Option.some.inj hafter)
    have hfitBefore : ∀ entry ∈ log, ¬entry.Overflows := fun entry hentry =>
      hfit entry (List.mem_append_left _ hentry)
    have hmiddle : Stored s₀.index log middle := (stored_start hstart).run hbefore hfitBefore
    have hlast : ¬middle.Overflows entry.event :=
      mt (overflows_entry hstep) (hfit entry (by simp))
    rw [wentDirectly_concat hbefore, shownFirst_concat]
    rcases hmiddle.read_step hstep hlast hr with ⟨old, hold, hunread, hread⟩ | ⟨hnew, hread⟩
    · -- what is said of the record before holds of the same message
      obtain ⟨hid, hauthor⟩ := Record.same_of_unread_eq hunread
      rw [hread, ih hbefore hfitBefore hold, hauthor, hid, or_assoc, or_or_or_comm]
    · -- nothing was ever said of a new message
      have hdirect : ¬WentDirectly s₀ log user r.messageId := fun hdirect =>
        UInt64.lt_irrefl _ (hnew _ (hmiddle.past_of_wentDirectly hdirect))
      have hshown : ¬ShownFirst log user thread r.messageId := fun hshown =>
        UInt64.lt_irrefl _ (hnew _ (past_of_shownFirst hstart hbefore hfitBefore hshown))
      rw [hread, or_iff_right hdirect, or_iff_right hshown]

/-- **What is stored is kept, and what has been read stays so.** After every run, a record is read
exactly if its user wrote the message, it went to them directly when it was sent, or a history of
the thread that they asked for without a cursor began with it. Whatever happens later to whomever,
the record is still there, with nothing changed but that it may have become read. -/
theorem read_run (hstart : start config host now = .ok s₀)
    (hrun : s₀.run events = some (log, s)) (hlater : s.run later = some (rest, s'))
    (hfit : ∀ entry ∈ log ++ rest, ¬entry.Overflows)
    (hr : r ∈ (s.store.partition user thread bucket).records) :
    (r.read = true ↔ r.author = user ∨ WentDirectly s₀ log user r.messageId ∨
      ShownFirst log user thread r.messageId) ∧
    ∃ r' ∈ (s'.store.partition user thread bucket).records, r'.unread = r.unread ∧
      (r.read = true → r'.read = true) := by
  have hfitLog : ∀ entry ∈ log, ¬entry.Overflows := fun entry hentry =>
    hfit entry (List.mem_append_left _ hentry)
  have hiff := read_iff hstart hrun hfitLog hr
  have hstored : Stored s₀.index log s := (stored_start hstart).run hrun hfitLog
  have hrunAll := run_append hrun hlater
  have hstoredAll : Stored s₀.index (log ++ rest) s' := (stored_start hstart).run hrunAll hfit
  have hmem : r.unread ∈ s'.store.messages user thread bucket := by
    have hmem : r.unread ∈ s.store.messages user thread bucket := List.mem_map_of_mem hr
    rw [hstored.messages, List.mem_reverse] at hmem
    rw [hstoredAll.messages, List.mem_reverse, copies, List.filterMap_append, List.filter_append]
    exact List.mem_append_left _ hmem
  obtain ⟨r', hr', hunread⟩ := List.mem_map.1 hmem
  refine ⟨hiff, r', hr', hunread, fun hread => ?_⟩
  obtain ⟨hid, hauthor⟩ := Record.same_of_unread_eq hunread
  rw [read_iff hstart hrunAll hfit hr', hauthor, hid]
  rcases hiff.1 hread with hwrote | hdirect | hshown
  · exact .inl hwrote
  · exact .inr (.inl (hdirect.append rest))
  · exact .inr (.inr (hshown.append rest))

/-- What the general statement says of the answer in the exchange, which its recipient has looked
at, and of one more message after it. -/
theorem read_run_exchange :
    ∃ s rest s', secondsServer.run (exchange.map (·.event)) = some (exchange, s) ∧
      s.run [.frame ⟨2500, []⟩ "ann" (.send 4 ⟨0⟩ none ["bob"] "again")] = some (rest, s') ∧
      hi.withRead true ∈ (s.store.partition "bob" ⟨0⟩ 2).records ∧
      (WentDirectly secondsServer exchange "bob" hi.messageId ∨
        ShownFirst exchange "bob" ⟨0⟩ hi.messageId) ∧
      ∃ r ∈ (s'.store.partition "bob" ⟨0⟩ 2).records, r.unread = hi ∧ r.read = true := by
  have hstart : start seconds {} 1000 = .ok secondsServer := rfl
  have hlog : (secondsServer.run (exchange.map (·.event))).map (·.1) = some exchange := by decide
  have hlooked : (secondsServer.run (exchange.map (·.event))).map (fun after =>
      decide (hi.withRead true ∈ (after.2.store.partition "bob" ⟨0⟩ 2).records)) = some true := by
    decide
  have hagain : (secondsServer.run (exchange.map (·.event))).bind (fun after =>
      (after.2.run [.frame ⟨2500, []⟩ "ann" (.send 4 ⟨0⟩ none ["bob"] "again")]).map (·.1)) =
      some [⟨.frame ⟨2500, []⟩ "ann" (.send 4 ⟨0⟩ none ["bob"] "again"),
        some (.ack 4 (some (.pack 2500 1 2)))⟩] := by
    decide
  obtain ⟨⟨log, s⟩, hrun, rfl⟩ := Option.map_eq_some_iff.1 hlog
  simp only [hrun, Option.map_some, Option.bind_some, Option.some.injEq] at hlooked hagain
  obtain ⟨⟨rest, s'⟩, hlater, rfl⟩ := Option.map_eq_some_iff.1 hagain
  have hfit : ∀ entry ∈ exchange ++ [⟨.frame ⟨2500, []⟩ "ann" (.send 4 ⟨0⟩ none ["bob"] "again"),
      some (.ack 4 (some (.pack 2500 1 2)))⟩], ¬entry.Overflows := by
    simp [exchange, Entry.Overflows]
  have hr := of_decide_eq_true hlooked
  obtain ⟨hiff, r, hr', hunread, hkept⟩ := read_run hstart hrun hlater hfit hr
  exact ⟨s, _, s', hrun, hlater, hr, (hiff.1 rfl).resolve_left (by decide), r, hr', hunread,
    hkept rfl⟩

end Server

end ChatRelay

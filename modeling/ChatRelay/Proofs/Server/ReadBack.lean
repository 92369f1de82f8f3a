import ChatRelay.Proofs.Creation
import ChatRelay.Proofs.History.Newest
import ChatRelay.Proofs.Present
import ChatRelay.Proofs.Server.Stored

/-!
# Reading back what was sent

On a clock that never steps back, a message that was acknowledged heads the next history of its
thread, for its author and for every member that was listed, however late it is asked for
(`sent_message_heads_history`). Its bucket, the present one and that of the thread's creation agree
because all three count from one epoch; that no older message is in front follows from what is
stored (`Stored.newest`).
-/

namespace ChatRelay

/-- The readings of the clock that an event is given. -/
def Event.readings : Event → List Millis
  | .opening now _ _ _ => [now]
  | .closing _ _ => []
  | .frame clock _ _ => clock.readings

namespace Server

/-- The readings of the clock that some events are given. -/
def readings (events : List Event) : List Millis := events.flatMap Event.readings

variable {s s' s₀ : Server} {log rest : List Entry} {events : List Event} {event : Event}
  {times : List Millis} {reply : Option ServerFrame} {index : BucketIndex} {user : UserId}
  {thread : ThreadId}

/-! ## The newest message -/

/-- A copy is filed under its identifier. -/
theorem bucket_of_mem_copies {r : Record} (hr : r ∈ copies index user thread log) :
    r.bucket = index.ofId r.messageId := by
  obtain ⟨entry, -, hcopy⟩ := List.mem_filterMap.1 hr
  unfold Entry.copy? at hcopy
  split at hcopy
  · rw [Option.ite_none_right_eq_some] at hcopy
    exact Option.some.inj hcopy.2 ▸ rfl
  · exact nomatch hcopy

namespace Stored

variable {bucket : Bucket} {r : Record}

/-- What a user has is a copy of an acknowledged message. -/
theorem unread_mem_copies (h : Stored index log s)
    (hr : r ∈ (s.store.partition user thread bucket).records) :
    r.unread ∈ copies index user thread log := by
  have hstored : r.unread ∈ s.store.messages user thread bucket := List.mem_map_of_mem hr
  rw [h.messages, List.mem_reverse] at hstored
  exact (List.mem_filter.1 hstored).1

/-- What a user has is filed under its identifier. -/
theorem bucket_of_mem_partition (h : Stored index log s)
    (hr : r ∈ (s.store.partition user thread bucket).records) :
    r.bucket = index.ofId r.messageId :=
  bucket_of_mem_copies (r := r.unread) (h.unread_mem_copies hr)

/-- The record of the last message that a user has a copy of is the newest that they have. -/
theorem newest (h : Stored index log s) {before : List Record} {last : Record}
    (hcopies : copies index user thread log = before ++ [last]) :
    ∃ r ∈ (s.store.partition user thread last.bucket).records, r.unread = last ∧
      ∀ bucket, ∀ x ∈ (s.store.partition user thread bucket).records, ¬x.NewerThan r := by
  have hstored : last ∈ s.store.messages user thread last.bucket := by
    rw [h.messages, hcopies]
    simp
  obtain ⟨r, hr, hlast⟩ := List.mem_map.1 hstored
  refine ⟨r, hr, hlast, fun bucket x hx hnewer => ?_⟩
  have hxcopy := h.unread_mem_copies hx
  have hle : x.messageId ≤ r.messageId := by
    have hincreasing := h.increasing user thread
    rw [hcopies, List.pairwise_append] at hincreasing
    rw [hcopies, List.mem_append, List.mem_singleton] at hxcopy
    rcases hxcopy with hxcopy | hxcopy
    · have hlt := hincreasing.2.2 x.unread hxcopy last (List.mem_singleton_self last)
      rw [← hlast] at hlt
      exact UInt64.le_of_lt hlt
    · show x.unread.messageId ≤ r.unread.messageId
      rw [hxcopy, hlast]
      exact UInt64.le_refl _
  have hlt := hnewer.messageId_lt (h.bucket_of_mem_partition hx) (h.bucket_of_mem_partition hr)
  exact absurd hlt (UInt64.not_lt.2 hle)

/-- While no frame comes, nothing is sent. -/
theorem run_frameless (h : Stored index log s) (hrun : s.run events = some (rest, s'))
    (hframeless : ∀ clock user frame, .frame clock user frame ∉ events) :
    Stored index (log ++ rest) s' ∧
      ∀ user thread, copies index user thread (log ++ rest) = copies index user thread log := by
  rw [← map_event_of_run hrun] at hframeless
  refine run_induct (P := fun rest s' =>
    (∀ clock user frame, .frame clock user frame ∉ rest.map (·.event)) →
      Stored index (log ++ rest) s' ∧
        ∀ user thread, copies index user thread (log ++ rest) = copies index user thread log)
    hrun ?_ ?_ hframeless
  · intro _
    rw [List.append_nil]
    exact ⟨h, fun _ _ => rfl⟩
  · intro rest s event reply s' ih hstep hframeless
    simp only [List.map_append, List.map_singleton, List.mem_append, List.mem_singleton, not_or]
      at hframeless
    obtain ⟨hstored, hcopies⟩ := ih fun clock user frame => (hframeless clock user frame).1
    rcases step_cases hstep with
      ⟨halike, hcopy⟩ | ⟨clock, author, id, thread, name, members, body, _, rfl, -⟩
    · rw [← List.append_assoc]
      refine ⟨hstored.alike halike (hcopy index), fun user thread => ?_⟩
      rw [copies_concat, hcopies, hcopy, Option.toList_none, List.append_nil]
    · exact absurd rfl (hframeless _ _ _).2

/-- The message that was acknowledged last is the newest one that its author and the members who
were listed have, while no frame comes. -/
theorem newest_sent {clock : Clock} {author : UserId} {id : RequestId}
    {name : Option String} {members : List UserId} {body : String} {messageId : MessageId}
    (h : Stored index (log ++ [⟨.frame clock author (.send id thread name members body),
      some (.ack id (some messageId))⟩]) s)
    (hrun : s.run events = some (rest, s'))
    (hframeless : ∀ clock user frame, .frame clock user frame ∉ events)
    (huser : user = author ∨ user ∈ members) :
    ∃ r ∈ (s'.store.partition user thread (index.ofId messageId)).records,
      r.withRead true =
        { messageId, threadId := thread, bucket := index.ofId messageId, author, body,
          read := true } ∧
      ∀ bucket, ∀ x ∈ (s'.store.partition user thread bucket).records, ¬x.NewerThan r := by
  obtain ⟨hstored, hcopies⟩ := h.run_frameless hrun hframeless
  have hlast := hcopies user thread
  rw [copies_concat] at hlast
  have hcopy : Entry.copy? index user thread
      ⟨.frame clock author (.send id thread name members body), some (.ack id (some messageId))⟩ =
        some { messageId, threadId := thread, bucket := index.ofId messageId, author, body } :=
    if_pos ⟨rfl, huser.imp_left Eq.symm⟩
  rw [hcopy] at hlast
  obtain ⟨r, hr, hunread, hnewest⟩ := hstored.newest hlast
  refine ⟨r, hr, ?_, hnewest⟩
  show r.unread.withRead true = _
  rw [hunread]
  rfl

end Stored

/-! ## Runs and the clock -/

/-- A server that started as another one, after some readings of the clock. Its messages are in step
with the log unless the readings were too late for timestamps. -/
structure OnTime (s₀ : Server) (times : List Millis) (log : List Entry) (s : Server) : Prop where
  epoch : s.generator.epoch = s₀.generator.epoch
  history : s.history = s₀.history
  paced : s.generator.Paced times
  stored : Stored s₀.index log s ∨ ∀ instant, (∀ reading ∈ times, reading ≤ instant) →
    MessageId.maxTimestamp < s₀.generator.elapsed instant

namespace OnTime

theorem elapsed (h : OnTime s₀ times log s) : s.generator.elapsed = s₀.generator.elapsed := by
  funext instant
  rw [Generator.elapsed, Generator.elapsed, h.epoch]

/-- Every event keeps the server on time. -/
theorem step (h : OnTime s₀ times log s) (hstep : s.step event = some (reply, s')) :
    OnTime s₀ (times ++ event.readings) (log ++ [⟨event, reply⟩]) s' := by
  have hearlier {instant : Millis}
      (hinstant : ∀ reading ∈ times ++ event.readings, reading ≤ instant) :
      ∀ reading ∈ times, reading ≤ instant := fun reading hreading =>
    hinstant reading (List.mem_append_left _ hreading)
  rcases step_cases hstep with
    ⟨halike, hcopy⟩ |
      ⟨clock, author, id, thread, name, members, body, answer, rfl, hanswer, rfl, rfl⟩
  · constructor
    · exact halike.generator ▸ h.epoch
    · exact halike.history.trans h.history
    · rw [halike.generator]
      exact h.paced.mono (List.subset_append_left _ _)
    · rcases h.stored with hstored | hlate
      · exact .inl (hstored.alike halike (hcopy s₀.index))
      · exact .inr fun instant hinstant => hlate instant (hearlier hinstant)
  · obtain ⟨minting, hcall, hgenerator, -, hhistory⟩ := send_kept hanswer
    constructor
    · rw [hgenerator, hcall.settings.1, h.epoch]
    · exact hhistory.trans h.history
    · rw [hgenerator]
      exact hcall.paced h.paced
    · rcases h.stored with hstored | hlate
      · by_cases hover : s.Overflows (.frame clock author (.send id thread name members body))
        · obtain ⟨minting, hcall, hover⟩ := hover
          refine .inr fun instant hinstant => ?_
          have hlast := h.paced instant (hearlier hinstant)
          have hreading := s.generator.elapsed_mono
            (hinstant minting.reading (List.mem_append_right _ hcall.reading_mem))
          have hlate := hcall.lt_of_overflows hover
          rw [h.elapsed] at hlast hreading hlate
          omega
        · exact .inl (hstored.send hanswer hover)
      · exact .inr fun instant hinstant => hlate instant (hearlier hinstant)

/-- A run keeps the server on time. -/
theorem run (h : OnTime s₀ times log s) (hrun : s.run events = some (rest, s')) :
    OnTime s₀ (times ++ readings events) (log ++ rest) s' := by
  have hontime : OnTime s₀ (times ++ readings (rest.map (·.event))) (log ++ rest) s' := by
    refine run_induct (P := fun rest s' =>
      OnTime s₀ (times ++ readings (rest.map (·.event))) (log ++ rest) s') hrun ?_ ?_
    · simpa [readings] using h
    · intro rest s event reply s' ih hstep
      simpa [readings] using ih.step hstep
  rwa [map_event_of_run hrun] at hontime

/-- **An acknowledged message has the time of a reading**, and everything before it is stored: had a
timestamp been too large before, it would be so now. -/
theorem send (h : OnTime s₀ times log s) {clock : Clock} {author : UserId} {id : RequestId}
    {name : Option String} {members : List UserId} {body : String} {messageId : MessageId}
    {answer : Reply}
    (hanswer : s.handle clock author (.send id thread name members body) = some answer)
    (hack : answer.frame = .ack id (some messageId))
    (hsteady : (times ++ clock.readings).Pairwise (· ≤ ·)) :
    (∃ reading ∈ clock.readings, messageId.timestamp = s₀.generator.elapsed reading) ∧
      Stored s₀.index
        (log ++ [⟨.frame clock author (.send id thread name members body), some answer.frame⟩])
        answer.server := by
  obtain ⟨minting, hcall, hid, -⟩ := send_of_ack hanswer hack
  obtain ⟨htimestamp, -, -, hmax, -⟩ := hcall.timestamp_of_ok hid
  have hbefore : ∀ reading ∈ times, reading ≤ minting.reading := fun reading hreading =>
    (List.pairwise_append.1 hsteady).2.2 reading hreading minting.reading hcall.reading_mem
  have hlast := h.paced minting.reading hbefore
  rw [Nat.max_eq_left hlast, h.elapsed] at htimestamp
  have hstored : Stored s₀.index log s := by
    refine h.stored.resolve_right fun hlate => ?_
    have := hlate minting.reading hbefore
    omega
  refine ⟨⟨minting.reading, hcall.reading_mem, htimestamp⟩, hstored.send hanswer ?_⟩
  rintro ⟨minting', hcall', hover⟩
  obtain rfl := hcall.unique hcall'
  rw [Minting.overflows, hid] at hover
  exact Bool.false_ne_true hover

end OnTime

variable {config : Config} {host : Host} {now : Millis}

/-- A server starts on time, with one epoch for its generator and its buckets. -/
theorem onTime_start (h : start config host now = .ok s₀) :
    OnTime s₀ [now] [] s₀ ∧ s₀.generator.epoch ≤ now ∧ s₀.generator.epoch.toNat < 2 ^ 63 ∧
      s₀.history.index = s₀.index ∧ s₀.index.epoch = s₀.generator.epoch.toInt64 := by
  have hstored := stored_start h
  obtain ⟨generator, index, history, hgenerator, hindex, hhistory, rfl⟩ := start_eq_ok h
  obtain ⟨hpaced, hepoch, hsmall⟩ := Generator.paced_setUp hgenerator
  refine ⟨⟨rfl, rfl, hpaced, .inl hstored⟩, hepoch, hsmall, ?_,
    (BucketIndex.settings_forGenerator hindex).2⟩
  rw [History.make] at hhistory
  split at hhistory
  · obtain rfl := Except.ok.inj hhistory
    rfl
  · exact nomatch hhistory

/-! ## The next history -/

/-- A history of the newest messages is answered with a page that begins with the newest record, as
read. -/
theorem handle_history_newest {clock : Clock} {created : Millis} {r : Record}
    (hcreated : ThreadLookup.embedded thread = .ok created)
    (hcurrent : s.history.index.atInstant clock.now ≠ Int64.minValue)
    (hr : r ∈ (s.store.partition user thread r.bucket).records)
    (hreach : r.bucket ∈ s.history.reach created (s.history.index.atInstant clock.now))
    (hnewest : ∀ bucket, ∀ x ∈ (s.store.partition user thread bucket).records, ¬x.NewerThan r)
    (id : RequestId) :
    ∃ answer older cursor bucket, s.handle clock user (.history id thread {}) = some answer ∧
      answer.frame = .history id (r.withRead true :: older) cursor bucket := by
  obtain ⟨page, older, hpage, hrecords⟩ :=
    s.history.fetch_newest hcreated hcurrent hr hreach hnewest
  have hanswer := sendHistory_of_page hpage id
  rw [HistoryPage.markFirst_records hrecords] at hanswer
  rw [handle, hanswer]
  exact ⟨_, older, _, _, rfl, rfl⟩

/-- **A user reads back what was sent.** On a clock that never steps back, a message that was
acknowledged heads the next history of its thread, as read and with the body that was sent, if its
author or a member who was listed asks for the newest messages. Sessions may come and go and any
time may pass in between. An event need not be given more readings of the clock than it takes. -/
theorem sent_message_heads_history (hstart : start config host now = .ok s₀)
    (hbefore : s₀.run events = some (log, s)) {clock : Clock} {author : UserId} {id : RequestId}
    {name : Option String} {members : List UserId} {body : String} {messageId : MessageId}
    {sent : Reply}
    (hsend : s.handle clock author (.send id thread name members body) = some sent)
    (hack : sent.frame = .ack id (some messageId)) {between : List Event}
    (hbetween : sent.server.run between = some (rest, s'))
    (hframeless : ∀ clock user frame, .frame clock user frame ∉ between) {present : Clock}
    (hsteady : (now :: readings events ++ clock.readings ++ readings between ++
      [present.now]).Pairwise (· ≤ ·))
    (hbound : present.now.toNat < 2 ^ 63) {created : Nat}
    (hcreated : thread.unixMillis? = some created)
    (hpast : created ≤ s.generator.unixMillis messageId)
    (huser : user = author ∨ user ∈ members) (question : RequestId) :
    ∃ answer older cursor bucket,
      s'.handle present user (.history question thread {}) = some answer ∧
      answer.frame = .history question
        ({ messageId, threadId := thread, bucket := s₀.index.ofId messageId, author, body,
           read := true } :: older) cursor bucket := by
  obtain ⟨hontime₀, hepoch, hsmall, hindex, hindexEpoch⟩ := onTime_start hstart
  have hontime : OnTime s₀ (now :: readings events) log s := hontime₀.run hbefore
  obtain ⟨hearlier, -, hpresent⟩ := List.pairwise_append.1 hsteady
  obtain ⟨hearlier, -, -⟩ := List.pairwise_append.1 hearlier
  obtain ⟨⟨reading, hreading, htimestamp⟩, hstored⟩ := hontime.send hsend hack hearlier
  rw [hack] at hstored
  obtain ⟨r, hr, hread, hnewest⟩ := hstored.newest_sent hbetween hframeless huser
  have hhistory : s'.history = s₀.history := by
    exact ((hontime.step (step_of_handle hsend)).run hbetween).history
  -- the message has the time of a reading between the start and the present
  have hmillis : s₀.generator.unixMillis messageId = reading.toNat := by
    have hnow := (List.pairwise_append.1 hearlier).2.2 now List.mem_cons_self reading hreading
    rw [UInt64.le_iff_toNat_le] at hepoch hnow
    rw [Generator.unixMillis, htimestamp, Generator.elapsed]
    omega
  have hlater : s₀.generator.unixMillis messageId ≤ present.now.toNat := by
    have hle := hpresent reading (by simp [hreading]) present.now (List.mem_singleton_self _)
    rwa [UInt64.le_iff_toNat_le, ← hmillis] at hle
  have hcreated' : ThreadLookup.embedded thread = .ok created.toUInt64 := by
    rw [ThreadLookup.embedded_eq, hcreated]
  have hbeforeMessage : created.toUInt64.toNat ≤ s₀.generator.unixMillis messageId := by
    rw [Generator.unixMillis, hontime.epoch] at hpast
    rw [Nat.toUInt64_eq, UInt64.toNat_ofNat', Generator.unixMillis]
    exact Nat.le_trans (Nat.mod_le _ _) hpast
  rw [← hindex, ← hhistory] at hindexEpoch
  obtain ⟨hcurrent, hreach⟩ :=
    History.ofId_mem_reach hindexEpoch hsmall hbeforeMessage hlater hbound
  have hfiled : r.bucket = s₀.index.ofId messageId :=
    s'.store.bucket_of_mem_partition user thread hr
  rw [← hfiled] at hr
  have hreach' : r.bucket ∈
      s'.history.reach created.toUInt64 (s'.history.index.atInstant present.now) := by
    have hsame : s'.history.index.ofId messageId = s₀.index.ofId messageId := by
      rw [hhistory, hindex]
    rwa [hfiled, ← hsame]
  obtain ⟨answer, older, cursor, bucket, hanswer, hframe⟩ :=
    handle_history_newest hcreated' hcurrent hr hreach' hnewest question
  rw [hread] at hframe
  exact ⟨answer, older, cursor, bucket, hanswer, hframe⟩

/-- A thread that was created at the instant 700. -/
def earlyThread : ThreadId := ⟨0x0000000002bc70008000000000000000⟩

/-- A first message on it, to a member who has no session. -/
def firstMessage : List Event :=
  [.opening 1000 "ann" none "a1", .frame ⟨1200, []⟩ "ann" (.send 1 earlyThread none ["bob"] "ahoy")]

/-- What the general statement says of a second message, on pages of one record: the member connects
later and asks for it eight buckets later. -/
theorem sent_message_heads_history_later :
    ∃ log s sent rest s' answer older cursor bucket,
      secondsServer.run firstMessage = some (log, s) ∧
      s.handle ⟨1500, []⟩ "ann" (.send 2 earlyThread none ["bob"] "hello") = some sent ∧
      sent.frame = .ack 2 (some (.pack 1500 1 1)) ∧
      sent.server.run [.opening 3100 "bob" none "b1"] = some (rest, s') ∧
      s'.handle ⟨9999, []⟩ "bob" (.history 3 earlyThread {}) = some answer ∧
      answer.frame = .history 3
        ({ messageId := .pack 1500 1 1, threadId := earlyThread, bucket := 1, author := "ann",
           body := "hello", read := true } :: older) cursor bucket := by
  have hstart : start seconds {} 1000 = .ok secondsServer := rfl
  have hacked : (secondsServer.run firstMessage).bind (fun after =>
      (after.2.handle ⟨1500, []⟩ "ann" (.send 2 earlyThread none ["bob"] "hello")).map
        (·.frame)) = some (.ack 2 (some (.pack 1500 1 1))) := by decide
  obtain ⟨⟨log, s⟩, hbefore, hacked⟩ := Option.bind_eq_some_iff.1 hacked
  obtain ⟨sent, hsend, hack⟩ := Option.map_eq_some_iff.1 hacked
  have hbetween : sent.server.run [.opening 3100 "bob" none "b1"] = some
      ([⟨.opening 3100 "bob" none "b1", none⟩],
        sent.server.openSession 3100 "bob" none "b1") := rfl
  have hframeless : ∀ clock user frame,
      .frame clock user frame ∉ [Event.opening 3100 "bob" none "b1"] := by simp
  have hsteady : (1000 :: readings firstMessage ++ Clock.readings ⟨1500, []⟩ ++
      readings [.opening 3100 "bob" none "b1"] ++
      [Clock.now ⟨9999, []⟩]).Pairwise (· ≤ ·) := by decide
  have hbound : (Clock.now ⟨9999, []⟩).toNat < 2 ^ 63 := by decide
  have hcreated : earlyThread.unixMillis? = some 700 := rfl
  have hpast : 700 ≤ s.generator.unixMillis (.pack 1500 1 1) :=
    Nat.le_trans (by decide) (Nat.le_add_left _ _)
  have huser : "bob" = "ann" ∨ "bob" ∈ ["bob"] := by decide
  obtain ⟨answer, older, cursor, bucket, hanswer, hframe⟩ := sent_message_heads_history hstart
    hbefore hsend hack hbetween hframeless hsteady hbound hcreated hpast huser 3
  exact ⟨log, s, sent, _, _, answer, older, cursor, bucket, hbefore, hsend, hack, hbetween, hanswer,
    hframe⟩

end Server

end ChatRelay

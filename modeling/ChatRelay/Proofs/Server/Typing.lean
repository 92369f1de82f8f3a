import ChatRelay.Proofs.Server.Announced

/-!
# Who is told that somebody is typing

The registry says who is told, the outboxes say where the indicator goes. While the sessions are in
step these are the same sessions, so that an indicator comes to the live session of every other
member once, and as many sessions get one as were counted (`typing_run`). Nothing but the queues of
these sessions changes.
-/

namespace ChatRelay.Server

variable {s : Server} {events : List Event} {user member : UserId} {thread : ThreadId}
  {members : List UserId} {session : SessionId}

theorem mem_typingTargets :
    member ∈ s.typingTargets user members ↔
      (member ∈ members ∧ member ≠ user) ∧ s.registry.isConnected member := by
  rw [typingTargets, List.mem_filter, mem_recipients]

/-- Whoever is told has a session. -/
theorem isConnected_of_name? (h : s.registry.name? member = some session) :
    s.registry.isConnected member = true := by
  obtain ⟨t, ht, -⟩ := Option.map_eq_some_iff.1 h
  exact Option.isSome_iff_exists.2 ⟨t, ht⟩

/-- The names of the sessions that are told that a user is typing. -/
def toldSessions (s : Server) (user : UserId) (members : List UserId) : List SessionId :=
  (s.typingTargets user members).filterMap s.registry.name?

theorem mem_toldSessions : session ∈ s.toldSessions user members ↔
    ∃ member ∈ members, member ≠ user ∧ s.registry.name? member = some session := by
  rw [toldSessions, List.mem_filterMap]
  constructor
  · rintro ⟨member, hmember, hname⟩
    obtain ⟨⟨hlisted, hother⟩, -⟩ := mem_typingTargets.1 hmember
    exact ⟨member, hlisted, hother, hname⟩
  · rintro ⟨member, hlisted, hother, hname⟩
    exact ⟨member, mem_typingTargets.2 ⟨⟨hlisted, hother⟩, isConnected_of_name? hname⟩, hname⟩

/-- Every target has a session, so that as many sessions are told as there are targets. -/
theorem length_toldSessions (s : Server) (user : UserId) (thread : ThreadId)
    (members : List UserId) :
    (s.toldSessions user members).length = (s.sendTyping user thread members).1 := by
  rw [sendTyping_eq, toldSessions, List.length_filterMap_eq_countP]
  refine List.countP_eq_length.2 fun member hmember => ?_
  rw [Registry.name?, Option.isSome_map]
  exact (mem_typingTargets.1 hmember).2

namespace InStep

/-- No session is told twice, since a session is one user's only. -/
theorem nodup_toldSessions (h : InStep events s) (hfresh : (opened events).Nodup)
    (user : UserId) (members : List UserId) : (s.toldSessions user members).Nodup := by
  refine List.Nodup.filterMap (fun member member' session hname hname' => ?_)
    ((recipients_nodup user members).filter _)
  rw [Option.mem_def, h.names] at hname hname'
  exact h.user_unique hfresh hname' hname

/-- **While the sessions are in step, a live session gets one indicator** if its user is another
member of the thread, and none otherwise. -/
theorem queue?_sendTyping (h : InStep events s) (hfresh : (opened events).Nodup)
    (hname : s.registry.name? member = some session) (user : UserId) (thread : ThreadId)
    (members : List UserId) :
    ∃ q, s.queue? session = some q ∧
      (s.sendTyping user thread members).2.queue? session = some
        (if member ∈ members ∧ member ≠ user then
          { q with frames := q.frames ++ [.typing typingTopic user thread] }
        else q) := by
  have houtbox : s.outbox? member = some session := h.names member ▸ hname
  obtain ⟨q, hq, habandoned, hopen⟩ := h.queue_of_outbox? houtbox
  have htarget : member ∈ s.typingTargets user members ↔ member ∈ members ∧ member ≠ user :=
    mem_typingTargets.trans (and_iff_left (isConnected_of_name? hname))
  have hmail : s.mail ((s.typingTargets user members).map (·, .typing typingTopic user thread))
      session = if member ∈ members ∧ member ≠ user then [.typing typingTopic user thread]
        else [] := by
    have hnodup : (s.typingTargets user members).Nodup := (recipients_nodup user members).filter _
    rw [← List.filterMap_eq_map]
    exact (mail_filterMap (fun _ => some (.typing typingTopic user thread)) hnodup
      (h.outbox?_eq_some_iff hfresh houtbox)).trans (if_congr htarget rfl rfl)
  refine ⟨q, hq, ?_⟩
  rw [(s.sendTyping_posts user thread members).queues, hq, Option.map_some, hmail,
    q.pushAll_of_open _ hopen habandoned]
  split
  · rfl
  · rw [List.append_nil]

/-- A session that is not live gets nothing. -/
theorem queue?_sendTyping_of_not_live (h : InStep events s)
    (hnone : ∀ member, s.registry.name? member ≠ some session) (user : UserId) (thread : ThreadId)
    (members : List UserId) :
    (s.sendTyping user thread members).2.queue? session = s.queue? session := by
  refine (s.sendTyping_posts user thread members).queue?_of_mail_eq_nil
    (mail_eq_nil fun letter _ => ?_)
  rw [← h.names]
  exact hnone letter.1

/-- The sessions that are told are those whose queues change. -/
theorem mem_toldSessions_iff_queue?_ne (h : InStep events s) (hfresh : (opened events).Nodup)
    (user : UserId) (thread : ThreadId) (members : List UserId) (session : SessionId) :
    session ∈ s.toldSessions user members ↔
      (s.sendTyping user thread members).2.queue? session ≠ s.queue? session := by
  rw [mem_toldSessions]
  constructor
  · rintro ⟨member, hlisted, hother, hname⟩
    obtain ⟨q, hq, hq'⟩ := h.queue?_sendTyping hfresh hname user thread members
    rw [hq, hq', if_pos ⟨hlisted, hother⟩]
    intro hsame
    have hframes := congrArg Queue.frames (Option.some.inj hsame)
    simp at hframes
  · intro hchanged
    by_contra hnone
    refine hchanged ?_
    by_cases hlive : ∃ member, s.registry.name? member = some session
    · obtain ⟨member, hname⟩ := hlive
      obtain ⟨q, hq, hq'⟩ := h.queue?_sendTyping hfresh hname user thread members
      rw [hq, hq', if_neg fun hlisted => hnone ⟨member, hlisted.1, hlisted.2, hname⟩]
    · exact h.queue?_sendTyping_of_not_live (not_exists.1 hlive) user thread members

end InStep

variable {s₀ : Server} {log : List Entry} {config : Config} {host : Host} {now : Millis}

/-- **Everybody else who is listed and has a session is told once that somebody is typing.** After
every run, such a request is acknowledged. The queue of the live session of each other member gets
one indicator, of the typing user and the thread, however often the member is named; no other queue
changes, and nothing else does. As many sessions get an indicator as the count says. -/
theorem typing_run (hstart : start config host now = .ok s₀)
    (hrun : s₀.run events = some (log, s)) (hfresh : (opened events).Nodup) (clock : Clock)
    (id : RequestId) (user : UserId) (thread : ThreadId) (members : List UserId) :
    ∃ notified s', s.sendTyping user thread members = (notified, s') ∧
      s.handle clock user (.typing id thread members) =
        some { frame := .ack id none, server := s', clock } ∧
      (∀ member session, s.registry.name? member = some session →
        ∃ q, s.queue? session = some q ∧ s'.queue? session = some
          (if member ∈ members ∧ member ≠ user then
            { q with frames := q.frames ++ [.typing typingTopic user thread] }
          else q)) ∧
      (∀ session, (∀ member, s.registry.name? member ≠ some session) →
        s'.queue? session = s.queue? session) ∧
      (∃ told : List SessionId, told.Nodup ∧ told.length = notified ∧
        ∀ session, session ∈ told ↔ s'.queue? session ≠ s.queue? session) ∧
      s' = { s with queues := s'.queues } := by
  have hinStep : InStep events s := inStep_run hstart hrun hfresh
  exact ⟨_, _, rfl, rfl,
    fun member session hname => hinStep.queue?_sendTyping hfresh hname user thread members,
    fun session hnone => hinStep.queue?_sendTyping_of_not_live hnone user thread members,
    ⟨s.toldSessions user members, hinStep.nodup_toldSessions hfresh user members,
      s.length_toldSessions user thread members,
      hinStep.mem_toldSessions_iff_queue?_ne hfresh user thread members⟩,
    s.sendTyping_queues user thread members⟩

/-- What the general statement says of an indicator to members of whom one is named twice, one is
typing and one has no session. -/
theorem typing_run_mixed :
    ∃ log s s', secondsServer.run (audience.map (·.event)) = some (log, s) ∧
      s.sendTyping "ann" ⟨0⟩ ["bob", "ann", "carl", "bob", "dan"] = (2, s') ∧
      (∃ q, s.queue? "b2" = some q ∧ s'.queue? "b2" =
        some { q with frames := q.frames ++ [.typing typingTopic "ann" ⟨0⟩] }) ∧
      s'.queue? "a1" = s.queue? "a1" ∧
      (∃ told : List SessionId, told.Nodup ∧ told.length = 2 ∧
        ∀ session, session ∈ told ↔ s'.queue? session ≠ s.queue? session) ∧
      s' = { s with queues := s'.queues } := by
  have hstart : start seconds {} 1000 = .ok secondsServer := rfl
  have hsome : (secondsServer.run (audience.map (·.event))).isSome := by decide
  have hfresh : (opened (audience.map (·.event))).Nodup := by decide
  have hnames : (secondsServer.run (audience.map (·.event))).map (fun after =>
      (after.2.registry.name? "ann", after.2.registry.name? "bob")) =
      some (some "a1", some "b2") := by decide
  have hcount : (secondsServer.run (audience.map (·.event))).map (fun after =>
      (after.2.sendTyping "ann" ⟨0⟩ ["bob", "ann", "carl", "bob", "dan"]).1) = some 2 := by decide
  obtain ⟨⟨log, s⟩, hrun⟩ := Option.isSome_iff_exists.1 hsome
  simp only [hrun, Option.map_some, Option.some.injEq, Prod.mk.injEq] at hnames hcount
  obtain ⟨notified, s', htyping, -, hlive, -, htold, hrest⟩ := typing_run hstart hrun hfresh
    ⟨1500, []⟩ 3 "ann" ⟨0⟩ ["bob", "ann", "carl", "bob", "dan"]
  obtain rfl : notified = 2 := by rw [← hcount, htyping]
  refine ⟨log, s, s', hrun, htyping, hlive "bob" "b2" hnames.2, ?_, htold, hrest⟩
  obtain ⟨q, hq, hq'⟩ := hlive "ann" "a1" hnames.1
  exact hq'.trans hq.symm

end ChatRelay.Server

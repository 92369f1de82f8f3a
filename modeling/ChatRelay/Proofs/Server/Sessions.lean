import ChatRelay.Proofs.Server.Queues
import ChatRelay.Proofs.Server.Stored

/-!
# Whose session is live

A user's live session is the one that they opened last, until it is closed (`Live`). The registry
and the outboxes always name it, in whatever order sessions are opened and closed, its queue is
open, and that of every other session is closed for good (`sessions_run`). Names of sessions are
random; what is said here is for runs that open each name once.
-/

namespace ChatRelay

/-- The name of the session that an event opens. -/
def Event.opened? : Event → Option SessionId
  | .opening _ _ _ session => some session
  | _ => none

namespace Server

/-! ## Opening and closing -/

section Lifecycle

variable (s : Server) (now : Millis) (user : UserId) (address : Option String)
  (session : SessionId)

theorem outbox?_openSession (user' : UserId) :
    (s.openSession now user address session).outbox? user' =
      if user = user' then some session else s.outbox? user' := by
  simp only [openSession]
  split <;> split <;> simp [outbox?, modifyQueue, record, Std.ExtTreeMap.getElem?_insert]

theorem name?_openSession (user' : UserId) :
    (s.openSession now user address session).registry.name? user' =
      if user = user' then some session else s.registry.name? user' := by
  simp only [openSession]
  split <;> split <;> exact Registry.name?_connect _ _ _

/-- The new session gets a queue, and the queue of the session before it is closed. -/
theorem queue?_openSession (session' : SessionId) :
    (s.openSession now user address session).queue? session' =
      if session = session' then some {}
      else if s.outbox? user = some session' then (s.queue? session').map (·.close)
      else s.queue? session' := by
  cases houtbox : s.outbox? user with
  | none =>
    simp only [openSession, houtbox]
    split <;> simp [queue?, record, Std.ExtTreeMap.getElem?_insert]
  | some old =>
    have hold := s.queue?_modifyQueue old session' (·.close)
    rw [queue?] at hold
    simp only [openSession, houtbox]
    split <;> simp [queue?, record, Std.ExtTreeMap.getElem?_insert, hold]

theorem outbox?_closeSession (user' : UserId) :
    (s.closeSession user session).outbox? user' =
      if user = user' ∧ s.outbox? user' = some session then none else s.outbox? user' := by
  simp only [closeSession]
  split
  next h =>
    by_cases huser : user = user'
    · subst huser
      rw [if_pos ⟨rfl, h⟩]
      exact Std.ExtTreeMap.getElem?_erase_self
    · simp [outbox?, modifyQueue, huser, Std.ExtTreeMap.getElem?_erase]
  next h =>
    rw [if_neg]
    · rfl
    · rintro ⟨rfl, hname⟩
      exact h hname

theorem name?_closeSession (user' : UserId) :
    (s.closeSession user session).registry.name? user' =
      if user = user' ∧ s.registry.name? user' = some session then none
      else s.registry.name? user' := by
  simp only [closeSession]
  split <;> exact Registry.name?_disconnectSession _ _ _ _

/-- Only the queue of the user's live session is closed. -/
theorem queue?_closeSession (session' : SessionId) :
    (s.closeSession user session).queue? session' =
      if s.outbox? user = some session ∧ session = session' then
        (s.queue? session').map (·.close)
      else s.queue? session' := by
  simp only [closeSession]
  split
  next h => simp only [queue?_modifyQueue, h, true_and]; rfl
  next h => rw [if_neg fun hboth => h hboth.1]; rfl

end Lifecycle

/-! ## Live sessions -/

/-- The names of the sessions that some events open. -/
def opened (events : List Event) : List SessionId := events.filterMap Event.opened?

/-- After some events, a session is the one that its user opened last, and the user has not closed
it. -/
def Live (events : List Event) (user : UserId) (session : SessionId) : Prop :=
  ∃ before now address after,
    events = before ++ .opening now user address session :: after ∧
      (∀ now address session', .opening now user address session' ∉ after) ∧
      .closing user session ∉ after

variable {events later : List Event} {event : Event} {user user' : UserId} {session : SessionId}

theorem opened_append : opened (events ++ later) = opened events ++ opened later :=
  List.filterMap_append

/-- Names that are not given twice were not given twice before. -/
theorem nodup_opened_of_append (h : (opened (events ++ later)).Nodup) : (opened events).Nodup := by
  rw [opened_append] at h
  exact (List.nodup_append.1 h).1

theorem opened_cons : opened (event :: events) = event.opened?.toList ++ opened events := by
  rw [opened, List.filterMap_cons]
  cases event.opened? <;> rfl

theorem opened_concat : opened (events ++ [event]) = opened events ++ event.opened?.toList := by
  rw [opened_append, opened_cons]
  exact congrArg _ (List.append_nil _)

theorem mem_opened : session ∈ opened events ↔
    ∃ now user address, .opening now user address session ∈ events := by
  simp only [opened, List.mem_filterMap]
  constructor
  · rintro ⟨event, hevent, hopened⟩
    cases event with
    | opening now user address session' =>
      obtain rfl := Option.some.inj hopened
      exact ⟨now, user, address, hevent⟩
    | closing user session' => exact nomatch hopened
    | frame clock user frame => exact nomatch hopened
  · rintro ⟨now, user, address, hevent⟩
    exact ⟨_, hevent, rfl⟩

theorem not_live_nil : ¬Live [] user session := by
  rintro ⟨before, now, address, after, h, -⟩
  exact List.append_ne_nil_of_right_ne_nil before (List.cons_ne_nil _ after) h.symm

/-- One more event makes the session that it opens live, and leaves the others so but for the one
that it replaces or closes. -/
theorem live_concat : Live (events ++ [event]) user session ↔
    (∃ now address, event = .opening now user address session) ∨
      Live events user session ∧
        (∀ now address session', event ≠ .opening now user address session') ∧
        event ≠ .closing user session := by
  constructor
  · rintro ⟨before, now, address, after, h, hopening, hclosing⟩
    rcases after.eq_nil_or_concat with rfl | ⟨init, last, rfl⟩
    · exact .inl ⟨now, address, List.singleton_inj.1 (List.append_inj_right' h rfl)⟩
    · rw [List.concat_eq_append] at h hopening hclosing
      rw [← List.cons_append, ← List.append_assoc] at h
      obtain rfl := List.append_inj_left' h rfl
      obtain rfl := List.singleton_inj.1 (List.append_inj_right' h rfl)
      simp only [List.mem_append, List.mem_singleton, not_or] at hopening hclosing
      exact .inr ⟨⟨before, now, address, init, rfl, fun _ _ _ => (hopening _ _ _).1, hclosing.1⟩,
        fun _ _ _ heq => (hopening _ _ _).2 heq.symm, fun heq => hclosing.2 heq.symm⟩
  · rintro (⟨now, address, rfl⟩ | ⟨⟨before, now, address, after, rfl, hopening, hclosing⟩, hnot⟩)
    · exact ⟨events, now, address, [], rfl, nofun, nofun⟩
    · refine ⟨before, now, address, after ++ [event], by simp, fun _ _ _ => ?_, ?_⟩
      · simpa only [List.mem_append, List.mem_singleton, not_or] using
          ⟨hopening _ _ _, (hnot.1 _ _ _).symm⟩
      · simpa only [List.mem_append, List.mem_singleton, not_or] using ⟨hclosing, hnot.2.symm⟩

/-- A live session was opened for its user. -/
theorem Live.exists_opening (h : Live events user session) :
    ∃ now address, .opening now user address session ∈ events := by
  obtain ⟨before, now, address, after, rfl, -⟩ := h
  exact ⟨now, address, List.mem_append_right before List.mem_cons_self⟩

theorem Live.mem_opened (h : Live events user session) : session ∈ opened events := by
  obtain ⟨now, address, hmem⟩ := h.exists_opening
  exact Server.mem_opened.2 ⟨now, user, address, hmem⟩

/-- A session whose name was not given twice was opened for one user only. -/
theorem user_of_opening (hfresh : (opened events).Nodup) {now now' : Millis}
    {address address' : Option String} (h : .opening now user address session ∈ events)
    (h' : .opening now' user' address' session ∈ events) : user' = user := by
  obtain ⟨before, after, rfl⟩ := List.append_of_mem h
  rw [opened_append, List.nodup_append] at hfresh
  obtain ⟨-, hrest, hapart⟩ := hfresh
  rw [opened, List.filterMap_cons] at hrest
  rcases List.mem_append.1 h' with hmem | hmem
  · exact absurd rfl (hapart session (mem_opened.2 ⟨_, _, _, hmem⟩) session
      (mem_opened.2 ⟨_, _, _, List.mem_cons_self⟩))
  rcases List.mem_cons.1 hmem with heq | hmem
  · exact (Event.opening.inj heq).2.1
  · exact absurd (mem_opened.2 ⟨_, _, _, hmem⟩) (List.nodup_cons.1 hrest).1

theorem Live.user_unique (h : Live events user session) (h' : Live events user' session)
    (hfresh : (opened events).Nodup) : user' = user := by
  obtain ⟨now, address, hmem⟩ := h.exists_opening
  obtain ⟨now', address', hmem'⟩ := h'.exists_opening
  exact user_of_opening hfresh hmem hmem'

/-- All that serving a frame does to the sessions is to post letters to them. -/
theorem exists_posts {s : Server} {clock : Clock} {frame : ClientFrame} {reply : Reply}
    (h : s.handle clock user frame = some reply) : ∃ letters, s.Posts letters reply.server :=
  ⟨_, handle_postings h⟩

/-! ## The invariant -/

/-- A server whose sessions are those that are live after some events: the registry and the outboxes
name them, and their queues are open while those of all others are closed. -/
structure InStep (events : List Event) (s : Server) : Prop where
  names : ∀ user, s.registry.name? user = s.outbox? user
  live : ∀ user session, s.outbox? user = some session ↔ Live events user session
  queues : ∀ session ∈ opened events, ∃ q, s.queue? session = some q ∧ q.abandoned = false ∧
    (q.closed = false ↔ ∃ user, s.outbox? user = some session)

namespace InStep

variable {s s' : Server}

/-- A session is one user's only. -/
theorem user_unique (h : InStep events s) (hfresh : (opened events).Nodup)
    (huser : s.outbox? user = some session) (huser' : s.outbox? user' = some session) :
    user' = user :=
  ((h.live user session).1 huser).user_unique ((h.live user' session).1 huser') hfresh

/-- A live session has an open queue. -/
theorem queue_of_outbox? (h : InStep events s) (huser : s.outbox? user = some session) :
    ∃ q, s.queue? session = some q ∧ q.abandoned = false ∧ q.closed = false := by
  obtain ⟨q, hq, habandoned, hclosed⟩ :=
    h.queues session ((h.live user session).1 huser).mem_opened
  exact ⟨q, hq, habandoned, hclosed.2 ⟨user, huser⟩⟩

/-- While the sessions are in step, a queue gets all the letters for its session. -/
theorem frames_posts (h : InStep events s) {letters : List Letter} (hposts : s.Posts letters s')
    (hsession : session ∈ opened events) :
    (s'.queue session).frames = (s.queue session).frames ++ s.mail letters session := by
  obtain ⟨q, hq, habandoned, hclosed⟩ := h.queues session hsession
  rw [queue, queue, hposts.queues, hq]
  show (q.pushAll (s.mail letters session)).frames = q.frames ++ s.mail letters session
  by_cases hlive : ∃ user, s.outbox? user = some session
  · rw [q.pushAll_of_open _ (hclosed.2 hlive) habandoned]
  · have hmail : s.mail letters session = [] :=
      mail_eq_nil fun letter _ houtbox => hlive ⟨letter.1, houtbox⟩
    rw [hmail, List.append_nil]
    rfl

theorem opening (h : InStep events s) (now : Millis) (user : UserId) (address : Option String)
    (session : SessionId)
    (hfresh : (opened (events ++ [.opening now user address session])).Nodup) :
    InStep (events ++ [.opening now user address session])
      (s.openSession now user address session) where
  names user' := by rw [name?_openSession, outbox?_openSession, h.names]
  live user' session' := by
    rw [outbox?_openSession, live_concat, ← h.live]
    by_cases huser : user = user'
    · simp [huser]
    · simp [huser]
  queues session' hmem := by
    have hopened : opened (events ++ [.opening now user address session]) =
        opened events ++ [session] := opened_concat
    rw [hopened] at hfresh hmem
    rw [List.nodup_append] at hfresh
    obtain ⟨hfresh, -, hnew⟩ := hfresh
    simp only [outbox?_openSession, queue?_openSession]
    rcases List.mem_append.1 hmem with hmem | hmem
    · have hne : session ≠ session' := (hnew session' hmem session (List.mem_singleton_self _)).symm
      -- the user has lost this session, if it was theirs
      have howner : (∃ user', (if user = user' then some session else s.outbox? user') =
          some session') ↔ ∃ user', user ≠ user' ∧ s.outbox? user' = some session' := by
        refine exists_congr fun user' => ?_
        by_cases huser : user = user' <;> simp [huser, hne]
      obtain ⟨q, hq, habandoned, hclosed⟩ := h.queues session' hmem
      rw [if_neg hne, howner, hq]
      by_cases hold : s.outbox? user = some session'
      · refine ⟨q.close, by rw [if_pos hold]; rfl, habandoned, by simp [Queue.close], ?_⟩
        rintro ⟨user', hother, huser'⟩
        exact absurd (h.user_unique hfresh hold huser') hother.symm
      · refine ⟨q, if_neg hold, habandoned, hclosed.trans (exists_congr fun user' => ?_)⟩
        exact ⟨fun huser' => ⟨fun heq => hold (heq ▸ huser'), huser'⟩, And.right⟩
    · obtain rfl := List.mem_singleton.1 hmem
      exact ⟨{}, if_pos rfl, rfl, fun _ => ⟨user, if_pos rfl⟩, fun _ => rfl⟩

theorem closing (h : InStep events s) (hfresh : (opened events).Nodup) (user : UserId)
    (session : SessionId) :
    InStep (events ++ [.closing user session]) (s.closeSession user session) where
  names user' := by rw [name?_closeSession, outbox?_closeSession, h.names]
  live user' session' := by
    rw [outbox?_closeSession, live_concat, ← h.live]
    split
    next hclosed =>
      obtain ⟨rfl, hclosed⟩ := hclosed
      simp [hclosed]
    next hkept =>
      simp only [reduceCtorEq, exists_false, false_or, ne_eq, not_false_eq_true, implies_true,
        true_and, Event.closing.injEq, iff_self_and]
      rintro hlive ⟨rfl, rfl⟩
      exact hkept ⟨rfl, hlive⟩
  queues session' hmem := by
    have hopened : opened (events ++ [.closing user session]) = opened events := by
      rw [opened_concat]
      exact List.append_nil _
    rw [hopened] at hmem
    obtain ⟨q, hq, habandoned, hclosed⟩ := h.queues session' hmem
    simp only [outbox?_closeSession, queue?_closeSession, hq]
    by_cases hlast : s.outbox? user = some session ∧ session = session'
    · obtain ⟨huser, rfl⟩ := hlast
      refine ⟨q.close, by rw [if_pos ⟨huser, rfl⟩]; rfl, habandoned, by simp [Queue.close], ?_⟩
      rintro ⟨user', huser'⟩
      rw [Option.ite_none_left_eq_some] at huser'
      obtain rfl := h.user_unique hfresh huser huser'.2
      exact absurd ⟨rfl, huser⟩ huser'.1
    · refine ⟨q, if_neg hlast, habandoned, hclosed.trans (exists_congr fun user' => ?_)⟩
      rw [Option.ite_none_left_eq_some]
      refine ⟨fun huser' => ⟨?_, huser'⟩, And.right⟩
      rintro ⟨rfl, huser⟩
      exact hlast ⟨huser, Option.some.inj (huser.symm.trans huser')⟩

/-- To post letters keeps the sessions. -/
theorem posts (h : InStep events s) {letters : List Letter} (hposts : s.Posts letters s')
    (clock : Clock) (user : UserId) (frame : ClientFrame) :
    InStep (events ++ [.frame clock user frame]) s' where
  names user' := by rw [hposts.names, hposts.outbox?, h.names]
  live user' session := by
    rw [hposts.outbox?, h.live, live_concat]
    simp
  queues session hmem := by
    have hopened : opened (events ++ [.frame clock user frame]) = opened events := by
      rw [opened_concat]
      exact List.append_nil _
    rw [hopened] at hmem
    obtain ⟨q, hq, habandoned, hclosed⟩ := h.queues session hmem
    simp only [hposts.outbox?]
    exact ⟨_, (hposts.queues session).trans (congrArg _ hq), by simp [habandoned],
      by simpa using hclosed⟩

/-- **Every event keeps the sessions in step**, if it opens no session of a name that is taken. -/
theorem step (h : InStep events s) {reply : Option ServerFrame}
    (hstep : s.step event = some (reply, s')) (hfresh : (opened (events ++ [event])).Nodup) :
    InStep (events ++ [event]) s' := by
  cases event with
  | opening now user address session =>
    obtain ⟨rfl, rfl⟩ := Prod.mk.inj (Option.some.inj hstep)
    exact h.opening now user address session hfresh
  | closing user session =>
    obtain ⟨rfl, rfl⟩ := Prod.mk.inj (Option.some.inj hstep)
    exact h.closing (nodup_opened_of_append hfresh) user session
  | frame clock user frame =>
    rcases step_frame_eq_some_iff.1 hstep with ⟨-, -, rfl⟩ | ⟨answer, hanswer, -, rfl⟩
    · exact h.posts (.nil rfl rfl rfl) clock user frame
    · obtain ⟨letters, hposts⟩ := exists_posts hanswer
      exact h.posts hposts clock user frame

end InStep

variable {s s' s₀ : Server} {log : List Entry} {config : Config} {host : Host} {now : Millis}

theorem inStep_start (h : start config host now = .ok s₀) : InStep [] s₀ := by
  obtain ⟨generator, index, history, -, -, -, rfl⟩ := start_eq_ok h
  constructor
  · intro user
    simp [Registry.name?, outbox?]
  · intro user session
    simp [outbox?, not_live_nil]
  · intro session hopened
    exact absurd hopened List.not_mem_nil

/-- The sessions of a server are in step after every run. -/
theorem inStep_run (hstart : start config host now = .ok s₀)
    (hrun : s₀.run events = some (log, s)) (hfresh : (opened events).Nodup) : InStep events s := by
  have hinStep : (opened (log.map (·.event))).Nodup → InStep (log.map (·.event)) s := by
    refine run_induct (P := fun log s => (opened (log.map (·.event))).Nodup →
      InStep (log.map (·.event)) s) hrun (fun _ => inStep_start hstart) ?_
    intro log s event reply s' ih hstep hfresh
    rw [List.map_append, List.map_singleton] at hfresh ⊢
    exact (ih (nodup_opened_of_append hfresh)).step hstep hfresh
  rw [map_event_of_run hrun] at hinStep
  exact hinStep hfresh

/-! ## Closed queues -/

variable {q : Queue}

/-- No event changes a closed queue, but that its name may be given to a new session. -/
theorem closed_step (hq : s.queue? session = some q) (hclosed : q.closed = true)
    {reply : Option ServerFrame} (hstep : s.step event = some (reply, s'))
    (hnew : event.opened? ≠ some session) : s'.queue? session = some q := by
  cases event with
  | opening now user address new =>
    obtain ⟨rfl, rfl⟩ := Prod.mk.inj (Option.some.inj hstep)
    rw [queue?_openSession, if_neg (mt (congrArg some) hnew), hq]
    simp [q.close_of_closed hclosed]
  | closing user last =>
    obtain ⟨rfl, rfl⟩ := Prod.mk.inj (Option.some.inj hstep)
    rw [queue?_closeSession, hq]
    simp [q.close_of_closed hclosed]
  | frame clock user frame =>
    rcases step_frame_eq_some_iff.1 hstep with ⟨-, -, rfl⟩ | ⟨answer, hanswer, -, rfl⟩
    · exact hq
    · obtain ⟨letters, hposts⟩ := exists_posts hanswer
      rw [hposts.queues, hq, Option.map_some, q.pushAll_of_closed _ hclosed]

/-- A closed queue stays as it is. -/
theorem closed_run (hq : s.queue? session = some q) (hclosed : q.closed = true)
    (hrun : s.run later = some (log, s')) (hnew : session ∉ opened later) :
    s'.queue? session = some q := by
  have hkept : session ∉ opened (log.map (·.event)) → s'.queue? session = some q := by
    refine run_induct (P := fun log s' => session ∉ opened (log.map (·.event)) →
      s'.queue? session = some q) hrun (fun _ => hq) ?_
    intro log s event reply s' ih hstep hnew
    rw [List.map_append, List.map_singleton, opened_concat, List.mem_append, not_or,
      Option.mem_toList] at hnew
    exact closed_step (ih hnew.1) hclosed hstep hnew.2
  rw [map_event_of_run hrun] at hkept
  exact hkept hnew

/-! ## Every run -/

/-- **The registry and the outboxes name the same sessions**, those that are live, whatever was
opened and closed in whatever order. Of the sessions that were opened, the queues of these are open,
and every other queue is closed and keeps the frames that it has, whatever comes later. -/
theorem sessions_run (hstart : start config host now = .ok s₀)
    (hrun : s₀.run events = some (log, s)) (hfresh : (opened events).Nodup) :
    (∀ user, s.registry.name? user = s.outbox? user) ∧
    (∀ user session, s.outbox? user = some session ↔ Live events user session) ∧
    ∀ session ∈ opened events, ∃ q, s.queue? session = some q ∧
      (q.closed = true ↔ ∀ user, ¬Live events user session) ∧
      (q.closed = true → ∀ later log' s', s.run later = some (log', s') →
        session ∉ opened later → s'.queue? session = some q) := by
  have h : InStep events s := inStep_run hstart hrun hfresh
  refine ⟨h.names, h.live, fun session hopened => ?_⟩
  obtain ⟨q, hq, -, hclosed⟩ := h.queues session hopened
  refine ⟨q, hq, ?_, fun hclosed later log' s' hlater hnew => closed_run hq hclosed hlater hnew⟩
  rw [← not_exists, ← exists_congr fun user => h.live user session, ← hclosed,
    Bool.not_eq_false]

/-- A session is replaced; the old connection ends later, and others end in disorder. -/
def turnover : List Event :=
  [.opening 1000 "ann" none "a1", .opening 1000 "bob" none "b1", .opening 1001 "ann" none "a2",
    .closing "ann" "a1", .closing "bob" "a2", .frame ⟨1002, []⟩ "bob" (.typing 1 ⟨0⟩ ["ann"]),
    .closing "bob" "b1", .closing "bob" "b1"]

/-- What the general statement says of these events. -/
theorem sessions_run_late_close :
    ∃ log s, secondsServer.run turnover = some (log, s) ∧
      s.registry.name? "ann" = some "a2" ∧ s.outbox? "ann" = some "a2" ∧
      s.queue? "a1" = some { closed := true } ∧
      ∀ later log' s', s.run later = some (log', s') → "a1" ∉ opened later →
        s'.queue? "a1" = some { closed := true } := by
  have hstart : start seconds {} 1000 = .ok secondsServer := rfl
  have hqueue : (secondsServer.run turnover).map (·.2.queue? "a1") =
      some (some { closed := true }) := by decide
  obtain ⟨⟨log, s⟩, hrun, hclosed⟩ := Option.map_eq_some_iff.1 hqueue
  have hfresh : (opened turnover).Nodup := by decide
  obtain ⟨hnames, hlive, hqueues⟩ := sessions_run hstart hrun hfresh
  have hann : s.outbox? "ann" = some "a2" :=
    (hlive "ann" "a2").2 ⟨turnover.take 2, 1001, none, turnover.drop 3, rfl,
      by simp [turnover], by simp [turnover]⟩
  obtain ⟨q, hq, -, hkept⟩ := hqueues "a1" (by decide)
  obtain rfl : q = { closed := true } := Option.some.inj (hq.symm.trans hclosed)
  exact ⟨log, s, hrun, (hnames "ann").trans hann, hann, hq, hkept rfl⟩

end Server

end ChatRelay

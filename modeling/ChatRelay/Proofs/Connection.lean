import ChatRelay.Connection
import ChatRelay.Proofs.Server.Sessions

/-!
# Rounds of a connection

What one round of a connection's loop can do (`Connection.Round`), and what it does to the server
(`Server.Serves`): it opens no session, and of the sessions that were replaced or closed it touches
none but its own. A connection whose session is not live any more looks at its queue only; all that
it does to the server is to take from that queue (`step_of_displaced`).
-/

namespace ChatRelay

namespace Server

variable {s s' s'' : Server} {own session : SessionId} {events later : List Event}

/-- A server that has gone through some events of a session: none of them opens a session, and the
queues of other sessions that are closed are as they were. -/
structure Serves (s : Server) (own : SessionId) (events : List Event) (s' : Server) : Prop where
  opens : opened events = []
  inStep : ∀ before, InStep before s → (opened before).Nodup → InStep (before ++ events) s'
  closed : ∀ session q, session ≠ own → s.queue? session = some q → q.closed = true →
    s'.queue? session = some q

namespace Serves

theorem of_step {event : Event} {reply : Option ServerFrame}
    (h : s.step event = some (reply, s')) (hopened : event.opened? = none) :
    s.Serves own [event] s' where
  opens := List.filterMap_cons_none hopened
  inStep before hinStep hfresh := by
    refine hinStep.step h ?_
    rw [opened_concat, hopened, Option.toList_none, List.append_nil]
    exact hfresh
  closed session q _ hq hclosed := closed_step hq hclosed h (by simp [hopened])

theorem trans (h : s.Serves own events s') (h' : s'.Serves own later s'') :
    s.Serves own (events ++ later) s'' where
  opens := by rw [opened_append, h.opens, h'.opens, List.append_nil]
  inStep before hinStep hfresh := by
    rw [← List.append_assoc]
    refine h'.inStep _ (h.inStep before hinStep hfresh) ?_
    rwa [opened_append, h.opens, List.append_nil]
  closed session q hother hq hclosed :=
    h'.closed session q hother (h.closed session q hother hq hclosed) hclosed

/-- Metrics do not matter. -/
theorem record (h : s.Serves own events s') (change : Metrics → Metrics) :
    s.Serves own events (s'.record change) where
  opens := h.opens
  inStep before hinStep hfresh :=
    have h' := h.inStep before hinStep hfresh
    ⟨h'.names, h'.live, h'.queues⟩
  closed := h.closed

theorem refl (s : Server) (own : SessionId) : s.Serves own [] s where
  opens := rfl
  inStep before hinStep _ := by rwa [List.append_nil]
  closed _ _ _ hq _ := hq

/-- Frames are taken from the session's own queue. -/
theorem take (s : Server) (own : SessionId) (frames : List ServerFrame) :
    s.Serves own [] (s.modifyQueue own ({ · with frames })) where
  opens := rfl
  inStep before h _ := by
    rw [List.append_nil]
    refine ⟨h.names, h.live, fun session hopened => ?_⟩
    obtain ⟨q, hq, habandoned, hclosed⟩ := h.queues session hopened
    rw [queue?_modifyQueue, hq]
    split
    · exact ⟨_, rfl, habandoned, hclosed⟩
    · exact ⟨q, rfl, habandoned, hclosed⟩
  closed session q hother hq _ := by rwa [queue?_modifyQueue, if_neg hother.symm]

end Serves

/-- To close a session that is not live changes nothing. -/
theorem closeSession_of_not_live {s : Server} {user : UserId} {session : SessionId}
    (hname : s.registry.name? user ≠ some session) (houtbox : s.outbox? user ≠ some session) :
    s.closeSession user session = s := by
  have hnamed : (s.registry.named? user session).isSome = false := by
    rw [Registry.name?] at hname
    rw [Registry.named?]
    cases hs : s.registry.session? user with
    | none => rfl
    | some t =>
      rw [hs, Option.map_some, ne_eq, Option.some.injEq] at hname
      simp [Option.filter, hname]
  simp only [closeSession, if_neg houtbox, Registry.disconnectSession, hnamed]
  rfl

end Server

namespace Connection

variable {c : Connection} {s : Server} {clock : Clock} {turn : Turn}

/-! ## Rounds -/

/-- What a round of a connection can be. -/
inductive Round (c : Connection) (s : Server) (clock : Clock) : Turn → Prop
  | idle : c.Round s clock { connection := c, server := s, clock }
  /-- A frame is taken from the queue. -/
  | push (hopen : c.isOpen = true) (frame : ServerFrame) (frames : List ServerFrame)
      (hframes : (s.queue c.session).frames = frame :: frames) :
      c.Round s clock
        { connection := c.write (.frame frame)
          server := s.modifyQueue c.session ({ · with frames }), clock }
  /-- The queue has come to its end. -/
  | displaced (hopen : c.isOpen = true) (hframes : (s.queue c.session).frames = [])
      (hclosed : (s.queue c.session).closed = true) :
      c.Round s clock ((c.write .close).finish s clock)
  /-- What the client has sent is taken up. -/
  | take (hopen : c.isOpen = true) (hframes : (s.queue c.session).frames = [])
      (hclosed : (s.queue c.session).closed = false) (incoming : Incoming) (inbox : List Incoming)
      (hinbox : c.inbox = incoming :: inbox) {turn : Turn}
      (hreceive : { c with inbox }.receive s clock incoming = some turn) : c.Round s clock turn

/-- **All that a round can do.** -/
theorem round_of_step (h : c.step s clock = some turn) : c.Round s clock turn := by
  rw [step] at h
  split at h
  next =>
    obtain rfl := Option.some.inj h
    exact .idle
  next hopen =>
    have hopen : c.isOpen = true := by simpa using hopen
    simp only at h
    split at h
    next frame frames hframes =>
      obtain rfl := Option.some.inj h
      exact .push hopen frame frames hframes
    next hframes =>
      split at h
      next hclosed =>
        obtain rfl := Option.some.inj h
        exact .displaced hopen hframes hclosed
      next hclosed =>
        split at h
        next =>
          obtain rfl := Option.some.inj h
          exact .idle
        next incoming inbox hinbox =>
          exact .take hopen hframes (Bool.eq_false_iff.2 hclosed) incoming inbox hinbox h

theorem finish_serves (c : Connection) (s : Server) (clock : Clock) :
    s.Serves c.session [.closing c.user c.session] (c.finish s clock).server :=
  have hclosing : s.Serves c.session [.closing c.user c.session]
      (s.closeSession c.user c.session) := .of_step rfl rfl
  hclosing.record _

/-- **All that can come of a text**: it is a frame, at which the program stops or which is answered,
or it is none, which the client is told. -/
theorem answer_cases {text : String} (h : c.answer s clock text = some turn) :
    (∃ frame, ClientFrame.decode text = .ok frame ∧
      (s.stops clock.now c.user frame = true ∧ turn = c.breakOff s clock ∨
        s.stops clock.now c.user frame = false ∧
          ∃ reply, s.handle clock c.user frame = some reply ∧ turn = c.reply clock.now reply)) ∨
    ∃ e, ClientFrame.decode text = .error e ∧
      turn = c.reply clock.now
        { frame := .error 0 .invalidFrame e.message, server := s.record (·.error .decode), clock }
    := by
  rw [answer] at h
  cases hdecode : ClientFrame.decode text with
  | ok frame =>
    simp only [hdecode] at h
    refine .inl ⟨frame, rfl, ?_⟩
    cases hstops : s.stops clock.now c.user frame with
    | true =>
      rw [hstops, if_pos rfl] at h
      exact .inl ⟨rfl, (Option.some.inj h).symm⟩
    | false =>
      rw [hstops, if_neg Bool.false_ne_true] at h
      obtain ⟨reply, hreply, rfl⟩ := Option.map_eq_some_iff.1 h
      exact .inr ⟨rfl, reply, hreply, rfl⟩
  | error e =>
    simp only [hdecode] at h
    exact .inr ⟨e, rfl, (Option.some.inj h).symm⟩

/-- What is taken up from a client leaves the connection its user and its session. -/
theorem receive_serves {incoming : Incoming} (h : c.receive s clock incoming = some turn) :
    turn.connection.user = c.user ∧ turn.connection.session = c.session ∧
      ∃ events, s.Serves c.session events turn.server := by
  cases incoming with
  | text text =>
    rcases answer_cases h with
      ⟨frame, -, ⟨-, rfl⟩ | ⟨-, reply, hreply, rfl⟩⟩ | ⟨e, -, rfl⟩
    · exact ⟨rfl, rfl, [], (Server.Serves.refl s c.session).record (·.disconnection)⟩
    · have hstep := Server.step_of_handle hreply
      exact ⟨rfl, rfl, _, (Server.Serves.of_step hstep rfl).record (·.frameHandled _)⟩
    · exact ⟨rfl, rfl, [], ((Server.Serves.refl s c.session).record (·.error .decode)).record
        (·.frameHandled _)⟩
  | binary octets =>
    obtain rfl := Option.some.inj h
    exact ⟨rfl, rfl, [], .refl s c.session⟩
  | ping payload =>
    obtain rfl := Option.some.inj h
    exact ⟨rfl, rfl, [], .refl s c.session⟩
  | pong payload =>
    obtain rfl := Option.some.inj h
    exact ⟨rfl, rfl, [], .refl s c.session⟩
  | close =>
    obtain rfl := Option.some.inj h
    exact ⟨rfl, rfl, _, c.finish_serves s clock⟩
  | finished =>
    obtain rfl := Option.some.inj h
    exact ⟨rfl, rfl, _, c.finish_serves s clock⟩
  | lost =>
    obtain rfl := Option.some.inj h
    exact ⟨rfl, rfl, _, ((Server.Serves.refl s c.session).record _).trans
      (c.finish_serves _ clock)⟩

/-- **A round leaves the other sessions in step.** -/
theorem step_serves (h : c.step s clock = some turn) :
    turn.connection.user = c.user ∧ turn.connection.session = c.session ∧
      ∃ events, s.Serves c.session events turn.server := by
  cases round_of_step h with
  | idle => exact ⟨rfl, rfl, [], .refl s c.session⟩
  | push _ frame frames _ => exact ⟨rfl, rfl, [], .take s c.session frames⟩
  | displaced => exact ⟨rfl, rfl, _, (c.write .close).finish_serves s clock⟩
  | take _ _ _ incoming inbox _ hreceive =>
    exact receive_serves (c := { c with inbox }) hreceive

/-! ## Connections whose session is not live -/

/-- Nothing comes from a connection that has ended. -/
theorem step_of_not_isOpen (hopen : c.isOpen = false) (s : Server) (clock : Clock) :
    c.step s clock = some { connection := c, server := s, clock } := by
  rw [step, hopen]
  rfl

theorem step_of_frames (hopen : c.isOpen = true) {frame : ServerFrame}
    {frames : List ServerFrame} (hframes : (s.queue c.session).frames = frame :: frames)
    (clock : Clock) :
    c.step s clock = some
      { connection := c.write (.frame frame)
        server := s.modifyQueue c.session ({ · with frames }), clock } := by
  simp [step, hopen, hframes]

theorem step_of_closed (hopen : c.isOpen = true) (hframes : (s.queue c.session).frames = [])
    (hclosed : (s.queue c.session).closed = true) (clock : Clock) :
    c.step s clock = some ((c.write .close).finish s clock) := by
  simp [step, hopen, hframes, hclosed]

/-- **A round of a connection whose session is not live** takes nothing from the client and at most
a frame from the session's own queue. -/
theorem step_of_displaced (hname : s.registry.name? c.user ≠ some c.session)
    (houtbox : s.outbox? c.user ≠ some c.session)
    (hclosed : (s.queue c.session).closed = true) (clock : Clock) :
    ∃ turn, c.step s clock = some turn ∧ turn.clock = clock ∧
      turn.connection.inbox = c.inbox ∧
      turn.server = { s with queues := turn.server.queues, metrics := turn.server.metrics } ∧
      ∀ session, session ≠ c.session → turn.server.queue? session = s.queue? session := by
  cases hopen : c.isOpen with
  | false => exact ⟨_, step_of_not_isOpen hopen s clock, rfl, rfl, rfl, fun _ _ => rfl⟩
  | true =>
    cases hframes : (s.queue c.session).frames with
    | nil =>
      have hserver : ((c.write .close).finish s clock).server = s.record (·.disconnection) :=
        congrArg (·.record (·.disconnection)) (Server.closeSession_of_not_live hname houtbox)
      refine ⟨_, step_of_closed hopen hframes hclosed clock, rfl, rfl, ?_, fun session _ => ?_⟩
      · rw [hserver]
        rfl
      · rw [hserver]
        rfl
    | cons frame frames =>
      refine ⟨_, step_of_frames hopen hframes clock, rfl, rfl, rfl, fun session hother => ?_⟩
      rw [Server.queue?_modifyQueue, if_neg hother.symm]

/-- The last that a connection writes, if some frames are queued for it: these, and the end. -/
def lastWords (frames : List ServerFrame) : List Outgoing := frames.map Outgoing.frame ++ [.close]

/-- A connection after `n` more rounds, if its session was replaced before them while `frames` were
queued for it, and `incoming` has come from its client: it has taken nothing of that, and each round
has written one frame more until the end was written. -/
def drained (c : Connection) (frames : List ServerFrame) (incoming : List Incoming) (n : Nat) :
    Connection :=
  { c with
    inbox := c.inbox ++ incoming
    written := c.written ++ (lastWords frames).take n
    isOpen := n ≤ frames.length }

variable {frames : List ServerFrame} {n : Nat}

/-- **A connection that is draining drains.** -/
theorem step_drained
    (hqueue : s.queue? c.session = some { frames := frames.drop n, closed := true })
    (clock : Clock) (incoming : List Incoming) :
    ∃ turn, (c.drained frames incoming n).step s clock = some turn ∧
      turn.connection = c.drained frames incoming (n + 1) ∧
      turn.server.queue? c.session = some { frames := frames.drop (n + 1), closed := true } := by
  have hq : s.queue (c.drained frames incoming n).session =
      { frames := frames.drop n, closed := true } := by
    show (s.queue? c.session).getD {} = _
    rw [hqueue]
    rfl
  rcases Nat.lt_trichotomy n frames.length with hlt | rfl | hgt
  · -- a frame is left
    have hopen : (c.drained frames incoming n).isOpen = true := decide_eq_true (Nat.le_of_lt hlt)
    have hframes : (s.queue (c.drained frames incoming n).session).frames =
        frames[n] :: frames.drop (n + 1) := by
      rw [hq, List.drop_eq_getElem_cons hlt]
    have hnext : (lastWords frames)[n]? = some (.frame frames[n]) := by
      simp [lastWords, List.getElem?_append_left, hlt]
    refine ⟨_, step_of_frames hopen hframes clock, ?_, ?_⟩
    · simp [drained, write, List.take_add_one, hnext, Nat.le_of_lt hlt, Nat.succ_le_of_lt hlt]
    · show (s.modifyQueue c.session _).queue? c.session = _
      rw [Server.queue?_modifyQueue, if_pos rfl, hqueue]
      rfl
  · -- the end is left
    have hopen : (c.drained frames incoming frames.length).isOpen = true :=
      decide_eq_true (Nat.le_refl _)
    have hframes : (s.queue (c.drained frames incoming frames.length).session).frames = [] := by
      rw [hq, List.drop_length]
    have hnext : (lastWords frames)[frames.length]? = some .close := by
      simp [lastWords]
    refine ⟨_, step_of_closed hopen hframes (by rw [hq]) clock, ?_, ?_⟩
    · simp [drained, write, finish, List.take_add_one, hnext]
    · show (s.closeSession c.user c.session).queue? c.session = _
      rw [Server.queue?_closeSession, hqueue, List.drop_length,
        List.drop_eq_nil_of_le (Nat.le_succ _)]
      split <;> rfl
  · -- nothing is left
    have hopen : (c.drained frames incoming n).isOpen = false :=
      decide_eq_false (Nat.not_le.2 hgt)
    have hnext : (lastWords frames)[n]? = none := by
      simpa [lastWords] using Nat.succ_le_of_lt hgt
    refine ⟨_, step_of_not_isOpen hopen s clock, ?_, ?_⟩
    · simp [drained, List.take_add_one, hnext, Nat.not_le.2 hgt,
        Nat.not_le.2 (Nat.lt_succ_of_lt hgt)]
    · rw [hqueue, List.drop_eq_nil_of_le (Nat.le_of_lt hgt),
        List.drop_eq_nil_of_le (Nat.le_of_lt (Nat.lt_succ_of_lt hgt))]

end Connection

end ChatRelay

import ChatRelay.Proofs.Connection
import ChatRelay.Proofs.Server.Recorded

/-!
# What a connection does

In a round a connection does one thing or nothing (`Connection.deed?`): it writes a frame that was
queued, comes to the end of its queue, or takes up what has come from the client. An `Act` is such a
round on record, and `Deed.Outcome` says what has to be written for what was done, what becomes of
the server, and when the connection ends. Whatever a round does is proper in that sense
(`Connection.performs`), and it does to the queues, the outboxes and the gauge of connections what
can be told from the deed. One deed gets no reply and leaves the session behind: to take up a
request for history at which the program stops (`Deed.Stops`).
-/

namespace ChatRelay

/-- The identifier of a request. -/
def ClientFrame.requestId? : ClientFrame → Option RequestId
  | .subscribe id _ => some id
  | .unsubscribe id _ => some id
  | .send id _ _ _ _ => some id
  | .history id _ _ => some id
  | .typing id _ _ => some id
  | .ping _ => none

/-- The identifier of the request that a frame replies to. -/
def ServerFrame.requestId? : ServerFrame → Option RequestId
  | .ack id _ => some id
  | .error id _ _ => some id
  | .history id _ _ _ => some id
  | _ => none

/-- **A reply repeats the identifier of its request.** -/
theorem Server.requestId?_of_handle {s : Server} {clock : Clock} {user : UserId}
    {frame : ClientFrame} {reply : Reply} (h : s.handle clock user frame = some reply)
    {id : RequestId} (hid : frame.requestId? = some id) : reply.frame.requestId? = some id := by
  cases frame with
  | subscribe id topic =>
    obtain rfl := Option.some.inj hid
    simp only [handle] at h
    split at h <;> obtain rfl := Option.some.inj h <;> rfl
  | unsubscribe id topic =>
    obtain rfl := Option.some.inj hid
    obtain rfl := Option.some.inj h
    rfl
  | send id thread name members body =>
    obtain rfl := Option.some.inj hid
    obtain ⟨minting, -, ⟨e, -, hframe, -⟩ | ⟨messageId, -, hframe, -⟩⟩ := send_cases h <;>
      rw [hframe] <;> rfl
  | history id thread query =>
    obtain rfl := Option.some.inj hid
    rcases sendHistory_cases (sendHistory_of_handle h) with ⟨page, -, hframe, -⟩ | ⟨e, heq⟩
    · rw [show reply.frame = _ from hframe]
      rfl
    · rw [show reply.frame = _ from congrArg Prod.fst heq]
      rfl
  | typing id thread members =>
    obtain rfl := Option.some.inj hid
    obtain rfl := Option.some.inj h
    rfl
  | ping timestamp => cases hid

/-- If the program does not stop, only while an identifier is minted can it be that there is no
reply. -/
theorem Server.send_of_handle_eq_none {s : Server} {clock : Clock} {user : UserId}
    {frame : ClientFrame} (hstops : s.stops clock.now user frame = false)
    (h : s.handle clock user frame = none) :
    ∃ id thread name members body,
      frame = .send id thread name members body ∧ s.generator.mint clock = none := by
  cases frame with
  | subscribe id topic =>
    simp only [handle] at h
    split at h <;> cases h
  | send id thread name members body =>
    refine ⟨id, thread, name, members, body, rfl, ?_⟩
    have h : s.send clock id _ members = none := h
    rw [send] at h
    cases hmint : s.generator.mint clock with
    | none => rfl
    | some minting =>
      simp only [hmint, Option.bind_eq_bind, Option.bind_some] at h
      split at h <;> cases h
  | history id thread query =>
    have hsend := sendHistory_eq_none_iff.1 (Option.map_eq_none_iff.1 h)
    exact absurd (hstops.symm.trans hsend) Bool.false_ne_true
  | _ => cases h

/-! ## Records -/

namespace Metrics

variable (m : Metrics)

theorem activeConnections_connection :
    m.connection.activeConnections = m.activeConnections + 1 := by
  simp only [activeConnections, connection, Int.natCast_add]
  omega

theorem activeConnections_disconnection :
    m.disconnection.activeConnections = m.activeConnections - 1 := by
  simp only [activeConnections, disconnection, Int.natCast_add]
  omega

end Metrics

section Recorded

variable (s : Server) (change : Metrics → Metrics)

@[simp] theorem Server.queue_record (session : SessionId) :
    (s.record change).queue session = s.queue session := rfl

theorem Server.closeSession_record (user : UserId) (session : SessionId) :
    (s.record change).closeSession user session = (s.closeSession user session).record change := by
  simp only [closeSession]
  split
  next h => rw [if_pos (show s.outbox? user = some session from h)]; rfl
  next h => rw [if_neg (show ¬s.outbox? user = some session from h)]; rfl

end Recorded

/-! ## Deeds -/

/-- What a connection does in a round. -/
inductive Deed where
  /-- It writes a frame that was queued. -/
  | push (frame : ServerFrame)
  /-- It comes to the end of its queue. -/
  | displaced
  /-- It takes up what has come from the client. -/
  | take (incoming : Incoming)
  deriving DecidableEq, Repr

/-- The frame that is taken from the queue. -/
def Deed.pushed? : Deed → Option ServerFrame
  | push frame => some frame
  | _ => none

/-- What is taken from the client. -/
def Deed.taken? : Deed → Option Incoming
  | take incoming => some incoming
  | _ => none

/-- A deed at which the program stops: a request for history is taken up that is to start from the
least bucket. -/
def Deed.Stops (before : Server) (clock : Clock) (deed : Deed) : Prop :=
  ∃ text id thread query, deed = .take (.text text) ∧
    ClientFrame.decode text = .ok (.history id thread query) ∧
    (before.history.firstQuestion clock.now query).bucket = Int64.minValue

/-- The letters that a user's connection posts by a deed. -/
def Deed.postings (before : Server) (clock : Clock) (user : UserId) : Deed → List Letter
  | take (.text text) =>
    match ClientFrame.decode text with
    | .ok frame => before.postings clock user frame
    | .error _ => []
  | _ => []

/-- **What is to come of a deed** of a user's connection: what is written, the server after it, and
whether the connection goes on. -/
inductive Deed.Outcome (user : UserId) (session : SessionId) (clock : Clock) (before : Server) :
    Deed → List Outgoing → Server → Bool → Prop
  | push {frame : ServerFrame} {frames : List ServerFrame}
      (hframes : (before.queue session).frames = frame :: frames) :
      Outcome user session clock before (.push frame) [.frame frame]
        (before.modifyQueue session ({ · with frames })) true
  /-- A frame of the client gets one reply, which repeats the identifier of the request. -/
  | reply {text : String} {frame : ClientFrame} {reply : Reply} (seconds : Double)
      (hdecode : ClientFrame.decode text = .ok frame)
      (hreply : before.handle clock user frame = some reply)
      (hid : ∀ id, frame.requestId? = some id → reply.frame.requestId? = some id) :
      Outcome user session clock before (.take (.text text)) [.frame reply.frame]
        (reply.server.record (·.frameHandled seconds)) true
  /-- A text that is no frame gets one error, in whatever words, and changes the metrics alone. -/
  | invalid {text : String} {e : DecodeError} (seconds : Double)
      (hdecode : ClientFrame.decode text = .error e) (message : String) :
      Outcome user session clock before (.take (.text text))
        [.frame (.error 0 .invalidFrame message)]
        (before.record fun metrics => (metrics.error .decode).frameHandled seconds) true
  /-- The program stops. Nothing is written, and the session stays as it is. -/
  | stopped {deed : Deed} (hstops : deed.Stops before clock) :
      Outcome user session clock before deed [] (before.record (·.disconnection)) false
  | unsupported (octets : List UInt8) :
      Outcome user session clock before (.take (.binary octets))
        [.frame (.error 0 .unsupported "Binary frames are not supported")] before true
  | pong (payload : List UInt8) :
      Outcome user session clock before (.take (.ping payload)) [.pong payload] before true
  | silence (payload : List UInt8) :
      Outcome user session clock before (.take (.pong payload)) [] before true
  | displaced (hframes : (before.queue session).frames = [])
      (hclosed : (before.queue session).closed = true) :
      Outcome user session clock before .displaced [.close]
        ((before.closeSession user session).record (·.disconnection)) false
  | ended {incoming : Incoming} (hlast : incoming = .close ∨ incoming = .finished) :
      Outcome user session clock before (.take incoming) []
        ((before.closeSession user session).record (·.disconnection)) false
  | lost :
      Outcome user session clock before (.take .lost) []
        ((before.closeSession user session).record fun metrics =>
          (metrics.error .webSocket).disconnection) false

/-- What a connection has to do. -/
def Connection.deed? (c : Connection) (s : Server) : Option Deed :=
  if c.isOpen then
    match (s.queue c.session).frames with
    | frame :: _ => some (.push frame)
    | [] => if (s.queue c.session).closed then some .displaced else c.inbox.head?.map .take
  else none

/-- A round in which a connection has done something: what it was, what was written, the server
before and after it, and whether the connection goes on. -/
structure Act where
  deed : Deed
  clock : Clock
  before : Server
  written : List Outgoing
  after : Server
  goesOn : Bool

/-- What a connection does in its next round. -/
def Connection.act? (c : Connection) (s : Server) (clock : Clock) : Option Act := do
  let deed ← c.deed? s
  let turn ← c.step s clock
  return { deed, clock, before := s, written := turn.connection.written.drop c.written.length
           after := turn.server, goesOn := turn.connection.isOpen }

namespace Act

/-- The frames that were queued for a session, if the connection is a user's. -/
def mail (user : UserId) (session : SessionId) (act : Act) : List ServerFrame :=
  act.before.mail (act.deed.postings act.before act.clock user) session

/-- An act at which the program stops. -/
def Stops (act : Act) : Prop := act.deed.Stops act.before act.clock

/-- What has come of the round of a user's connection is what is to come of it. -/
def Proper (user : UserId) (session : SessionId) (act : Act) : Prop :=
  act.deed.Outcome user session act.clock act.before act.written act.after act.goesOn

end Act

namespace Connection

variable {c : Connection} {s : Server} {clock : Clock} {turn : Turn} {act : Act}

/-- A connection has done something in a round. -/
structure Performs (c : Connection) (s : Server) (clock : Clock) (turn : Turn) (act : Act) :
    Prop where
  isOpen : c.isOpen = true
  eq : c.act? s clock = some act
  before : act.before = s
  after : act.after = turn.server
  proper : act.Proper c.user c.session
  connection : turn.connection =
    { c with
      inbox := turn.connection.inbox, written := c.written ++ act.written, isOpen := act.goesOn }
  inbox : c.inbox = act.deed.taken?.toList ++ turn.connection.inbox

theorem Performs.outcome (h : c.Performs s clock turn act) :
    act.deed.Outcome c.user c.session act.clock s act.written turn.server act.goesOn := by
  have hproper := h.proper
  rwa [Act.Proper, h.before, h.after] at hproper

/-- A round in which there is something to do, and what the connection wrote. -/
theorem performs_of_deed? {deed : Deed} {written : List Outgoing} {inbox : List Incoming}
    {goesOn : Bool} (hopen : c.isOpen = true) (hdeed : c.deed? s = some deed)
    (hstep : c.step s clock = some turn)
    (hconnection : turn.connection =
      { c with inbox, written := c.written ++ written, isOpen := goesOn })
    (hinbox : c.inbox = deed.taken?.toList ++ inbox)
    (hproper : deed.Outcome c.user c.session clock s written turn.server goesOn) :
    c.Performs s clock turn
      { deed, clock, before := s, written, after := turn.server, goesOn } := by
  refine ⟨hopen, ?_, rfl, rfl, hproper, ?_, ?_⟩
  · have hwritten : turn.connection.written.drop c.written.length = written := by
      rw [hconnection]
      exact List.drop_left
    have hgoesOn : turn.connection.isOpen = goesOn := by rw [hconnection]
    rw [act?, hdeed, hstep]
    simp only [Option.bind_eq_bind, Option.bind_some, hwritten, hgoesOn]
    rfl
  · rw [hconnection]
  · rw [hconnection]
    exact hinbox

/-- What is taken up from a client is answered properly. -/
theorem outcome_of_receive {incoming : Incoming} (hopen : c.isOpen = true)
    (h : c.receive s clock incoming = some turn) :
    ∃ written goesOn,
      turn.connection = { c with written := c.written ++ written, isOpen := goesOn } ∧
      (Deed.take incoming).Outcome c.user c.session clock s written turn.server goesOn := by
  have hsilent : c = { c with written := c.written ++ [], isOpen := true } := by
    rw [List.append_nil, ← hopen]
  have hended : ({ c with isOpen := false } : Connection) =
      { c with written := c.written ++ [], isOpen := false } := by rw [List.append_nil]
  cases incoming with
  | text text =>
    rcases answer_cases h with
      ⟨frame, hdecode, ⟨hstops, rfl⟩ | ⟨-, reply, hreply, rfl⟩⟩ | ⟨e, hdecode, rfl⟩
    · obtain ⟨id, thread, query, rfl, hleast⟩ := Server.stops_iff.1 hstops
      exact ⟨[], false, hended, .stopped ⟨text, id, thread, query, rfl, hdecode, hleast⟩⟩
    · exact ⟨_, true, by rw [← hopen]; rfl,
        .reply (elapsed clock.now reply.clock.now) hdecode hreply
          fun _ => Server.requestId?_of_handle hreply⟩
    · exact ⟨_, true, by rw [← hopen]; rfl,
        .invalid (elapsed clock.now clock.now) hdecode e.message⟩
  | binary octets =>
    obtain rfl := Option.some.inj h
    exact ⟨_, true, by rw [← hopen]; rfl, .unsupported octets⟩
  | ping payload =>
    obtain rfl := Option.some.inj h
    exact ⟨_, true, by rw [← hopen]; rfl, .pong payload⟩
  | pong payload =>
    obtain rfl := Option.some.inj h
    exact ⟨[], true, hsilent, .silence payload⟩
  | close =>
    obtain rfl := Option.some.inj h
    exact ⟨[], false, hended, .ended (by simp)⟩
  | finished =>
    obtain rfl := Option.some.inj h
    exact ⟨[], false, hended, .ended (by simp)⟩
  | lost =>
    obtain rfl := Option.some.inj h
    refine ⟨[], false, hended, ?_⟩
    simp only [finish, Server.closeSession_record]
    exact .lost

/-- It is only a message for which an identifier has to be minted that may not be answered. -/
theorem send_of_receive_eq_none {incoming : Incoming}
    (h : c.receive s clock incoming = none) :
    ∃ text id thread name members body, incoming = .text text ∧
      ClientFrame.decode text = .ok (.send id thread name members body) ∧
      s.generator.mint clock = none := by
  cases incoming with
  | text text =>
    have h : c.answer s clock text = none := h
    rw [answer] at h
    cases hdecode : ClientFrame.decode text with
    | ok frame =>
      simp only [hdecode] at h
      split at h
      next => cases h
      next hstops =>
        obtain ⟨id, thread, name, members, body, rfl, hmint⟩ :=
          Server.send_of_handle_eq_none (Bool.eq_false_iff.2 hstops) (Option.map_eq_none_iff.1 h)
        exact ⟨text, id, thread, name, members, body, rfl, hdecode, hmint⟩
    | error e =>
      simp only [hdecode] at h
      cases h
  | _ => cases h

/-- A round in which something is taken up from the client. -/
theorem step_of_inbox (hopen : c.isOpen = true) (hframes : (s.queue c.session).frames = [])
    (hclosed : (s.queue c.session).closed = false) {incoming : Incoming} {inbox : List Incoming}
    (hinbox : c.inbox = incoming :: inbox) (clock : Clock) :
    c.deed? s = some (.take incoming) ∧
      c.step s clock = { c with inbox }.receive s clock incoming := by
  simp [deed?, step, hopen, hframes, hclosed, hinbox]

/-- **Whatever a round does is proper.** -/
theorem performs (h : c.step s clock = some turn) :
    c.act? s clock = none ∧ turn.connection = c ∧ turn.server = s ∨
      ∃ act, c.Performs s clock turn act := by
  have hidle (hdeed : c.deed? s = none)
      (hstep : c.step s clock = some { connection := c, server := s, clock }) :
      c.act? s clock = none ∧ turn.connection = c ∧ turn.server = s := by
    obtain rfl := Option.some.inj (h.symm.trans hstep)
    exact ⟨by rw [act?, hdeed]; rfl, rfl, rfl⟩
  cases hopen : c.isOpen with
  | false => exact .inl (hidle (by simp [deed?, hopen]) (step_of_not_isOpen hopen s clock))
  | true =>
    cases hframes : (s.queue c.session).frames with
    | cons frame frames =>
      have hdeed : c.deed? s = some (.push frame) := by simp [deed?, hopen, hframes]
      have hstep := step_of_frames hopen hframes clock
      obtain rfl := Option.some.inj (h.symm.trans hstep)
      have hwrite : c.write (.frame frame) =
          { c with written := c.written ++ [.frame frame], isOpen := true } := by
        rw [← hopen]
        rfl
      exact .inr ⟨_, performs_of_deed? hopen hdeed hstep hwrite rfl (.push hframes)⟩
    | nil =>
      cases hclosed : (s.queue c.session).closed with
      | true =>
        have hdeed : c.deed? s = some .displaced := by simp [deed?, hopen, hframes, hclosed]
        have hstep := step_of_closed hopen hframes hclosed clock
        obtain rfl := Option.some.inj (h.symm.trans hstep)
        exact .inr ⟨_, performs_of_deed? hopen hdeed hstep rfl rfl (.displaced hframes hclosed)⟩
      | false =>
        cases hinbox : c.inbox with
        | nil =>
          exact .inl (hidle (by simp [deed?, hopen, hframes, hclosed, hinbox])
            (by simp [step, hopen, hframes, hclosed, hinbox]))
        | cons incoming inbox =>
          obtain ⟨hdeed, hstep⟩ := step_of_inbox hopen hframes hclosed hinbox clock
          obtain ⟨written, goesOn, hconnection, houtcome⟩ :=
            outcome_of_receive (c := { c with inbox }) hopen (hstep.symm.trans h)
          exact .inr ⟨_, performs_of_deed? hopen hdeed h hconnection hinbox houtcome⟩

/-- There is no outcome only if an identifier has to be minted for a message and the readings of the
clock end meanwhile. -/
theorem send_of_step_eq_none (h : c.step s clock = none) :
    ∃ text id thread name members body, c.deed? s = some (.take (.text text)) ∧
      ClientFrame.decode text = .ok (.send id thread name members body) ∧
      s.generator.mint clock = none := by
  cases hopen : c.isOpen with
  | false => exact nomatch h.symm.trans (step_of_not_isOpen hopen s clock)
  | true =>
    cases hframes : (s.queue c.session).frames with
    | cons frame frames => exact nomatch h.symm.trans (step_of_frames hopen hframes clock)
    | nil =>
      cases hclosed : (s.queue c.session).closed with
      | true => exact nomatch h.symm.trans (step_of_closed hopen hframes hclosed clock)
      | false =>
        cases hinbox : c.inbox with
        | nil => simp [step, hopen, hframes, hclosed, hinbox] at h
        | cons incoming inbox =>
          obtain ⟨hdeed, hstep⟩ := step_of_inbox hopen hframes hclosed hinbox clock
          obtain ⟨text, id, thread, name, members, body, rfl, hdecode, hmint⟩ :=
            send_of_receive_eq_none (hstep.symm.trans h)
          exact ⟨text, id, thread, name, members, body, hdeed, hdecode, hmint⟩

end Connection

/-! ## Queues -/

/-- To close a session leaves what is queued. -/
theorem Server.frames_closeSession (s : Server) (user : UserId) (own session : SessionId) :
    ((s.closeSession user own).queue session).frames = (s.queue session).frames := by
  rw [queue, queue, queue?_closeSession]
  split
  · cases s.queue? session <;> rfl
  · rfl

/-- To open a session leaves what is queued for the others. -/
theorem Server.frames_openSession (s : Server) (now : Millis) (user : UserId)
    (address : Option String) {new session : SessionId} (hne : new ≠ session) :
    ((s.openSession now user address new).queue session).frames = (s.queue session).frames := by
  rw [queue, queue, queue?_openSession, if_neg hne]
  split
  · cases s.queue? session <;> rfl
  · rfl

namespace Deed.Outcome

variable {user : UserId} {own session : SessionId} {clock : Clock} {before after : Server}
  {deed : Deed} {written : List Outgoing} {goesOn : Bool}

/-- **A round does to the queues what it says**: what it takes from a queue was at its front, and
what it puts into one comes to its end. -/
theorem frames (h : deed.Outcome user own clock before written after goesOn) {events : List Event}
    (hinStep : Server.InStep events before) (hsession : session ∈ Server.opened events) :
    (if own = session then deed.pushed?.toList else []) ++ (after.queue session).frames =
      (before.queue session).frames ++ before.mail (deed.postings before clock user) session := by
  have hkept := before.frames_closeSession user own session
  cases h with
  | @push frame frames hframes =>
    obtain ⟨q, hq, -⟩ := hinStep.queues session hsession
    rw [show postings before clock user (.push frame) = [] from rfl, Server.mail,
      List.filterMap_nil, List.append_nil, Server.queue, Server.queue?_modifyQueue]
    by_cases hown : own = session
    · subst hown
      rw [if_pos rfl, if_pos rfl, hframes, hq]
      rfl
    · rw [if_neg hown, if_neg hown]
      rfl
  | reply seconds hdecode hreply hid =>
    have hposts := hinStep.frames_posts (Server.handle_postings hreply) hsession
    simpa [postings, hdecode, pushed?] using hposts
  | invalid seconds hdecode message => simp [postings, hdecode, pushed?, Server.mail]
  | stopped hstops =>
    obtain ⟨text, id, thread, query, rfl, hdecode, -⟩ := hstops
    simp [postings, hdecode, pushed?, Server.mail, Server.postings]
  | unsupported octets => simp [postings, pushed?, Server.mail]
  | pong payload => simp [postings, pushed?, Server.mail]
  | silence payload => simp [postings, pushed?, Server.mail]
  | displaced hframes hclosed => simpa [postings, pushed?, Server.mail] using hkept
  | ended hlast =>
    rcases hlast with rfl | rfl <;> simpa [postings, pushed?, Server.mail] using hkept
  | lost => simpa [postings, pushed?, Server.mail] using hkept

/-- The gauge of connections goes down by one if the connection ends. -/
theorem activeConnections (h : deed.Outcome user own clock before written after goesOn) :
    after.metrics.activeConnections =
      before.metrics.activeConnections - if goesOn then 0 else 1 := by
  have hended (change : Metrics → Metrics)
      (hchange : ∀ m, (change m).activeConnections = m.activeConnections - 1) :
      ((before.closeSession user own).record change).metrics.activeConnections =
        before.metrics.activeConnections - 1 := by
    rw [← before.closeSession_metrics user own]
    exact hchange _
  cases h with
  | reply seconds hdecode hreply hid =>
    have hmetrics := congrArg Metrics.activeConnections (Server.handle_metrics hreply)
    exact hmetrics.trans (Int.sub_zero _).symm
  | displaced => exact hended _ Metrics.activeConnections_disconnection
  | ended => exact hended _ Metrics.activeConnections_disconnection
  | lost => exact hended _ fun m => (m.error .webSocket).activeConnections_disconnection
  | stopped => exact before.metrics.activeConnections_disconnection
  | _ => exact (Int.sub_zero _).symm

/-- A round gives nobody an outbox. -/
theorem outbox?_of_some (h : deed.Outcome user own clock before written after goesOn)
    {user' : UserId} (hafter : after.outbox? user' = some session) :
    before.outbox? user' = some session := by
  have hclosed (hsome : (before.closeSession user own).outbox? user' = some session) :
      before.outbox? user' = some session := by
    rw [Server.outbox?_closeSession] at hsome
    split at hsome
    · cases hsome
    · exact hsome
  cases h with
  | reply seconds hdecode hreply hid =>
    exact ((Server.handle_postings hreply).outbox? user').symm.trans hafter
  | displaced => exact hclosed hafter
  | ended => exact hclosed hafter
  | lost => exact hclosed hafter
  | _ => exact hafter

/-- A connection that ends takes its session out of the outboxes, unless the program has stopped. -/
theorem outbox?_ne (h : deed.Outcome user own clock before written after false)
    (hgoesOn : ¬deed.Stops before clock) : after.outbox? user ≠ some own := by
  have hclosed : (before.closeSession user own).outbox? user ≠ some own := by
    rw [Server.outbox?_closeSession]
    split
    next => exact nofun
    next hkept => exact fun houtbox => hkept ⟨rfl, houtbox⟩
  cases h with
  | stopped hstops => exact absurd hstops hgoesOn
  | _ => exact hclosed

/-- **A connection whose session was replaced ends without a trace** but in the metrics. -/
theorem eq_of_not_live (h : deed.Outcome user own clock before written after false)
    (hname : before.registry.name? user ≠ some own)
    (houtbox : before.outbox? user ≠ some own) :
    after = { before with metrics := after.metrics } := by
  have hkept := Server.closeSession_of_not_live hname houtbox
  cases h with
  | stopped => rfl
  | displaced => rw [hkept]; rfl
  | ended => rw [hkept]; rfl
  | lost => rw [hkept]; rfl

end Deed.Outcome

/-- What a connection does in a round is done to the queues. -/
theorem Connection.Performs.frames {c : Connection} {s : Server} {clock : Clock} {turn : Turn}
    {act : Act} {session : SessionId} (h : c.Performs s clock turn act) {events : List Event}
    (hinStep : Server.InStep events s) (hsession : session ∈ Server.opened events) :
    (if c.session = session then act.deed.pushed?.toList else []) ++
        (turn.server.queue session).frames =
      (s.queue session).frames ++ act.mail c.user session := by
  rw [Act.mail, h.before]
  exact h.outcome.frames hinStep hsession

end ChatRelay

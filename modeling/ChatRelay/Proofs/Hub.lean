import Mathlib.Data.List.Induction
import ChatRelay.Hub
import ChatRelay.Proofs.Connection

/-!
# Every interleaving of connections

Connections are accepted, clients send, and connections take turns, in any order (`Hub.Move`). What
a client sends is looked at only while the registry and the outboxes name its connection's session:
a round comes to it only if the session's queue is open, and the open queues are those of the live
sessions (`Hub.InStep`). A connection that is replaced writes what was queued for it and the end,
whatever happens in between (`Draining`), and changes nothing for anybody else
(`taken_only_while_live`).
-/

namespace ChatRelay

/-- Whose connection it is, and of which session. -/
def Connection.owner (c : Connection) : UserId × SessionId := (c.user, c.session)

namespace Hub

/-- A write to the client of a connection fails, which ends the connection. -/
def fail (hub : Hub) (i : Nat) (clock : Clock) : Hub :=
  match hub.connections[i]? with
  | none => hub
  | some c =>
    if c.isOpen then
      let turn := c.finish hub.server clock
      { hub with server := turn.server, connections := hub.connections.set i turn.connection }
    else hub

/-- Something that happens at a hub. -/
inductive Move where
  | accept (now : Millis) (user : UserId) (address : Option String) (session : SessionId)
  /-- Something comes from the client of a connection. -/
  | send (i : Nat) (incoming : Incoming)
  /-- A connection has a round; `clock` shows the time in it. -/
  | round (i : Nat) (clock : Clock)
  /-- What a connection has written does not reach its client. -/
  | fail (i : Nat) (clock : Clock)
  deriving DecidableEq, Repr

/-- What a move brings about. There is no outcome, `none`, only if the readings of the clock end
while an identifier is minted. -/
def move (hub : Hub) : Move → Option Hub
  | .accept now user address session => some (hub.accept now user address session)
  | .send i incoming => some (hub.send i incoming)
  | .round i clock => (hub.step clock i).map (·.1)
  | .fail i clock => some (hub.fail i clock)

/-- The hub after some moves, one after the other. -/
def moveAll (hub : Hub) (moves : List Move) : Option Hub := moves.foldlM move hub

/-- The name of the session that a move opens. -/
def Move.session? : Move → Option SessionId
  | .accept _ _ _ session => some session
  | _ => none

/-- The names of the sessions that some moves open. -/
def accepted (moves : List Move) : List SessionId := moves.filterMap Move.session?

/-- What a move brings from the client of a connection. -/
def Move.incoming? (i : Nat) : Move → Option Incoming
  | .send j incoming => if j = i then some incoming else none
  | _ => none

/-- What comes from the client of a connection in some moves. -/
def sent (i : Nat) (moves : List Move) : List Incoming := moves.filterMap (Move.incoming? i)

/-- Whether a move is a round of a connection. -/
def Move.isRound (i : Nat) : Move → Bool
  | .round j _ => j = i
  | _ => false

/-- How many rounds of a connection are among some moves. -/
def rounds (i : Nat) (moves : List Move) : Nat := moves.countP (Move.isRound i)

variable {hub hub' hub₀ : Hub} {moves later : List Move} {m : Move} {events : List Event}
  {i j : Nat} {c c' : Connection} {clock : Clock} {s' : Server}

theorem moveAll_cons_eq_some_iff : hub.moveAll (m :: moves) = some hub' ↔
    ∃ middle, hub.move m = some middle ∧ middle.moveAll moves = some hub' := by
  simp [moveAll, Option.bind_eq_some_iff]

theorem moveAll_concat_eq_some_iff : hub.moveAll (moves ++ [m]) = some hub' ↔
    ∃ middle, hub.moveAll moves = some middle ∧ middle.move m = some hub' := by
  simp [moveAll, List.foldlM_append, Option.bind_eq_some_iff]

/-- **What holds at the start and is kept by every move holds after all moves.** -/
theorem moveAll_induct {P : List Move → Hub → Prop} (h : hub₀.moveAll moves = some hub')
    (hstart : P [] hub₀)
    (hmove : ∀ moves hub m hub', hub₀.moveAll moves = some hub → P moves hub →
      hub.move m = some hub' → P (moves ++ [m]) hub') : P moves hub' := by
  induction moves using List.reverseRecOn generalizing hub' with
  | nil =>
    obtain rfl := Option.some.inj h
    exact hstart
  | append_singleton moves m ih =>
    obtain ⟨middle, hmiddle, hlast⟩ := moveAll_concat_eq_some_iff.1 h
    exact hmove moves middle m hub' hmiddle (ih hmiddle) hlast

theorem accepted_append : accepted (moves ++ later) = accepted moves ++ accepted later :=
  List.filterMap_append

theorem accepted_concat : accepted (moves ++ [m]) = accepted moves ++ m.session?.toList := by
  rw [accepted_append, accepted, accepted, List.filterMap_cons]
  cases m.session? <;> rfl

theorem sent_concat : sent i (moves ++ [m]) = sent i moves ++ (m.incoming? i).toList := by
  rw [sent, List.filterMap_append, List.filterMap_cons]
  cases m.incoming? i <;> rfl

theorem rounds_concat :
    rounds i (moves ++ [m]) = rounds i moves + if m.isRound i then 1 else 0 := by
  rw [rounds, List.countP_append, List.countP_singleton]
  rfl

/-- What comes from a client changes nothing of its connection but what was not read. -/
theorem map_send {A : Type} (hub : Hub) (f : Connection → A)
    (hf : ∀ (c : Connection) inbox, f { c with inbox } = f c) (i : Nat) (incoming : Incoming) :
    (hub.send i incoming).connections.map f = hub.connections.map f := by
  refine List.ext_getElem? fun k => ?_
  simp only [send, List.getElem?_map, List.getElem?_modify, Option.map_eq_map, Option.map_map]
  refine congrArg (Option.map · _) (funext fun d => ?_)
  rw [Function.comp_apply]
  split
  · exact hf d _
  · rfl

/-! ## The invariant -/

/-- A hub whose sessions are in step with some events, in which each of its connections was opened
for its user. -/
structure InStep (events : List Event) (hub : Hub) : Prop where
  server : Server.InStep events hub.server
  sessions : hub.connections.map (·.session) = Server.opened events
  users : ∀ c ∈ hub.connections, ∃ now address,
    .opening now c.user address c.session ∈ events

namespace InStep

theorem mem_opened (h : InStep events hub) (hi : hub.connections[i]? = some c) :
    c.session ∈ Server.opened events :=
  h.sessions ▸ List.mem_map_of_mem (List.mem_of_getElem? hi)

/-- A connection's queue is open if its session is its user's live one, and closed otherwise. -/
theorem closed_iff (h : InStep events hub) (hfresh : (Server.opened events).Nodup)
    (hi : hub.connections[i]? = some c) : ∃ q, hub.server.queue? c.session = some q ∧
      (q.closed = false ↔ hub.server.outbox? c.user = some c.session) := by
  obtain ⟨q, hq, -, hclosed⟩ := h.server.queues c.session (h.mem_opened hi)
  refine ⟨q, hq, hclosed.trans ⟨?_, fun houtbox => ⟨c.user, houtbox⟩⟩⟩
  rintro ⟨user, huser⟩
  obtain ⟨now, address, hmem⟩ := ((h.server.live user c.session).1 huser).exists_opening
  obtain ⟨now', address', hmem'⟩ := h.users c (List.mem_of_getElem? hi)
  obtain rfl := Server.user_of_opening hfresh hmem hmem'
  exact huser

/-- A session that its own user's outbox does not name is nobody's. -/
theorem outbox?_ne (h : InStep events hub) (hfresh : (Server.opened events).Nodup)
    (hi : hub.connections[i]? = some c) (hgone : hub.server.outbox? c.user ≠ some c.session)
    (user : UserId) : hub.server.outbox? user ≠ some c.session := by
  intro houtbox
  obtain ⟨q, hq, -, hopen⟩ := h.server.queue_of_outbox? houtbox
  obtain ⟨q', hq', howner⟩ := h.closed_iff hfresh hi
  obtain rfl := Option.some.inj (hq.symm.trans hq')
  exact hgone (howner.1 hopen)

/-- Different connections have different sessions. -/
theorem index_eq (h : InStep events hub) (hfresh : (Server.opened events).Nodup)
    (hi : hub.connections[i]? = some c) (hj : hub.connections[j]? = some c')
    (hsession : c.session = c'.session) : i = j := by
  rw [← h.sessions] at hfresh
  obtain ⟨hi', -⟩ := List.getElem?_eq_some_iff.1 hi
  refine (List.getElem?_inj (by simpa using hi') hfresh).1 ?_
  rw [List.getElem?_map, List.getElem?_map, hi, hj, Option.map_some, Option.map_some, hsession]

/-- Connections keep their users and their sessions. -/
theorem of_owners (h : InStep events hub) {served : List ChatRelay.Event}
    (hserver : Server.InStep (events ++ served) hub'.server) (hopens : Server.opened served = [])
    (howners : hub'.connections.map Connection.owner = hub.connections.map Connection.owner) :
    InStep (events ++ served) hub' where
  server := hserver
  sessions := by
    have hsessions := congrArg (List.map Prod.snd) howners
    rw [List.map_map, List.map_map] at hsessions
    rw [Server.opened_append, hopens, List.append_nil, ← h.sessions]
    exact hsessions
  users c hc := by
    have hmem : c.owner ∈ hub.connections.map Connection.owner :=
      howners ▸ List.mem_map_of_mem hc
    obtain ⟨d, hd, howner⟩ := List.mem_map.1 hmem
    obtain ⟨huser, hsession⟩ := Prod.mk.inj howner
    obtain ⟨now, address, hopening⟩ := h.users d hd
    exact ⟨now, address, List.mem_append_left _ (huser ▸ hsession ▸ hopening)⟩

/-- What happens to one connection keeps the hub in step. -/
theorem serves (h : InStep events hub) (hfresh : (Server.opened events).Nodup)
    (hi : hub.connections[i]? = some c) (howner : c'.owner = c.owner)
    {served : List ChatRelay.Event} (hserves : hub.server.Serves c.session served s') :
    InStep (events ++ served)
      { hub with server := s', connections := hub.connections.set i c' } := by
  refine h.of_owners (hserves.inStep events h.server hfresh) hserves.opens ?_
  rw [List.map_set, howner]
  refine List.ext_getElem? fun k => ?_
  rw [List.getElem?_set, List.length_map]
  split
  next hk =>
    obtain ⟨hlt, -⟩ := List.getElem?_eq_some_iff.1 hi
    rw [if_pos hlt, ← hk, List.getElem?_map, hi, Option.map_some]
  next => rfl

/-- **Every move keeps the hub in step**, if it opens no session of a name that is taken. -/
theorem move (h : InStep events hub) (hfresh : (Server.opened events ++ m.session?.toList).Nodup)
    (hmove : hub.move m = some hub') :
    ∃ served, InStep (events ++ served) hub' ∧ Server.opened served = m.session?.toList := by
  have hold : (Server.opened events).Nodup := (List.nodup_append.1 hfresh).1
  cases m with
  | accept now user address session =>
    obtain rfl := Option.some.inj hmove
    refine ⟨[.opening now user address session], ⟨?_, ?_, ?_⟩, rfl⟩
    · have hrecorded : Server.InStep events (hub.server.record (·.connection)) :=
        ⟨h.server.names, h.server.live, h.server.queues⟩
      refine hrecorded.opening now user address session ?_
      rwa [Server.opened_concat]
    · rw [Server.opened_append, ← h.sessions]
      exact List.map_append
    · intro d hd
      rcases List.mem_append.1 hd with hd | hd
      · obtain ⟨now', address', hmem⟩ := h.users d hd
        exact ⟨now', address', List.mem_append_left _ hmem⟩
      · obtain rfl := List.mem_singleton.1 hd
        exact ⟨now, address, by simp [Connection.write]⟩
  | send i incoming =>
    obtain rfl := Option.some.inj hmove
    have howners := hub.map_send Connection.owner (fun _ _ => rfl) i incoming
    exact ⟨[], h.of_owners (by rw [List.append_nil]; exact h.server) rfl howners, rfl⟩
  | round i clock =>
    obtain ⟨⟨_, clock'⟩, hstep, rfl⟩ := Option.map_eq_some_iff.1 hmove
    rw [step] at hstep
    split at hstep
    next =>
      obtain ⟨rfl, -⟩ := Prod.mk.inj (Option.some.inj hstep)
      exact ⟨[], by rwa [List.append_nil], rfl⟩
    next c hi =>
      obtain ⟨turn, hturn, hhub⟩ := Option.map_eq_some_iff.1 hstep
      obtain ⟨rfl, -⟩ := Prod.mk.inj hhub
      obtain ⟨huser, hsession, served, hserves⟩ := Connection.step_serves hturn
      have howner : turn.connection.owner = c.owner := Prod.ext huser hsession
      exact ⟨served, h.serves hold hi howner hserves, hserves.opens⟩
  | fail i clock =>
    obtain rfl := Option.some.inj hmove
    have hsame : ∃ served, InStep (events ++ served) hub ∧ Server.opened served = [] :=
      ⟨[], by rwa [List.append_nil], rfl⟩
    rw [fail]
    split
    next => exact hsame
    next c hi =>
      split
      · have hserves := c.finish_serves hub.server clock
        have howner : (c.finish hub.server clock).connection.owner = c.owner := rfl
        exact ⟨_, h.serves hold hi howner hserves, hserves.opens⟩
      · exact hsame

/-- Moves keep the hub in step, if no two sessions have one name. -/
theorem moveAll (h : InStep events hub) (hrun : hub.moveAll moves = some hub')
    (hfresh : (Server.opened events ++ accepted moves).Nodup) :
    ∃ served, InStep (events ++ served) hub' ∧ Server.opened served = accepted moves := by
  refine moveAll_induct (P := fun moves hub' => (Server.opened events ++ accepted moves).Nodup →
    ∃ served, InStep (events ++ served) hub' ∧ Server.opened served = accepted moves) hrun ?_ ?_
    hfresh
  · exact fun _ => ⟨[], by rwa [List.append_nil], rfl⟩
  · intro moves hub m hub' _ ih hmove hfresh
    rw [accepted_concat, ← List.append_assoc] at hfresh
    obtain ⟨served, hserved, hopened⟩ := ih (List.nodup_append.1 hfresh).1
    rw [← hopened, ← Server.opened_append] at hfresh
    obtain ⟨last, hlast, hopened'⟩ := hserved.move hfresh hmove
    refine ⟨served ++ last, by rwa [← List.append_assoc], ?_⟩
    rw [Server.opened_append, accepted_concat, hopened, hopened']

/-- **What every move keeps while the hub is in step holds after all moves.** -/
theorem induct {P : List Move → Hub → Prop} (h : InStep events hub)
    (hrun : hub.moveAll moves = some hub') (hfresh : (Server.opened events ++ accepted moves).Nodup)
    (hstart : P [] hub)
    (hmove : ∀ served before middle m hub', hub.moveAll before = some middle →
      InStep (events ++ served) middle →
      (Server.opened (events ++ served) ++ m.session?.toList).Nodup → P before middle →
      middle.move m = some hub' → P (before ++ [m]) hub') : P moves hub' := by
  refine moveAll_induct (P := fun moves hub' => (Server.opened events ++ accepted moves).Nodup →
    P moves hub') hrun (fun _ => hstart) ?_ hfresh
  intro before middle m hub' hbefore ih hlast hfresh
  rw [accepted_concat, ← List.append_assoc] at hfresh
  have hold := (List.nodup_append.1 hfresh).1
  obtain ⟨served, hserved, hopened⟩ := h.moveAll hbefore hold
  rw [← hopened, ← Server.opened_append] at hfresh
  exact hmove served before middle m hub' hbefore hserved hfresh (ih hold) hlast

end InStep

/-- A hub starts with a server that has started, and without connections. -/
theorem start_eq_ok {config : Config} {host : Host} {now : Millis}
    (h : start config host now = .ok hub₀) :
    Server.start config host now = .ok hub₀.server ∧ hub₀.connections = [] := by
  rw [start] at h
  cases hserver : Server.start config host now with
  | error e =>
    rw [hserver] at h
    cases h
  | ok server =>
    rw [hserver] at h
    simp only [bind, Except.bind] at h
    split at h
    · cases h
    · split at h
      · obtain rfl := Except.ok.inj h
        exact ⟨rfl, rfl⟩
      · cases h

theorem inStep_start {config : Config} {host : Host} {now : Millis}
    (h : start config host now = .ok hub₀) : InStep [] hub₀ := by
  obtain ⟨hserver, hconnections⟩ := start_eq_ok h
  refine ⟨Server.inStep_start hserver, ?_, ?_⟩
  · rw [hconnections]
    rfl
  · rw [hconnections]
    exact fun c hc => absurd hc List.not_mem_nil

/-! ## Connections that are replaced -/

theorem step_of_getElem? (hi : hub.connections[i]? = some c) (clock : Clock) :
    hub.step clock i = (c.step hub.server clock).map fun turn =>
      ({ hub with server := turn.server, connections := hub.connections.set i turn.connection },
        turn.clock) := by
  rw [step, hi]

/-- A connection whose session was replaced while `frames` were queued for it, and some moves since
then: it has taken nothing from its client, and each of its rounds has written one frame more until
the end was written. -/
structure Draining (i : Nat) (c : Connection) (frames : List ServerFrame) (later : List Move)
    (hub : Hub) : Prop where
  connection : hub.connections[i]? = some (c.drained frames (sent i later) (rounds i later))
  queue : hub.server.queue? c.session = some
    { frames := frames.drop (rounds i later), closed := true }

namespace Draining

variable {frames : List ServerFrame}

/-- A round of the connection. -/
theorem round (h : Draining i c frames later hub) {clock' : Clock}
    (hstep : hub.step clock i = some (hub', clock')) :
    Draining i c frames (later ++ [.round i clock]) hub' := by
  have hlength : i < hub.connections.length := (List.getElem?_eq_some_iff.1 h.connection).1
  have hrounds : rounds i (later ++ [.round i clock]) = rounds i later + 1 := by
    simp [rounds_concat, Move.isRound]
  have hsent : sent i (later ++ [.round i clock]) = sent i later := by
    simp [sent_concat, Move.incoming?]
  obtain ⟨turn, hturn, hconnection, hqueue⟩ :=
    Connection.step_drained h.queue clock (sent i later)
  rw [step_of_getElem? h.connection, hturn] at hstep
  obtain ⟨rfl, -⟩ := Prod.mk.inj (Option.some.inj hstep)
  constructor
  · rw [hrounds, hsent, ← hconnection]
    exact List.getElem?_set_self hlength
  · rwa [hrounds]

/-- A move that is none of the connection's and leaves its queue alone. -/
theorem aside (h : Draining i c frames later hub) (hsent : m.incoming? i = none)
    (hround : m.isRound i = false) (hconnection : hub'.connections[i]? = hub.connections[i]?)
    (hqueue : hub'.server.queue? c.session = hub.server.queue? c.session) :
    Draining i c frames (later ++ [m]) hub' where
  connection := by
    rw [sent_concat, rounds_concat, hsent, hround, Option.toList_none, List.append_nil]
    exact hconnection.trans h.connection
  queue := by
    rw [rounds_concat, hround]
    exact hqueue.trans h.queue

/-- What another connection does. -/
theorem other (h : Draining i c frames later hub) (hinStep : InStep events hub)
    (hfresh : (Server.opened events).Nodup) (hother : j ≠ i)
    (hj : hub.connections[j]? = some c') {served : List ChatRelay.Event}
    (hserves : hub.server.Serves c'.session served s') (d : Connection)
    (hsent : m.incoming? i = none) (hround : m.isRound i = false) :
    Draining i c frames (later ++ [m])
      { hub with server := s', connections := hub.connections.set j d } := by
  have hne : c.session ≠ c'.session := fun heq =>
    hother (hinStep.index_eq hfresh hj h.connection heq.symm)
  have hqueue := hserves.closed c.session _ hne h.queue rfl
  exact h.aside hsent hround (List.getElem?_set_ne hother) (hqueue.trans h.queue.symm)

/-- **Every move keeps it draining**, unless a write of the connection fails. -/
theorem move (h : Draining i c frames later hub) (hinStep : InStep events hub)
    (hfresh : (Server.opened events ++ m.session?.toList).Nodup)
    (hfails : ∀ clock, m ≠ .fail i clock) (hmove : hub.move m = some hub') :
    Draining i c frames (later ++ [m]) hub' := by
  have hold : (Server.opened events).Nodup := (List.nodup_append.1 hfresh).1
  cases m with
  | accept now user address session =>
    obtain rfl := Option.some.inj hmove
    refine h.aside rfl rfl (List.getElem?_append_left
      (List.getElem?_eq_some_iff.1 h.connection).1) ?_
    have hopened : (c.drained frames (sent i later) (rounds i later)).session ∈
        Server.opened events := hinStep.mem_opened h.connection
    have hne : session ≠ c.session := fun heq =>
      (List.nodup_append.1 hfresh).2.2 _ hopened session (List.mem_singleton_self session) heq.symm
    have hstep : (hub.server.record (·.connection)).step (.opening now user address session) =
        some (_, _) := rfl
    exact (Server.closed_step (s := hub.server.record (·.connection)) h.queue rfl hstep
      (mt Option.some.inj hne)).trans h.queue.symm
  | send j incoming =>
    obtain rfl := Option.some.inj hmove
    by_cases hj : j = i
    · subst hj
      have hsent : sent j (later ++ [.send j incoming]) = sent j later ++ [incoming] := by
        simp [sent_concat, Move.incoming?]
      have hrounds : rounds j (later ++ [.send j incoming]) = rounds j later := rounds_concat
      constructor
      · rw [hsent, hrounds]
        simp [Hub.send, h.connection, Connection.drained]
      · rw [hrounds]
        exact h.queue
    · refine h.aside (if_neg hj) rfl ?_ rfl
      simp [Hub.send, hj]
  | round j clock =>
    obtain ⟨⟨_, clock'⟩, hstep, rfl⟩ := Option.map_eq_some_iff.1 hmove
    by_cases hj : j = i
    · subst hj
      exact h.round hstep
    · have hround : (Move.round j clock).isRound i = false := decide_eq_false hj
      rw [step] at hstep
      split at hstep
      next =>
        obtain ⟨rfl, -⟩ := Prod.mk.inj (Option.some.inj hstep)
        exact h.aside rfl hround rfl rfl
      next c' hc' =>
        obtain ⟨turn, hturn, hhub⟩ := Option.map_eq_some_iff.1 hstep
        obtain ⟨rfl, -⟩ := Prod.mk.inj hhub
        obtain ⟨-, -, served, hserves⟩ := Connection.step_serves hturn
        exact h.other hinStep hold hj hc' hserves turn.connection rfl hround
  | fail j clock =>
    obtain rfl := Option.some.inj hmove
    have hj : j ≠ i := fun heq => hfails clock (heq ▸ rfl)
    have hsame : Draining i c frames (later ++ [.fail j clock]) hub := h.aside rfl rfl rfl rfl
    rw [Hub.fail]
    split
    next => exact hsame
    next c' hc' =>
      split
      · exact h.other hinStep hold hj hc' (c'.finish_serves hub.server clock) _ rfl rfl
      · exact hsame

/-- It keeps draining whatever happens in between. -/
theorem moveAll (h : Draining i c frames [] hub) (hinStep : InStep events hub)
    (hrun : hub.moveAll later = some hub')
    (hfresh : (Server.opened events ++ accepted later).Nodup)
    (hfails : ∀ clock, Move.fail i clock ∉ later) : Draining i c frames later hub' := by
  refine hinStep.induct (P := fun later hub' =>
    (∀ clock, Move.fail i clock ∉ later) → Draining i c frames later hub') hrun hfresh
    (fun _ => h) ?_ hfails
  intro served later middle m hub' _ hserved hfresh ih hmove hfails
  have hdraining := ih fun clock hmem => hfails clock (List.mem_append_left _ hmem)
  exact hdraining.move hserved hfresh
    (fun clock heq => hfails clock (by simp [heq])) hmove

end Draining

/-- A live session that a newer one of its user replaces. -/
theorem InStep.draining (h : InStep events hub) (hi : hub.connections[i]? = some c)
    (hopen : c.isOpen = true) (houtbox : hub.server.outbox? c.user = some c.session)
    (now : Millis) (address : Option String) {session : SessionId} (hne : session ≠ c.session) :
    Draining i c (hub.server.queue c.session).frames []
      (hub.accept now c.user address session) := by
  obtain ⟨q, hq, habandoned, -⟩ := h.server.queue_of_outbox? houtbox
  constructor
  · have hlength : i < hub.connections.length := (List.getElem?_eq_some_iff.1 hi).1
    refine (List.getElem?_append_left hlength).trans ?_
    simp [hi, Connection.drained, sent, rounds, ← hopen]
  · show ((hub.server.record _).openSession now c.user address session).queue? c.session = _
    have houtbox : (hub.server.record (·.connection)).outbox? c.user = some c.session := houtbox
    have hq' : (hub.server.record (·.connection)).queue? c.session = some q := hq
    rw [Server.queue?_openSession, if_neg hne, if_pos houtbox, hq', Server.queue, hq]
    simp [Queue.close, habandoned, rounds]

/-- A round of a connection whose session is not live. -/
theorem InStep.step_of_displaced (h : InStep events hub) (hfresh : (Server.opened events).Nodup)
    (hi : hub.connections[i]? = some c)
    (hname : hub.server.registry.name? c.user ≠ some c.session) (clock : Clock) :
    ∃ hub', hub.step clock i = some (hub', clock) ∧
      (∃ c', hub'.connections[i]? = some c' ∧ c'.inbox = c.inbox) ∧
      hub'.server =
        { hub.server with queues := hub'.server.queues, metrics := hub'.server.metrics } ∧
      ∀ session, session ≠ c.session →
        hub'.server.queue? session = hub.server.queue? session := by
  have houtbox : hub.server.outbox? c.user ≠ some c.session := h.server.names c.user ▸ hname
  obtain ⟨q, hq, hopen⟩ := h.closed_iff hfresh hi
  have hclosed : (hub.server.queue c.session).closed = true := by
    rw [Server.queue, hq]
    exact Bool.not_eq_false _ ▸ mt hopen.1 houtbox
  obtain ⟨turn, hturn, hclock, hinbox, hserver, hqueues⟩ :=
    Connection.step_of_displaced hname houtbox hclosed clock
  refine ⟨{ hub with server := turn.server, connections := hub.connections.set i turn.connection },
    ?_, ⟨turn.connection, ?_, hinbox⟩, hserver, hqueues⟩
  · rw [step_of_getElem? hi, hturn, Option.map_some, hclock]
  · exact List.getElem?_set_self (List.getElem?_eq_some_iff.1 hi).1

/-- A connection whose session is not live ends without a trace but in the metrics. -/
theorem InStep.fail_of_displaced (h : InStep events hub) (hi : hub.connections[i]? = some c)
    (hname : hub.server.registry.name? c.user ≠ some c.session) (clock : Clock) :
    (hub.fail i clock).server =
      { hub.server with metrics := (hub.fail i clock).server.metrics } := by
  have houtbox : hub.server.outbox? c.user ≠ some c.session := h.server.names c.user ▸ hname
  simp only [fail, hi]
  split
  · simp only [Connection.finish, Server.closeSession_of_not_live hname houtbox]
    rfl
  · rfl

/-- **What a client sends is taken up only while its session is live**, whatever the connections of
a hub do in whatever order. A round takes something of what the client has sent only if the registry
and the outboxes name the connection's session; otherwise it changes nothing of the server but the
session's own queue and the metrics, and the end of the connection changes the metrics alone. A
connection whose session is replaced writes the frames that are queued, one in each of its rounds,
and then the end, and takes nothing any more. -/
theorem taken_only_while_live {config : Config} {host : Host} {now : Millis}
    (hstart : start config host now = .ok hub₀) (hrun : hub₀.moveAll moves = some hub)
    (hfresh : (accepted moves).Nodup) (hi : hub.connections[i]? = some c) :
    (∀ clock hub' clock' c', hub.step clock i = some (hub', clock') →
      hub'.connections[i]? = some c' → c'.inbox ≠ c.inbox →
        hub.server.registry.name? c.user = some c.session ∧
          hub.server.outbox? c.user = some c.session) ∧
    (hub.server.registry.name? c.user ≠ some c.session → ∀ clock, ∃ hub',
      hub.step clock i = some (hub', clock) ∧
      hub'.server =
        { hub.server with queues := hub'.server.queues, metrics := hub'.server.metrics } ∧
      (∀ session, session ≠ c.session →
        hub'.server.queue? session = hub.server.queue? session) ∧
      (hub.fail i clock).server =
        { hub.server with metrics := (hub.fail i clock).server.metrics }) ∧
    (c.isOpen = true → hub.server.registry.name? c.user = some c.session →
      ∀ now address session later hub',
        hub.moveAll (.accept now c.user address session :: later) = some hub' →
        (accepted (moves ++ .accept now c.user address session :: later)).Nodup →
        (∀ clock, .fail i clock ∉ later) →
          hub'.connections[i]? = some
            { c with
              inbox := c.inbox ++ sent i later
              written := c.written ++
                (Connection.lastWords (hub.server.queue c.session).frames).take (rounds i later)
              isOpen := rounds i later ≤ (hub.server.queue c.session).frames.length }) := by
  obtain ⟨events, hinStep, hopened⟩ := (inStep_start hstart).moveAll hrun hfresh
  rw [List.nil_append] at hinStep
  have hnames := hinStep.server.names c.user
  rw [← hopened] at hfresh
  refine ⟨fun clock hub' clock' c' hstep hc' hinbox => ?_, fun hname clock => ?_,
    fun hopen hname now address session later hub' hlater hfresh' hfails => ?_⟩
  · have hname : hub.server.registry.name? c.user = some c.session := by
      by_contra hname
      obtain ⟨_, hstep', ⟨d, hd, hsame⟩, -⟩ :=
        hinStep.step_of_displaced hfresh hi hname clock
      obtain ⟨rfl, -⟩ := Prod.mk.inj (Option.some.inj (hstep.symm.trans hstep'))
      obtain rfl := Option.some.inj (hc'.symm.trans hd)
      exact hinbox hsame
    exact ⟨hname, hnames ▸ hname⟩
  · obtain ⟨hub', hstep, -, hserver, hqueues⟩ := hinStep.step_of_displaced hfresh hi hname clock
    exact ⟨hub', hstep, hserver, hqueues, hinStep.fail_of_displaced hi hname clock⟩
  · have haccepted : accepted (moves ++ .accept now c.user address session :: later) =
        (Server.opened events ++ [session]) ++ accepted later := by
      rw [List.append_cons, accepted_append, accepted_concat, hopened]
      rfl
    rw [haccepted] at hfresh'
    have hfresh₁ := (List.nodup_append.1 hfresh').1
    have hne : session ≠ c.session := fun heq =>
      (List.nodup_append.1 hfresh₁).2.2 c.session (hinStep.mem_opened hi) session
        (List.mem_singleton_self session) heq.symm
    obtain ⟨middle, haccept, hlater⟩ := moveAll_cons_eq_some_iff.1 hlater
    obtain ⟨served, hserved, hopened'⟩ := hinStep.move
      (m := .accept now c.user address session) hfresh₁ haccept
    obtain rfl := Option.some.inj haccept
    have hdraining := hinStep.draining hi hopen (hnames ▸ hname) now address hne
    refine (hdraining.moveAll hserved hlater ?_ hfails).connection
    rwa [Server.opened_append, hopened']

/-- What has started with buckets of a second. -/
def secondsHub : Hub := { server := Server.secondsServer, webSocketPath := "/ws" }

/-- A connection that answers a ping. -/
def answered : List Move :=
  [.accept 1000 "ann" none "a1", .send 0 (.ping [1]), .round 0 ⟨1000, []⟩]

/-- It is replaced, and goes on beside the new one. -/
def replaced : List Move :=
  [.accept 1001 "ann" none "a2", .send 0 (.ping [2]), .send 1 (.ping [3]), .round 1 ⟨1001, []⟩,
    .round 0 ⟨1001, []⟩, .send 0 .close, .round 0 ⟨1002, []⟩]

/-- What the general statement says of it. -/
theorem taken_only_while_live_replaced :
    ∃ hub hub', secondsHub.moveAll answered = some hub ∧ hub.moveAll replaced = some hub' ∧
      hub'.connections[0]? = some
        { user := "ann", session := "a1", inbox := [.ping [2], .close]
          written := [.frame (.connected "a1" "ann"), .pong [1], .close], isOpen := false } := by
  have hstart : start Server.seconds {} 1000 = .ok secondsHub := rfl
  have hfirst : (secondsHub.moveAll answered).map (fun hub =>
      (hub.connections, hub.server.registry.name? "ann", (hub.server.queue "a1").frames)) = some
      ([{ user := "ann", session := "a1", written := [.frame (.connected "a1" "ann"), .pong [1]] }],
        some "a1", []) := by decide
  obtain ⟨hub, hrun, hfirst⟩ := Option.map_eq_some_iff.1 hfirst
  obtain ⟨hconnections, hnamed⟩ := Prod.mk.inj hfirst
  obtain ⟨hname, hframes⟩ := Prod.mk.inj hnamed
  have hlater : ((secondsHub.moveAll answered).bind (·.moveAll replaced)).isSome := by decide
  rw [hrun, Option.bind_some] at hlater
  obtain ⟨hub', hlater⟩ := Option.isSome_iff_exists.1 hlater
  have hi : hub.connections[0]? = some
      { user := "ann", session := "a1"
        written := [.frame (.connected "a1" "ann"), .pong [1]] } := by
    rw [hconnections]
    rfl
  obtain ⟨-, -, hdrained⟩ := taken_only_while_live hstart hrun (by decide) hi
  have hlast := hdrained rfl hname 1001 none "a2" _ hub' hlater (by decide) (by simp)
  rw [hframes] at hlast
  exact ⟨hub, hub', hrun, hlater, hlast⟩

end Hub

end ChatRelay

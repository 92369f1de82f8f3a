import ChatRelay.Proofs.Connection.Acts
import ChatRelay.Proofs.Hub

/-!
# The transcript of a connection

From the time at which it is accepted, a connection's acts are on record (`Hub.acts`), and so is
what is queued for its session, whoever brings that about (`Hub.mails`). `Transcript` says how these
agree with what was written, what was taken from the client and what is left in the queue. It is
kept by every move at the hub, and so are the gauge of connections (`Hub.Gauged`) and, unless the
program has stopped, the absence of a session that has ended from the outboxes. Together they say
what a connection does from its first frame to its end, whatever other connections do meanwhile
(`Hub.transcript_run`).
-/

namespace ChatRelay

/-! ## Transcripts -/

/-- How the acts of a user's connection agree with what has come from the client and with what was
queued for the session, if `frames` are still in the queue. -/
structure Transcript (user : UserId) (session : SessionId) (acts : List Act)
    (sent : List Incoming) (queued : List ServerFrame) (c : Connection)
    (frames : List ServerFrame) : Prop where
  owner : c.owner = (user, session)
  /-- The name of the session comes first, and then what the acts have written. -/
  written : c.written = .frame (.connected session user) :: acts.flatMap (·.written)
  /-- What has come is taken up once and in its order. -/
  taken : sent = acts.filterMap (·.deed.taken?) ++ c.inbox
  /-- What was queued is written once and in its order. -/
  pushed : queued = acts.filterMap (·.deed.pushed?) ++ frames
  proper : ∀ act ∈ acts, act.Proper user session
  /-- Nothing comes after the act that ends the connection. -/
  goesOn : acts.Pairwise fun act _ => act.goesOn = true
  isOpen : c.isOpen = acts.all (·.goesOn)
  /-- The end of a connection whose session was replaced leaves the newer session as it is. -/
  newer : ∀ act ∈ acts, act.goesOn = false → act.before.registry.name? user ≠ some session →
    act.after = { act.before with metrics := act.after.metrics }

namespace Transcript

variable {user : UserId} {session : SessionId} {acts : List Act} {sent : List Incoming}
  {queued mail frames frames' : List ServerFrame} {c : Connection}

/-- A connection that was accepted. -/
theorem accept (server : Server) (now : Millis) (user : UserId) (address : Option String)
    (session : SessionId) :
    Transcript user session [] [] [] (Connection.accept server now user address session).1 [] where
  owner := rfl
  written := rfl
  taken := rfl
  pushed := rfl
  proper _ hact := absurd hact List.not_mem_nil
  goesOn := .nil
  isOpen := rfl
  newer _ hact := absurd hact List.not_mem_nil

/-- Frames are queued for the session. -/
theorem aside (h : Transcript user session acts sent queued c frames)
    (hframes : frames' = frames ++ mail) :
    Transcript user session acts sent (queued ++ mail) c frames' :=
  { h with pushed := by rw [hframes, h.pushed, List.append_assoc] }

/-- Something comes from the client. -/
theorem send (h : Transcript user session acts sent queued c frames) (incoming : Incoming) :
    Transcript user session acts (sent ++ [incoming]) queued
      { c with inbox := c.inbox ++ [incoming] } frames :=
  { h with taken := by rw [h.taken, List.append_assoc] }

/-- **The connection acts.** -/
theorem act (h : Transcript user session acts sent queued c frames) {s : Server} {clock : Clock}
    {turn : Turn} {act : Act} (hperforms : c.Performs s clock turn act)
    (hnames : s.registry.name? user = s.outbox? user)
    (hframes : act.deed.pushed?.toList ++ frames' = frames ++ mail) :
    Transcript user session (acts ++ [act]) sent (queued ++ mail) turn.connection frames' := by
  obtain ⟨rfl, rfl⟩ := Prod.mk.inj h.owner
  have hearlier : ∀ act ∈ acts, act.goesOn = true := by
    have hopen := h.isOpen
    rwa [hperforms.isOpen, eq_comm, List.all_eq_true] at hopen
  constructor
  case owner =>
    rw [hperforms.connection]
    rfl
  case written =>
    rw [hperforms.connection, List.flatMap_append, List.flatMap_singleton, ← List.cons_append,
      ← h.written]
  case taken =>
    rw [h.taken, hperforms.inbox, List.filterMap_append, List.append_assoc]
    cases hdeed : act.deed.taken? <;> simp [hdeed]
  case pushed =>
    rw [h.pushed, List.append_assoc, ← hframes, List.filterMap_append, List.append_assoc]
    cases hdeed : act.deed.pushed? <;> simp [hdeed]
  case proper =>
    intro last hlast
    rcases List.mem_append.1 hlast with hlast | hlast
    · exact h.proper last hlast
    · obtain rfl := List.mem_singleton.1 hlast
      exact hperforms.proper
  case goesOn =>
    refine List.pairwise_append.2 ⟨h.goesOn, List.pairwise_singleton _ _, ?_⟩
    intro earlier hmem _ _
    exact hearlier earlier hmem
  case isOpen =>
    rw [hperforms.connection, List.all_append, List.all_eq_true.2 hearlier]
    simp
  case newer =>
    intro last hlast hends hname
    rcases List.mem_append.1 hlast with hlast | hlast
    · exact h.newer last hlast hends hname
    · obtain rfl := List.mem_singleton.1 hlast
      have houtcome := hperforms.outcome
      rw [hends] at houtcome
      rw [hperforms.before] at hname
      rw [hperforms.before, hperforms.after]
      exact houtcome.eq_of_not_live hname (hnames ▸ hname)

end Transcript

namespace Hub

/-! ## Records of a hub -/

/-- What a connection does in a move. -/
def act? (hub : Hub) (i : Nat) : Move → Option Act
  | .round j clock => if j = i then hub.connections[i]?.bind (·.act? hub.server clock) else none
  | _ => none

/-- The frames that a move queues for a session. -/
def mailed (hub : Hub) (session : SessionId) : Move → List ServerFrame
  | .round j clock =>
    (hub.connections[j]?.bind fun c =>
      (c.act? hub.server clock).map (·.mail c.user session)).getD []
  | _ => []

/-- Some moves, each with the hub before it. -/
def moments (hub : Hub) : List Move → List (Hub × Move)
  | [] => []
  | m :: moves =>
    (hub, m) ::
      match hub.move m with
      | some hub' => hub'.moments moves
      | none => []

/-- What a connection does in some moves. -/
def acts (hub : Hub) (i : Nat) (moves : List Move) : List Act :=
  (hub.moments moves).filterMap fun moment => moment.1.act? i moment.2

/-- The frames that are queued for a session in some moves. -/
def mails (hub : Hub) (session : SessionId) (moves : List Move) : List ServerFrame :=
  (hub.moments moves).flatMap fun moment => moment.1.mailed session moment.2

variable {hub hub' hub₀ : Hub} {moves later : List Move} {m : Move} {events : List Event}
  {i j : Nat} {c c' : Connection} {clock : Clock} {session : SessionId}

theorem moments_concat (h : hub.moveAll moves = some hub') :
    hub.moments (moves ++ [m]) = hub.moments moves ++ [(hub', m)] := by
  induction moves generalizing hub with
  | nil =>
    obtain rfl := Option.some.inj h
    simp only [List.nil_append, moments]
    split <;> rfl
  | cons first moves ih =>
    obtain ⟨middle, hfirst, hmoves⟩ := moveAll_cons_eq_some_iff.1 h
    simp only [List.cons_append, moments, hfirst, ih hmoves]

theorem acts_concat (h : hub.moveAll moves = some hub') (i : Nat) (m : Move) :
    hub.acts i (moves ++ [m]) = hub.acts i moves ++ (hub'.act? i m).toList := by
  rw [acts, moments_concat h, List.filterMap_append, List.filterMap_cons]
  cases hub'.act? i m <;> rfl

theorem mails_concat (h : hub.moveAll moves = some hub') (session : SessionId) (m : Move) :
    hub.mails session (moves ++ [m]) = hub.mails session moves ++ hub'.mailed session m := by
  rw [mails, moments_concat h, List.flatMap_append, List.flatMap_singleton]
  rfl

/-! ## Moves -/

/-- What a move can be. -/
inductive Does (hub : Hub) : Move → Hub → Prop
  | accept (now : Millis) (user : UserId) (address : Option String) (session : SessionId) :
      Does hub (.accept now user address session) (hub.accept now user address session)
  | send (i : Nat) (incoming : Incoming) : Does hub (.send i incoming) (hub.send i incoming)
  /-- A connection has nothing to do. -/
  | rest {i : Nat} {clock : Clock}
      (hrest : ∀ c, hub.connections[i]? = some c → c.act? hub.server clock = none) :
      Does hub (.round i clock) hub
  /-- A connection acts. -/
  | act {i : Nat} {clock : Clock} {c : Connection} {turn : Turn} {act : Act}
      (hi : hub.connections[i]? = some c) (hperforms : c.Performs hub.server clock turn act) :
      Does hub (.round i clock)
        { hub with server := turn.server, connections := hub.connections.set i turn.connection }
  /-- No connection is there that could fail. -/
  | failed {i : Nat} {clock : Clock} : Does hub (.fail i clock) hub
  /-- A connection fails. -/
  | fail {i : Nat} {clock : Clock} {c : Connection} (hi : hub.connections[i]? = some c)
      (hopen : c.isOpen = true) :
      Does hub (.fail i clock)
        { hub with
          server := (c.finish hub.server clock).server
          connections := hub.connections.set i (c.finish hub.server clock).connection }

/-- **All that a move can do.** -/
theorem does_of_move (h : hub.move m = some hub') : hub.Does m hub' := by
  cases m with
  | accept now user address session =>
    obtain rfl := Option.some.inj h
    exact .accept now user address session
  | send i incoming =>
    obtain rfl := Option.some.inj h
    exact .send i incoming
  | round i clock =>
    obtain ⟨⟨_, clock'⟩, hstep, rfl⟩ := Option.map_eq_some_iff.1 h
    cases hi : hub.connections[i]? with
    | none =>
      rw [step, hi] at hstep
      obtain ⟨rfl, -⟩ := Prod.mk.inj (Option.some.inj hstep)
      refine .rest fun c hc => ?_
      cases hi.symm.trans hc
    | some c =>
      rw [step_of_getElem? hi] at hstep
      obtain ⟨turn, hturn, hhub⟩ := Option.map_eq_some_iff.1 hstep
      obtain ⟨rfl, -⟩ := Prod.mk.inj hhub
      rcases Connection.performs hturn with ⟨hrest, hconnection, hserver⟩ | ⟨act, hperforms⟩
      · have hsame : hub.connections.set i c = hub.connections := by
          obtain ⟨hlt, rfl⟩ := List.getElem?_eq_some_iff.1 hi
          exact List.set_getElem_self hlt
        rw [hconnection, hserver, hsame]
        refine .rest fun c' hc' => ?_
        obtain rfl := Option.some.inj (hi.symm.trans hc')
        exact hrest
      · exact .act hi hperforms
  | fail i clock =>
    obtain rfl := Option.some.inj h
    rw [Hub.fail]
    split
    next => exact .failed
    next c hi =>
      split
      next hopen => exact .fail hi hopen
      next => exact .failed

/-! ## The gauge -/

/-- The gauge of connections says how many are open. -/
def Gauged (hub : Hub) : Prop :=
  hub.server.metrics.activeConnections = hub.connections.countP (·.isOpen)

namespace Gauged

/-- What comes of a deed of one connection. -/
theorem outcome (h : Gauged hub) (hi : hub.connections[i]? = some c) (hopen : c.isOpen = true)
    {deed : Deed} {written : List Outgoing} {after : Server} {goesOn : Bool}
    (houtcome : deed.Outcome c.user c.session clock hub.server written after goesOn)
    (hgoesOn : c'.isOpen = goesOn) :
    Gauged { hub with server := after, connections := hub.connections.set i c' } := by
  obtain ⟨hlt, hget⟩ := List.getElem?_eq_some_iff.1 hi
  have hcount : 0 < hub.connections.countP (·.isOpen) :=
    List.countP_pos_iff.2 ⟨c, List.mem_of_getElem? hi, hopen⟩
  show after.metrics.activeConnections = ((hub.connections.set i c').countP (·.isOpen) : Nat)
  rw [houtcome.activeConnections, show hub.server.metrics.activeConnections = _ from h,
    List.countP_set hlt, hget, hopen, hgoesOn]
  cases goesOn <;> simp <;> omega

/-- A connection is accepted. -/
theorem accept (h : Gauged hub) (now : Millis) (user : UserId) (address : Option String)
    (session : SessionId) : Gauged (hub.accept now user address session) := by
  have hactive : (hub.accept now user address session).server.metrics.activeConnections =
      hub.server.metrics.connection.activeConnections := by
    show ((hub.server.record (·.connection)).openSession now user address
      session).metrics.activeConnections = _
    rw [Server.openSession_metrics]
    split <;> rfl
  have hcount : (hub.accept now user address session).connections.countP (·.isOpen) =
      hub.connections.countP (·.isOpen) + 1 := List.countP_append
  rw [Gauged, hactive, hcount, Metrics.activeConnections_connection,
    show hub.server.metrics.activeConnections = _ from h, Int.natCast_succ]

/-- Something comes from a client. -/
theorem send (h : Gauged hub) (i : Nat) (incoming : Incoming) : Gauged (hub.send i incoming) := by
  have hsame := hub.map_send (·.isOpen) (fun _ _ => rfl) i incoming
  have hcount := congrArg (List.countP id) hsame
  rw [List.countP_map, List.countP_map] at hcount
  exact h.trans (congrArg Int.ofNat hcount.symm)

/-- **Every move keeps the gauge.** -/
theorem move (h : Gauged hub) (hmove : hub.move m = some hub') : Gauged hub' := by
  cases does_of_move hmove with
  | accept now user address session => exact h.accept now user address session
  | send i incoming => exact h.send i incoming
  | rest => exact h
  | act hi hperforms =>
    refine h.outcome hi hperforms.isOpen hperforms.outcome ?_
    rw [hperforms.connection]
  | failed => exact h
  | @fail i clock c hi hopen =>
    -- as if the client had closed the connection
    have houtcome : (Deed.take .close).Outcome c.user c.session clock hub.server []
      (c.finish hub.server clock).server false := .ended (.inl rfl)
    exact h.outcome hi hopen houtcome rfl

end Gauged

theorem gauged_start {config : Config} {host : Host} {now : Millis}
    (h : start config host now = .ok hub₀) : Gauged hub₀ := by
  obtain ⟨hserver, hconnections⟩ := start_eq_ok h
  obtain ⟨generator, index, history, -, -, -, hstarted⟩ := Server.start_eq_ok hserver
  rw [Gauged, hconnections, hstarted]
  rfl

/-- The gauge is kept by all moves. -/
theorem Gauged.moveAll (h : Gauged hub) (hrun : hub.moveAll moves = some hub') : Gauged hub' :=
  moveAll_induct (P := fun _ hub' => Gauged hub') hrun h fun _ _ _ _ _ ih hmove => ih.move hmove

/-! ## Every run -/

/-- A connection of a hub has a transcript, and if it has ended at no act at which the program
stopped, its session has no outbox. -/
def HasTranscript (hub : Hub) (i : Nat) (user : UserId) (session : SessionId) (acts : List Act)
    (sent : List Incoming) (queued : List ServerFrame) : Prop :=
  ∃ c, hub.connections[i]? = some c ∧
    Transcript user session acts sent queued c (hub.server.queue session).frames ∧
    (c.isOpen = false → (∀ act ∈ acts, ¬act.Stops) → hub.server.outbox? user ≠ some session)

namespace HasTranscript

variable {user : UserId} {acts : List Act} {sent : List Incoming} {queued : List ServerFrame}

/-- The session's name was given to it. -/
theorem mem_opened (h : HasTranscript hub i user session acts sent queued)
    (hinStep : InStep events hub) : session ∈ Server.opened events := by
  obtain ⟨c, hi, htranscript, -⟩ := h
  obtain ⟨-, rfl⟩ := Prod.mk.inj htranscript.owner
  exact hinStep.mem_opened hi

/-- A move that has to do with others only. -/
theorem quiet (h : HasTranscript hub i user session acts sent queued)
    (hact : hub.act? i m = none) (hsent : m.incoming? i = none)
    (hmailed : hub.mailed session m = [])
    (hconnection : hub'.connections[i]? = hub.connections[i]?)
    (hframes : (hub'.server.queue session).frames = (hub.server.queue session).frames)
    (houtbox : hub'.server.outbox? user = some session →
      hub.server.outbox? user = some session) :
    HasTranscript hub' i user session (acts ++ (hub.act? i m).toList)
      (sent ++ (m.incoming? i).toList) (queued ++ hub.mailed session m) := by
  obtain ⟨c, hi, htranscript, hgone⟩ := h
  refine ⟨c, hconnection.trans hi, ?_⟩
  rw [hact, hsent, hmailed, hframes]
  simp only [Option.toList_none, List.append_nil]
  exact ⟨htranscript, fun hclosed hgoesOn => mt houtbox (hgone hclosed hgoesOn)⟩

/-- Something comes from a client. -/
theorem send (h : HasTranscript hub i user session acts sent queued) (j : Nat)
    (incoming : Incoming) :
    HasTranscript (hub.send j incoming) i user session acts
      (sent ++ ((Move.send j incoming).incoming? i).toList) queued := by
  obtain ⟨c, hi, htranscript, hgone⟩ := h
  by_cases hj : j = i
  · subst hj
    rw [show (Move.send j incoming).incoming? j = some incoming from if_pos rfl]
    exact ⟨{ c with inbox := c.inbox ++ [incoming] }, by simp [Hub.send, hi],
      htranscript.send incoming, hgone⟩
  · rw [show (Move.send j incoming).incoming? i = none from if_neg hj, Option.toList_none,
      List.append_nil]
    exact ⟨c, by simp [Hub.send, hj, hi], htranscript, hgone⟩

/-- **A connection acts**, this one or another one. -/
theorem act (h : HasTranscript hub i user session acts sent queued)
    (hinStep : InStep events hub) (hfresh : (Server.opened events).Nodup)
    (hj : hub.connections[j]? = some c) {turn : Turn} {act : Act}
    (hperforms : c.Performs hub.server clock turn act) :
    HasTranscript
      { hub with server := turn.server, connections := hub.connections.set j turn.connection } i
      user session (acts ++ (hub.act? i (.round j clock)).toList) sent
      (queued ++ hub.mailed session (.round j clock)) := by
  have hframes := hperforms.frames hinStep.server (h.mem_opened hinStep)
  have hmailed : hub.mailed session (.round j clock) = act.mail c.user session := by
    simp [mailed, hj, hperforms.eq]
  obtain ⟨d, hi, htranscript, hgone⟩ := h
  obtain ⟨rfl, rfl⟩ := Prod.mk.inj htranscript.owner
  rw [hmailed]
  by_cases hji : j = i
  · subst hji
    obtain rfl := Option.some.inj (hi.symm.trans hj)
    have hact : hub.act? j (.round j clock) = some act := by simp [act?, hi, hperforms.eq]
    have hnames := hinStep.server.names d.user
    rw [if_pos rfl] at hframes
    refine ⟨turn.connection, List.getElem?_set_self (List.getElem?_eq_some_iff.1 hi).1, ?_⟩
    rw [hact]
    refine ⟨htranscript.act hperforms hnames hframes, fun hclosed hgoesOn => ?_⟩
    -- it has ended with this act
    have houtcome := hperforms.outcome
    have hends : act.goesOn = false := by
      rw [hperforms.connection] at hclosed
      exact hclosed
    have hlast : ¬act.Stops := hgoesOn act (by simp)
    rw [Act.Stops, hperforms.before] at hlast
    rw [hends] at houtcome
    exact houtcome.outbox?_ne hlast
  · have hne : c.session ≠ d.session := fun heq => hji (hinStep.index_eq hfresh hj hi heq)
    have hact : hub.act? i (.round j clock) = none := if_neg hji
    rw [if_neg hne, List.nil_append] at hframes
    refine ⟨d, (List.getElem?_set_ne hji).trans hi, ?_⟩
    rw [hact, Option.toList_none, List.append_nil]
    exact ⟨htranscript.aside hframes, fun hclosed hgoesOn =>
      mt hperforms.outcome.outbox?_of_some (hgone hclosed hgoesOn)⟩

/-- **Every move keeps the transcript of a connection**, unless a write of the connection fails. -/
theorem move (h : HasTranscript hub i user session acts sent queued) (hinStep : InStep events hub)
    (hfresh : (Server.opened events ++ m.session?.toList).Nodup)
    (hfails : ∀ clock, m ≠ .fail i clock) (hmove : hub.move m = some hub') :
    HasTranscript hub' i user session (acts ++ (hub.act? i m).toList)
      (sent ++ (m.incoming? i).toList) (queued ++ hub.mailed session m) := by
  have hold : (Server.opened events).Nodup := (List.nodup_append.1 hfresh).1
  have hsession := h.mem_opened hinStep
  cases does_of_move hmove with
  | accept now user' address new =>
    have hne : new ≠ session := fun heq =>
      (List.nodup_append.1 hfresh).2.2 _ hsession new (List.mem_singleton_self new) heq.symm
    have hframes := (hub.server.record (·.connection)).frames_openSession now user' address hne
    obtain ⟨c, hi, -⟩ := id h
    have hlt := (List.getElem?_eq_some_iff.1 hi).1
    refine h.quiet rfl rfl rfl (List.getElem?_append_left hlt) hframes fun houtbox => ?_
    have houtbox : ((hub.server.record (·.connection)).openSession now user' address new).outbox?
      user = some session := houtbox
    rw [Server.outbox?_openSession] at houtbox
    split at houtbox
    · exact absurd (Option.some.inj houtbox) hne
    · exact houtbox
  | send j incoming =>
    have hsend := h.send j incoming
    rwa [← List.append_nil acts, ← List.append_nil queued] at hsend
  | @rest j clock hrest =>
    have hact : hub.act? i (.round j clock) = none := by
      by_cases hji : j = i
      · subst hji
        cases hj : hub.connections[j]? with
        | none => simp [act?, hj]
        | some c => simp [act?, hj, hrest c hj]
      · exact if_neg hji
    have hmailed : hub.mailed session (.round j clock) = [] := by
      cases hj : hub.connections[j]? with
      | none => simp [mailed, hj]
      | some c => simp [mailed, hj, hrest c hj]
    exact h.quiet hact rfl hmailed rfl rfl id
  | @act j clock c turn act hj hperforms =>
    have hact := h.act hinStep hold hj hperforms
    rwa [← List.append_nil sent] at hact
  | failed => exact h.quiet rfl rfl rfl rfl rfl id
  | @fail j clock c hj hopen =>
    have hji : j ≠ i := fun heq => hfails clock (heq ▸ rfl)
    have hframes := hub.server.frames_closeSession c.user c.session session
    have houtcome : (Deed.take .close).Outcome c.user c.session clock hub.server []
      (c.finish hub.server clock).server false := .ended (.inl rfl)
    exact h.quiet rfl rfl rfl (List.getElem?_set_ne hji) hframes houtcome.outbox?_of_some

/-- The transcript of a connection is kept by all moves. -/
theorem moveAll (h : HasTranscript hub i user session [] [] []) (hinStep : InStep events hub)
    (hrun : hub.moveAll later = some hub')
    (hfresh : (Server.opened events ++ accepted later).Nodup)
    (hfails : ∀ clock, .fail i clock ∉ later) :
    HasTranscript hub' i user session (hub.acts i later) (Hub.sent i later)
      (hub.mails session later) := by
  refine hinStep.induct (P := fun later hub' => (∀ clock, .fail i clock ∉ later) →
    HasTranscript hub' i user session (hub.acts i later) (Hub.sent i later)
      (hub.mails session later)) hrun hfresh (fun _ => h) ?_ hfails
  intro served later middle m hub' hlater hserved hfresh ih hmove hfails
  have hbefore := ih fun clock hmem => hfails clock (List.mem_append_left _ hmem)
  rw [acts_concat hlater, sent_concat, mails_concat hlater]
  exact hbefore.move hserved hfresh (fun clock heq => hfails clock (by simp [heq])) hmove

end HasTranscript

/-- A connection that was accepted has an empty transcript. -/
theorem hasTranscript_accept (hub : Hub) (now : Millis) (user : UserId) (address : Option String)
    (session : SessionId) :
    HasTranscript (hub.accept now user address session) hub.connections.length user session
      [] [] [] := by
  refine ⟨(Connection.accept hub.server now user address session).1,
    List.getElem?_concat_length, ?_⟩
  have hframes : ((hub.accept now user address session).server.queue session).frames = [] := by
    show (((hub.server.record (·.connection)).openSession now user address session).queue
      session).frames = []
    rw [Server.queue, Server.queue?_openSession, if_pos rfl]
    rfl
  rw [hframes]
  refine ⟨.accept hub.server now user address session, fun hclosed => ?_⟩
  cases hclosed

/-- **What becomes of a connection**, whatever the other connections of the hub do, as long as its
own writes succeed. The name of its session is the first that it writes. Then each of its acts is
proper: what comes from the client is taken up once and in its order, and answered before more of it
is; what is queued for the session is written once and in its order; and nothing comes after the act
that ends the connection, which leaves a newer session of the user as it is. When the connection has
ended, its session is nobody's in the registry and the outboxes, and the gauge of connections is at
all times the number of those that are open. Only while an identifier is minted for a message can
the readings of the clock end, so that a round has no outcome.

One thing ends a connection in another way: a request for history that is to start from the least
bucket (`Act.Stops`). It gets no reply, and the session is left behind. -/
theorem transcript_run {config : Config} {host : Host} {started now : Millis} {user : UserId}
    {address : Option String} (hstart : start config host started = .ok hub₀)
    (hrun : hub₀.moveAll moves = some hub)
    (hlater : (hub.accept now user address session).moveAll later = some hub')
    (hfresh : (accepted (moves ++ .accept now user address session :: later)).Nodup)
    (hfails : ∀ clock, .fail hub.connections.length clock ∉ later) :
    ∃ c, hub'.connections[hub.connections.length]? = some c ∧
      Transcript user session
        ((hub.accept now user address session).acts hub.connections.length later)
        (sent hub.connections.length later)
        ((hub.accept now user address session).mails session later) c
        (hub'.server.queue session).frames ∧
      (c.isOpen = false →
        (∀ act ∈ (hub.accept now user address session).acts hub.connections.length later,
          ¬act.Stops) →
        ∀ user', hub'.server.registry.name? user' ≠ some session ∧
          hub'.server.outbox? user' ≠ some session) ∧
      hub'.server.metrics.activeConnections = hub'.connections.countP (·.isOpen) ∧
      ∀ clock, hub'.step clock hub.connections.length = none →
        ∃ text id thread name members body,
          c.deed? hub'.server = some (.take (.text text)) ∧
          ClientFrame.decode text = .ok (.send id thread name members body) ∧
          hub'.server.generator.mint clock = none := by
  have hfirst : hub₀.moveAll (moves ++ [.accept now user address session]) =
      some (hub.accept now user address session) :=
    moveAll_concat_eq_some_iff.2 ⟨hub, hrun, rfl⟩
  rw [List.append_cons, accepted_append] at hfresh
  have hold := (List.nodup_append.1 hfresh).1
  have hbegin := inStep_start hstart
  obtain ⟨events, hinStep, hopened⟩ := hbegin.moveAll hfirst hold
  rw [List.nil_append] at hinStep
  have hgauged := ((gauged_start hstart).moveAll hfirst).moveAll hlater
  rw [← hopened] at hfresh
  obtain ⟨served, hinStep', hopened'⟩ := hinStep.moveAll hlater hfresh
  obtain ⟨c, hc, htranscript, hgone⟩ :=
    (hub.hasTranscript_accept now user address session).moveAll hinStep hlater hfresh hfails
  refine ⟨c, hc, htranscript, fun hclosed hgoesOn user' => ?_, hgauged, fun clock hnone => ?_⟩
  · rw [← hopened', ← Server.opened_append] at hfresh
    obtain ⟨rfl, rfl⟩ := Prod.mk.inj htranscript.owner
    have hnobody : hub'.server.outbox? user' ≠ some c.session :=
      hinStep'.outbox?_ne hfresh hc (hgone hclosed hgoesOn) user'
    exact ⟨hinStep'.server.names user' ▸ hnobody, hnobody⟩
  · rw [step_of_getElem? hc, Option.map_eq_none_iff] at hnone
    exact Connection.send_of_step_eq_none hnone

/-- A connection gives a sign of life and gets two errors before it is replaced. -/
def visit : List Move :=
  [.send 0 (.text "\x7b\"type\":\"ping\"\x7d"), .round 0 ⟨1000, []⟩, .send 0 (.binary [7]),
    .send 0 (.text "hello"), .round 0 ⟨1000, []⟩, .round 0 ⟨1000, []⟩] ++ replaced

/-- What the general statement says of it. -/
theorem transcript_run_replaced :
    ∃ hub' c message, (secondsHub.accept 1000 "ann" none "a1").moveAll visit = some hub' ∧
      hub'.connections[0]? = some c ∧
      c.written = [.frame (.connected "a1" "ann"), .frame (.pong none),
        .frame (.error 0 .unsupported "Binary frames are not supported"),
        .frame (.error 0 .invalidFrame message), .close] ∧
      Transcript "ann" "a1" ((secondsHub.accept 1000 "ann" none "a1").acts 0 visit) (sent 0 visit)
        ((secondsHub.accept 1000 "ann" none "a1").mails "a1" visit) c
        (hub'.server.queue "a1").frames ∧
      (∀ user, hub'.server.registry.name? user ≠ some "a1" ∧
        hub'.server.outbox? user ≠ some "a1") ∧
      hub'.server.metrics.activeConnections = 1 := by
  have hstart : start Server.seconds {} 1000 = .ok secondsHub := rfl
  have hconnections : ((secondsHub.accept 1000 "ann" none "a1").moveAll visit).map
      (·.connections.map fun c => (c.written, c.isOpen)) = some
      [([.frame (.connected "a1" "ann"), .frame (.pong none),
          .frame (.error 0 .unsupported "Binary frames are not supported"),
          .frame (.error 0 .invalidFrame DecodeError.invalidJson.message), .close], false),
        ([.frame (.connected "a2" "ann"), .pong [3]], true)] := by decide
  have hdeeds : ((secondsHub.accept 1000 "ann" none "a1").acts 0 visit).map (·.deed) =
      [.take (.text "\x7b\"type\":\"ping\"\x7d"), .take (.binary [7]), .take (.text "hello"),
        .displaced] := by decide
  have hgoesOn : ∀ act ∈ (secondsHub.accept 1000 "ann" none "a1").acts 0 visit, ¬act.Stops := by
    rintro act hact ⟨text, id, thread, query, hdeed, hdecode, -⟩
    have hmem := List.mem_map_of_mem (f := Act.deed) hact
    rw [hdeeds, hdeed] at hmem
    simp only [List.mem_cons, Deed.take.injEq, Incoming.text.injEq, reduceCtorEq, List.not_mem_nil,
      or_false, false_or] at hmem
    rcases hmem with rfl | rfl
    · have hping : ClientFrame.decode "\x7b\"type\":\"ping\"\x7d" = .ok (.ping none) := by decide
      cases hping.symm.trans hdecode
    · have hinvalid : ClientFrame.decode "hello" = .error .invalidJson := by decide
      cases hinvalid.symm.trans hdecode
  obtain ⟨hub', hlater, hconnections⟩ := Option.map_eq_some_iff.1 hconnections
  have hrun : secondsHub.moveAll [] = some secondsHub := rfl
  obtain ⟨c, hc, htranscript, hgone, hactive, -⟩ := transcript_run hstart hrun hlater
    (by decide) (by simp [visit, replaced])
  have hfirst := congrArg (·[0]?) hconnections
  simp only [List.getElem?_map] at hfirst
  have hc : hub'.connections[0]? = some c := hc
  rw [hc] at hfirst
  obtain ⟨hwritten, hclosed⟩ := Prod.mk.inj (Option.some.inj hfirst)
  have hopen : hub'.connections.countP (·.isOpen) = 1 := by
    have hcount := congrArg (List.countP Prod.snd) hconnections
    rwa [List.countP_map] at hcount
  rw [hopen] at hactive
  exact ⟨hub', c, _, hlater, hc, hwritten, htranscript, hgone hclosed hgoesOn, hactive⟩

/-- A request for history that is to start from the least bucket. -/
def leastBucketText : String :=
  "\x7b\"type\":\"history\",\"id\":1,\"thread_id\":\"00000000-0000-7000-8000-000000000000\"," ++
    "\"bucket\":-9223372036854775808,\"before\":5\x7d"

/-- **A text may get no reply and leave its session behind**: the program stops at a request for
history from the least bucket on, the connection ends with nothing written, and its session is still
the one to which messages go. -/
theorem stopped_connection_leaves_session :
    ∃ hub' c, (secondsHub.accept 1000 "ann" none "a1").moveAll
        [.send 0 (.text leastBucketText), .round 0 ⟨1000, []⟩] = some hub' ∧
      hub'.connections[0]? = some c ∧ c.inbox = [] ∧ c.isOpen = false ∧
      c.written = [.frame (.connected "a1" "ann")] ∧
      hub'.server.registry.name? "ann" = some "a1" ∧ hub'.server.outbox? "ann" = some "a1" := by
  have hend : ((secondsHub.accept 1000 "ann" none "a1").moveAll
      [.send 0 (.text leastBucketText), .round 0 ⟨1000, []⟩]).map (fun hub' =>
        (hub'.connections, hub'.server.registry.name? "ann", hub'.server.outbox? "ann")) = some
      ([{ user := "ann", session := "a1", written := [.frame (.connected "a1" "ann")],
          isOpen := false }], some "a1", some "a1") := by decide +kernel
  obtain ⟨hub', hmoves, hend⟩ := Option.map_eq_some_iff.1 hend
  obtain ⟨hconnections, hend⟩ := Prod.mk.inj hend
  obtain ⟨hname, houtbox⟩ := Prod.mk.inj hend
  exact ⟨hub', _, hmoves, congrArg (·[0]?) hconnections, rfl, rfl, rfl, hname, houtbox⟩

end Hub

end ChatRelay

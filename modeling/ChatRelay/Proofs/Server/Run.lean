import ChatRelay.Proofs.History.Start
import ChatRelay.Server.Request

/-!
# Runs of a server

A run opens and closes sessions and answers frames, in any order and at any instants. The log of a
run has every event with the reply to it, and `run_induct` is the way to show what holds of every
log and the server after it. A frame that stops the program where it is handled is on the log
without a reply, and nothing has changed after it (`step_frame_eq_some_iff`).
-/

namespace ChatRelay

/-- Something that happens to a server. -/
inductive Event where
  | opening (now : Millis) (user : UserId) (address : Option String) (session : SessionId)
  | closing (user : UserId) (session : SessionId)
  /-- A frame comes from a user; `clock` shows the time while it is answered. -/
  | frame (clock : Clock) (user : UserId) (frame : ClientFrame)
  deriving DecidableEq, Repr

/-- An event with the reply to it; only frames get one, and not all of them. -/
structure Entry where
  event : Event
  reply : Option ServerFrame
  deriving DecidableEq, Repr

namespace Server

/-- What an event brings about. There is no outcome, `none`, only if the readings of the clock end
while an identifier is minted. -/
def step (s : Server) : Event → Option (Option ServerFrame × Server)
  | .opening now user address session => some (none, s.openSession now user address session)
  | .closing user session => some (none, s.closeSession user session)
  | .frame clock user frame =>
    if s.stops clock.now user frame then some (none, s)
    else (s.handle clock user frame).map fun reply => (some reply.frame, reply.server)

/-- The log of some events, one after the other, and the server after them. A frame that is never
answered leaves no trace, so that it is no event of a run. -/
def run (s : Server) : List Event → Option (List Entry × Server)
  | [] => some ([], s)
  | event :: events => do
    let (reply, s) ← s.step event
    let (log, s) ← s.run events
    return (⟨event, reply⟩ :: log, s)

variable {s s' : Server} {events : List Event} {log : List Entry}

/-- A computation that goes on after another one succeeds only if both do. -/
theorem mapError_bind_eq_ok_iff {E E' A B : Type} {f : E → E'} {x : Except E A}
    {k : A → Except E' B} {b : B} :
    (x.mapError f >>= k) = .ok b ↔ ∃ a, x = .ok a ∧ k a = .ok b := by
  cases x with
  | error e =>
    constructor
    · intro h
      cases h
    · rintro ⟨a, h, -⟩
      cases h
  | ok a =>
    constructor
    · intro h
      exact ⟨a, rfl, h⟩
    · rintro ⟨a', h, hk⟩
      cases h
      exact hk

/-- What a server starts with: what its settings are good for, and nothing else. -/
theorem start_eq_ok {config : Config} {host : Host} {now : Millis}
    (h : start config host now = .ok s) :
    ∃ generator index history,
      Generator.setUp config.ids.generatorConfig host now = .ok generator ∧
      BucketIndex.forGenerator generator config.history.bucketSize = .ok index ∧
      History.make index config.history.pageSize = .ok history ∧
      s = { generator, index, history } := by
  obtain ⟨generator, hgenerator, h⟩ := mapError_bind_eq_ok_iff.1 h
  obtain ⟨index, hindex, h⟩ := mapError_bind_eq_ok_iff.1 h
  obtain ⟨history, hhistory, h⟩ := mapError_bind_eq_ok_iff.1 h
  exact ⟨generator, index, history, hgenerator, hindex, hhistory, (Except.ok.inj h).symm⟩

/-! ## Frames that stop the program -/

/-- A request for history stops the program exactly if it starts from the least bucket. -/
theorem stops_history_iff {now : Millis} {user : UserId} {id : RequestId} {thread : ThreadId}
    {query : HistoryQuery} :
    s.stops now user (.history id thread query) = true ↔
      (s.history.firstQuestion now query).bucket = Int64.minValue := by
  rw [stops]
  split
  next hoverflow => exact iff_of_true rfl (History.fetch_store_overflow_iff.1 hoverflow)
  next hother =>
    exact iff_of_false Bool.false_ne_true (mt History.fetch_store_overflow_iff.2 hother)

/-- **A frame stops the program exactly if it asks for history from the least bucket on.** -/
theorem stops_iff {now : Millis} {user : UserId} {frame : ClientFrame} :
    s.stops now user frame = true ↔ ∃ id thread query, frame = .history id thread query ∧
      (s.history.firstQuestion now query).bucket = Int64.minValue := by
  cases frame with
  | history id thread query =>
    rw [stops_history_iff]
    constructor
    · exact fun hleast => ⟨id, thread, query, rfl, hleast⟩
    · rintro ⟨_, _, _, heq, hleast⟩
      obtain ⟨rfl, rfl, rfl⟩ := ClientFrame.history.inj heq
      exact hleast
  | _ => simp [stops]

/-- There is no answer to a request for history exactly if it stops the program. -/
theorem sendHistory_eq_none_iff {now : Millis} {user : UserId} {id : RequestId} {thread : ThreadId}
    {query : HistoryQuery} :
    s.sendHistory now id user thread query = none ↔
      s.stops now user (.history id thread query) = true := by
  rw [sendHistory, History.fetchMarking, stops]
  rcases (s.history.fetch (s.store.reader user thread) .embedded now thread query).outcome with
    e | page
  · cases e <;> simp [Except.map]
  · simp [Except.map]

/-- Nobody gets a reply to a frame that stops the program. -/
theorem handle_of_stops {clock : Clock} {user : UserId} {frame : ClientFrame}
    (h : s.stops clock.now user frame = true) : s.handle clock user frame = none := by
  obtain ⟨id, thread, query, rfl, -⟩ := stops_iff.1 h
  rw [handle, sendHistory_eq_none_iff.2 h]
  rfl

/-- **All that comes of a frame**: it stops the program, or it is answered. -/
theorem step_frame_eq_some_iff {clock : Clock} {user : UserId} {frame : ClientFrame}
    {reply : Option ServerFrame} :
    s.step (.frame clock user frame) = some (reply, s') ↔
      (s.stops clock.now user frame = true ∧ reply = none ∧ s' = s) ∨
      ∃ answer, s.handle clock user frame = some answer ∧ reply = some answer.frame ∧
        s' = answer.server := by
  rw [step]
  split
  next hstops =>
    rw [handle_of_stops hstops]
    simp [hstops, eq_comm]
  next hstops =>
    rw [Option.map_eq_some_iff]
    simp [hstops, eq_comm]

/-- Every frame other than a request for history is answered. -/
theorem answer_of_step {clock : Clock} {user : UserId} {frame : ClientFrame}
    {reply : Option ServerFrame} (h : s.step (.frame clock user frame) = some (reply, s'))
    (hframe : ∀ id thread query, frame ≠ .history id thread query) :
    ∃ answer, s.handle clock user frame = some answer ∧ reply = some answer.frame ∧
      s' = answer.server := by
  rcases step_frame_eq_some_iff.1 h with ⟨hstops, -⟩ | hanswer
  · obtain ⟨id, thread, query, heq, -⟩ := stops_iff.1 hstops
    exact absurd heq (hframe id thread query)
  · exact hanswer

/-- A frame that is answered. -/
theorem step_of_handle {clock : Clock} {user : UserId} {frame : ClientFrame} {answer : Reply}
    (h : s.handle clock user frame = some answer) :
    s.step (.frame clock user frame) = some (some answer.frame, answer.server) :=
  step_frame_eq_some_iff.2 (.inr ⟨answer, h, rfl, rfl⟩)

/-! ## Runs -/

theorem run_cons_eq_some_iff {event : Event} :
    s.run (event :: events) = some (log, s') ↔
      ∃ reply middle rest, s.step event = some (reply, middle) ∧
        middle.run events = some (rest, s') ∧ log = ⟨event, reply⟩ :: rest := by
  rw [run]
  constructor
  · intro h
    obtain ⟨⟨reply, middle⟩, hstep, h⟩ := Option.bind_eq_some_iff.1 h
    obtain ⟨⟨rest, last⟩, hrest, h⟩ := Option.bind_eq_some_iff.1 h
    obtain ⟨rfl, rfl⟩ := Prod.mk.inj (Option.some.inj h)
    exact ⟨reply, middle, rest, hstep, hrest, rfl⟩
  · rintro ⟨reply, middle, rest, hstep, hrest, rfl⟩
    simp only [hstep, hrest, Option.bind_eq_bind, Option.bind_some]
    rfl

/-- The log of a run is about its events. -/
theorem map_event_of_run (h : s.run events = some (log, s')) : log.map (·.event) = events := by
  induction events generalizing s log with
  | nil =>
    obtain ⟨rfl, -⟩ := Prod.mk.inj (Option.some.inj h)
    rfl
  | cons event events ih =>
    obtain ⟨reply, middle, rest, -, hrest, rfl⟩ := run_cons_eq_some_iff.1 h
    rw [List.map_cons, ih hrest]

/-- A run and another one after it make one run. -/
theorem run_append {later : List Event} {rest : List Entry} {s'' : Server}
    (h : s.run events = some (log, s')) (hlater : s'.run later = some (rest, s'')) :
    s.run (events ++ later) = some (log ++ rest, s'') := by
  induction events generalizing s log with
  | nil =>
    obtain ⟨rfl, rfl⟩ := Prod.mk.inj (Option.some.inj h)
    exact hlater
  | cons event events ih =>
    obtain ⟨reply, middle, rest', hstep, hrest, rfl⟩ := run_cons_eq_some_iff.1 h
    exact run_cons_eq_some_iff.2 ⟨reply, middle, rest' ++ rest, hstep, ih hrest, rfl⟩

/-- A run up to an entry of its log, that entry's event, and the run after it. -/
theorem run_before {before after : List Entry} {entry : Entry}
    (h : s.run events = some (before ++ entry :: after, s')) :
    ∃ middle next, s.run (before.map (·.event)) = some (before, middle) ∧
      middle.step entry.event = some (entry.reply, next) ∧
      next.run (after.map (·.event)) = some (after, s') := by
  rw [← map_event_of_run h] at h
  induction before generalizing s with
  | nil =>
    obtain ⟨reply, middle, rest, hstep, hrest, heq⟩ := run_cons_eq_some_iff.1 h
    obtain ⟨hentry, rfl⟩ := List.cons.inj heq
    obtain rfl : entry.reply = reply := congrArg Entry.reply hentry
    exact ⟨s, middle, rfl, hstep, hrest⟩
  | cons first before ih =>
    obtain ⟨reply, middle, rest, hstep, hrest, heq⟩ := run_cons_eq_some_iff.1 h
    obtain ⟨hfirst, rfl⟩ := List.cons.inj heq
    obtain rfl : first.reply = reply := congrArg Entry.reply hfirst
    obtain ⟨middle', next, hbefore, hentry, hafter⟩ := ih hrest
    exact ⟨middle', next, run_cons_eq_some_iff.2 ⟨first.reply, middle, before, hstep, hbefore, rfl⟩,
      hentry, hafter⟩

/-- **What holds at the start and is kept by every event holds after every run.** -/
theorem run_induct {P : List Entry → Server → Prop} (hrun : s.run events = some (log, s'))
    (hstart : P [] s)
    (hstep : ∀ log s event reply s', P log s → s.step event = some (reply, s') →
      P (log ++ [⟨event, reply⟩]) s') : P log s' := by
  -- generalised to a run that goes on after another log
  suffices h : ∀ before, P before s → P (before ++ log) s' from h [] hstart
  clear hstart
  induction events generalizing s log with
  | nil =>
    obtain ⟨rfl, rfl⟩ := Prod.mk.inj (Option.some.inj hrun)
    intro before hbefore
    rwa [List.append_nil]
  | cons event events ih =>
    obtain ⟨reply, middle, rest, hfirst, hrest, rfl⟩ := run_cons_eq_some_iff.1 hrun
    intro before hbefore
    have h := ih hrest (before ++ [⟨event, reply⟩]) (hstep _ _ _ _ _ hbefore hfirst)
    rwa [List.append_assoc] at h

end Server

end ChatRelay

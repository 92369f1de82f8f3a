import ChatRelay.Config
import ChatRelay.Frame.Server
import ChatRelay.Metrics

/-!
# Server

The state of a server: the generator of identifiers, the sessions, what is stored, and a queue of
frames for each session that was ever opened. A user's outbox names the session whose queue takes
the frames for that user; it is always the session in the registry.
-/

namespace ChatRelay

/-- Frames on their way to a session. -/
structure Queue where
  /-- The frames that have not been taken, first in first out. -/
  frames : List ServerFrame := []
  /-- Whether no more frames will come. -/
  closed : Bool := false
  /-- Whether nobody takes the frames any more. -/
  abandoned : Bool := false
  deriving DecidableEq, Repr

namespace Queue

/-- Adds a frame, which is lost if nobody takes it. -/
def push (q : Queue) (frame : ServerFrame) : Queue :=
  if q.closed || q.abandoned then q else { q with frames := q.frames ++ [frame] }

/-- Ends the queue. The frames in it can still be taken. -/
def close (q : Queue) : Queue := { q with closed := true }

/-- Gives up taking frames. -/
def abandon (q : Queue) : Queue := { q with frames := [], abandoned := true }

end Queue

/-- A running server. -/
structure Server where
  generator : Generator
  index : BucketIndex
  history : History
  registry : Registry := .empty
  store : Store := .empty
  /-- For each user with a session, the session whose queue gets their frames. -/
  outboxes : Std.ExtTreeMap UserId SessionId := ∅
  /-- The queues of all sessions that were opened. -/
  queues : Std.ExtTreeMap SessionId Queue := ∅
  metrics : Metrics := {}

/-- Why a server does not start. -/
inductive StartError where
  | generator (cause : SetupError)
  | bucketSize (cause : SettingError)
  | pageSize (cause : SettingError)
  /-- The host and the port are no address. -/
  | address (text : String)
  /-- No socket can be bound to the address. -/
  | bind (socket : Net.SocketAddress) (cause : String)
  deriving DecidableEq, Repr

namespace StartError

/-- What failed. -/
def context : StartError → String
  | generator _ => "Failed to initialize id generator"
  | bucketSize _ => "Invalid history bucket size"
  | pageSize _ => "Invalid history page size"
  | address text => s!"Invalid bind address {text}"
  | bind socket _ => s!"Failed to bind {socket.text}"

/-- Why it failed. -/
def cause : StartError → String
  | generator cause => cause.message
  | bucketSize cause => cause.message
  | pageSize cause => cause.message
  | address _ => "invalid socket address syntax"
  | bind _ cause => cause

/-- The wording of an error. -/
def message (e : StartError) : String := s!"{e.context}: {e.cause}"

end StartError

namespace Server

/-- Starts a server at an instant. -/
def start (config : Config) (host : Host) (now : Millis) : Except StartError Server := do
  let generator ← (Generator.setUp config.ids.generatorConfig host now).mapError .generator
  let index ←
    (BucketIndex.forGenerator generator config.history.bucketSize).mapError .bucketSize
  let history ← (History.make index config.history.pageSize).mapError .pageSize
  return { generator, index, history }

/-! ## Queues -/

/-- The queue of a session. -/
def queue? (s : Server) (session : SessionId) : Option Queue := s.queues[session]?

/-- The queue of a session, an empty one for a session that was never opened. -/
def queue (s : Server) (session : SessionId) : Queue := (s.queue? session).getD {}

/-- Changes the queue of a session. -/
def modifyQueue (s : Server) (session : SessionId) (change : Queue → Queue) : Server :=
  { s with queues := s.queues.modify session change }

/-- The session whose queue gets the frames for a user. -/
def outbox? (s : Server) (user : UserId) : Option SessionId := s.outboxes[user]?

/-- Queues a frame for a user's session, if there is one. -/
def push (s : Server) (user : UserId) (frame : ServerFrame) : Server :=
  match s.outbox? user with
  | some session => s.modifyQueue session (·.push frame)
  | none => s

/-- Takes all frames from the queue of a session. -/
def drain (s : Server) (session : SessionId) : List ServerFrame × Server :=
  match s.queue? session with
  | some q => (q.frames, s.modifyQueue session fun q => { q with frames := [] })
  | none => ([], s)

/-! ## Sessions -/

/-- Changes what was recorded. -/
def record (s : Server) (change : Metrics → Metrics) : Server :=
  { s with metrics := change s.metrics }

/-- Opens a session for a user. It replaces the user's session before, whose queue is closed. -/
def openSession (s : Server) (now : Millis) (user : UserId) (address : Option String)
    (session : SessionId) : Server :=
  let before := s.registry.session? user
  let s := match s.outbox? user with
    | some old => s.modifyQueue old (·.close)
    | none => s
  let s :=
    { s with
      registry := s.registry.connect
        { user, sessionId := session, remoteAddress := address, connectedAt := now }
      outboxes := s.outboxes.insert user session
      queues := s.queues.insert session {} }
  if before.isSome then s.record (·.displacement) else s

/-- Closes a session of a user. A session that was replaced is closed already, and the one that
replaced it stays. -/
def closeSession (s : Server) (user : UserId) (session : SessionId) : Server :=
  let s' := { s with registry := s.registry.disconnectSession user session }
  if s.outbox? user = some session then
    { s' with outboxes := s'.outboxes.erase user }.modifyQueue session (·.close)
  else s'

end Server

end ChatRelay

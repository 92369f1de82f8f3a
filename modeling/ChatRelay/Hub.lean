import ChatRelay.Connection
import ChatRelay.Http.Endpoint

/-!
# Hubs

A server with its connections. The connections take turns; a run is a schedule that says whose
round is next, so that every interleaving of the connections is a schedule. A hub is at rest if no
connection has anything to do.
-/

namespace ChatRelay

/-- A server and the connections that it accepted, in the order in which it did. -/
structure Hub where
  server : Server
  /-- The pattern of the paths on which clients connect, as it is written. -/
  webSocketPath : String
  connections : List Connection := []

namespace Hub

/-- Starts a server and lets it listen on its address, if the host binds a socket to it. -/
def start (config : Config) (host : Host) (now : Millis) : Except StartError Hub := do
  let server ← Server.start config host now
  match config.bindAddress? with
  | none => throw (.address config.bindText)
  | some address =>
    match host.bind address with
    | .ok () => return { server, webSocketPath := config.webSocketPath }
    | .error cause => throw (.bind address cause)

/-! ## Requests -/

/-- The answer to a request that is not to become a WebSocket. -/
def respond (hub : Hub) (method target : String) : Http.Response :=
  Http.respond hub.server (.ofText hub.webSocketPath) method target

/-- What becomes of a request for a WebSocket. -/
def upgrade (hub : Hub) (target : String) : Http.Upgrade :=
  Http.upgrade hub.server (.ofText hub.webSocketPath) target

/-- Accepts a connection of a user. -/
def accept (hub : Hub) (now : Millis) (user : UserId) (address : Option String)
    (session : SessionId) : Hub :=
  let (connection, server) := Connection.accept hub.server now user address session
  { hub with server, connections := hub.connections ++ [connection] }

/-- Something comes from the client of a connection. -/
def send (hub : Hub) (i : Nat) (incoming : Incoming) : Hub :=
  { hub with
    connections := hub.connections.modify i fun c => { c with inbox := c.inbox ++ [incoming] } }

/-! ## Rounds -/

/-- A round of one connection, with the clock after it. A connection that does not exist has none.
There is no outcome, `none`, only if the readings of the clock end while an identifier is minted. -/
def step (hub : Hub) (clock : Clock) (i : Nat) : Option (Hub × Clock) :=
  match hub.connections[i]? with
  | none => some (hub, clock)
  | some c =>
    (c.step hub.server clock).map fun turn =>
      ({ hub with server := turn.server, connections := hub.connections.set i turn.connection },
        turn.clock)

/-- The rounds of a schedule. -/
def run (hub : Hub) (clock : Clock) : (schedule : List Nat) → Option (Hub × Clock)
  | [] => some (hub, clock)
  | i :: schedule => do
    let (hub, clock) ← hub.step clock i
    hub.run clock schedule

/-- A schedule with a round for every frame that is queued, and one more for every connection. -/
def backlog (hub : Hub) : List Nat :=
  hub.connections.zipIdx.flatMap fun (c, i) =>
    List.replicate ((hub.server.queue c.session).frames.length + 1) i

/-- Brings a hub to rest in which no client has sent more than one thing since it was at rest: what
is queued is written, what has come is taken up, and what this brought about is written. -/
def settle (hub : Hub) (clock : Clock) : Option (Hub × Clock) := do
  let (hub, clock) ← hub.run clock hub.backlog
  hub.run clock hub.backlog

end Hub

end ChatRelay

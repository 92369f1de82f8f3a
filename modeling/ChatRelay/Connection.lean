import ChatRelay.Server.Request

/-!
# Connections

The loop that serves one connection. A round of it is one `step`: what is queued for the session
comes first, then the end of the queue, and only then what the client has sent. So a connection
whose session was replaced writes out what was queued before and ends, without another look at its
client.
-/

namespace ChatRelay

/-- What comes from a client. -/
inductive Incoming where
  | text (text : String)
  | binary (octets : List UInt8)
  | ping (payload : List UInt8)
  | pong (payload : List UInt8)
  /-- The client says that it closes the connection. -/
  | close
  /-- The connection fails. -/
  | lost
  /-- Nothing more comes. -/
  | finished
  deriving DecidableEq, Repr

/-- What goes to a client. -/
inductive Outgoing where
  | frame (frame : ServerFrame)
  | pong (payload : List UInt8)
  | close
  deriving DecidableEq, Repr

/-- The connection of a client. -/
structure Connection where
  user : UserId
  session : SessionId
  /-- What has come from the client and was not read. -/
  inbox : List Incoming := []
  /-- What was written to the client. -/
  written : List Outgoing := []
  isOpen : Bool := true
  deriving DecidableEq, Repr

/-- The outcome of a round: the connection, the server and the clock after it. -/
structure Turn where
  connection : Connection
  server : Server
  clock : Clock

namespace Connection

/-- Writes to the client. -/
def write (c : Connection) (outgoing : Outgoing) : Connection :=
  { c with written := c.written ++ [outgoing] }

/-- The time from one reading of a clock to another, in seconds. -/
def elapsed (start stop : Millis) : Double := .ofRatio (stop.toNat - start.toNat : Nat) 1000

/-- Accepts a connection of a user: a session is opened, and its name is written. -/
def accept (server : Server) (now : Millis) (user : UserId) (address : Option String)
    (session : SessionId) : Connection × Server :=
  (({ user, session } : Connection).write (.frame (.connected session user)),
    (server.record (·.connection)).openSession now user address session)

/-- Ends the connection. Its session is closed, unless a newer one has taken its place. -/
def finish (c : Connection) (server : Server) (clock : Clock) : Turn :=
  { connection := { c with isOpen := false }
    server := (server.closeSession c.user c.session).record (·.disconnection)
    clock }

/-- Breaks the connection off, because the program has stopped at something that came from the
client. Nothing is written. The session stays as it is, with a queue from which nobody takes any
more. -/
def breakOff (c : Connection) (server : Server) (clock : Clock) : Turn :=
  { connection := { c with isOpen := false }, server := server.record (·.disconnection), clock }

/-- Writes the reply to a text that was read at an instant. -/
def reply (c : Connection) (read : Millis) (r : Reply) : Turn :=
  { connection := c.write (.frame r.frame)
    server := r.server.record (·.frameHandled (elapsed read r.clock.now)), clock := r.clock }

/-- Answers a text. One that is no frame is answered by an error and changes nothing else. -/
def answer (c : Connection) (server : Server) (clock : Clock) (text : String) : Option Turn :=
  match ClientFrame.decode text with
  | .ok frame =>
    if server.stops clock.now c.user frame then some (c.breakOff server clock)
    else (server.handle clock c.user frame).map (c.reply clock.now)
  | .error e =>
    some (c.reply clock.now { frame := .error 0 .invalidFrame e.message
                              server := server.record (·.error .decode), clock })

/-- Takes up what has come from the client. -/
def receive (c : Connection) (server : Server) (clock : Clock) : Incoming → Option Turn
  | .text text => c.answer server clock text
  | .binary _ =>
    let frame := .error 0 .unsupported "Binary frames are not supported"
    some { connection := c.write (.frame frame), server, clock }
  | .ping payload => some { connection := c.write (.pong payload), server, clock }
  | .pong _ => some { connection := c, server, clock }
  | .close | .finished => some (c.finish server clock)
  | .lost => some (c.finish (server.record (·.error .webSocket)) clock)

/-- One round of the loop. A connection that has ended, or for which there is nothing to do, stays
as it is. There is no outcome, `none`, only if the readings of the clock end while an identifier is
minted. -/
def step (c : Connection) (server : Server) (clock : Clock) : Option Turn :=
  if !c.isOpen then some { connection := c, server, clock }
  else
    let queue := server.queue c.session
    match queue.frames with
    | frame :: frames =>
      some { connection := c.write (.frame frame)
             server := server.modifyQueue c.session ({ · with frames }), clock }
    | [] =>
      if queue.closed then some ((c.write .close).finish server clock)
      else
        match c.inbox with
        | [] => some { connection := c, server, clock }
        | incoming :: inbox => { c with inbox }.receive server clock incoming

end Connection

end ChatRelay

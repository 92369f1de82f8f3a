import ChatRelay.Server

/-!
# Requests

How a server answers the frames of its clients. Each frame gets one reply, except one that stops the
program where it is handled (`Server.stops`); what it brings about for others goes to their queues.
-/

namespace ChatRelay

/-- The outcome of a frame: the reply, the server after it, and the clock with the last reading
that was taken and the readings that were left. -/
structure Reply where
  frame : ServerFrame
  server : Server
  clock : Clock

namespace Server

/-- Stores a message for one recipient and hands it to their session, if they have one. A
recipient who watches the thread counts as having read the message. -/
def deliverTo (message : Message) (s : Server) (target : UserId) : Server :=
  let s := { s with store := s.store.insert target (.ofMessage message) }
  let decision := s.registry.route s.generator.epoch target message
  let s := s.record (·.delivery decision)
  match decision with
  | .dropped => s
  | .notification => s.push target (.notification notificationTopic message)
  | .direct =>
    let s := s.push target (.message message.threadId.topic message)
    { s with
      store := s.store.markRead target message.threadId message.bucket message.messageId }

/-- Stores a message that was given its identifier for its author, who has read it, and delivers it
to its recipients in their order. -/
def deliver (s : Server) (fanout : Fanout) : Server :=
  let s := s.record (·.idMinted)
  let s :=
    { s with
      store := s.store.insert fanout.message.author
        ((Record.ofMessage fanout.message).withRead true) }
  fanout.recipients.foldl (deliverTo fanout.message) s

/-- Sends a message. If no identifier can be minted nothing is stored. -/
def send (s : Server) (clock : Clock) (id : RequestId) (draft : Draft) (members : List UserId) :
    Option Reply := do
  let minting ← s.generator.mint clock
  let s := { s with generator := minting.generator }
  let clock : Clock := { now := minting.reading, later := minting.unread }
  match minting.result with
  | .ok messageId =>
    return { frame := .ack id (some messageId)
             server := s.deliver (.ofDraft s.index messageId draft members), clock }
  | .error e =>
    return { frame := .error id .idUnavailable e.message
             server := s.record (·.error .idGeneration), clock }

/-- Serves a page of a thread's history to a user. There is no outcome, `none`, if the program stops
on the way to the page. -/
def sendHistory (s : Server) (now : Millis) (id : RequestId) (user : UserId) (thread : ThreadId)
    (query : HistoryQuery) : Option (ServerFrame × Server) :=
  match (s.history.fetchMarking (s.store.reader user thread) .embedded now thread query).2 with
  | .ok (page, mark) =>
    let store := match mark with
      | some record => s.store.markRead user thread record.bucket record.messageId
      | none => s.store
    some (.history id page.records (page.next.map (·.cursor)) (page.next.map (·.bucket)),
      { s with store }.record (·.historyPage page.records.length))
  | .error .overflow => none
  | .error e => some (.error id .historyFailed e.message, s.record (·.error .history))

/-- Goes through members of a thread, of whom those in `seen` have come before, and tells each new
one who is connected that a user is typing. `notified` were told so far; the number of all who are
told comes with the server. -/
def notifyTyping (user : UserId) (thread : ThreadId) (seen : List UserId) (notified : Nat)
    (s : Server) : (members : List UserId) → Nat × Server
  | [] => (notified, s)
  | member :: members =>
    if member ∈ seen then s.notifyTyping user thread seen notified members
    else if s.registry.isConnected member then
      (s.push member (.typing typingTopic user thread)).notifyTyping user thread (member :: seen)
        (notified + 1) members
    else s.notifyTyping user thread (member :: seen) notified members

/-- Tells the other members of a thread who are connected that a user is typing, each of them once,
and says how many were told. -/
def sendTyping (s : Server) (user : UserId) (thread : ThreadId) (members : List UserId) :
    Nat × Server :=
  s.notifyTyping user thread [user] 0 members

/-- Whether a frame of a user stops the program where it is handled. Nobody gets a reply then, and
what was done before stays as it is. -/
def stops (s : Server) (now : Millis) (user : UserId) : ClientFrame → Bool
  | .history _ thread query =>
    match (s.history.fetch (s.store.reader user thread) .embedded now thread query).outcome with
    | .error .overflow => true
    | _ => false
  | _ => false

/-- Answers a frame of a user. There is no answer, `none`, only if the frame stops the program or
the readings of the clock end while an identifier is minted. -/
def handle (s : Server) (clock : Clock) (user : UserId) : ClientFrame → Option Reply
  | .subscribe id topic =>
    let subscription : Subscription :=
      { topic, joinedAt := clock.now, subscriptionId := toString id }
    if s.registry.isConnected user then
      some { frame := .ack id none
             server := { s with registry := s.registry.subscribe user subscription }, clock }
    else
      some { frame := .error id .notConnected "Session is not connected", server := s, clock }
  | .unsubscribe id topic =>
    some { frame := .ack id none
           server := { s with registry := s.registry.unsubscribe user topic }, clock }
  | .send id threadId threadName members body =>
    s.send clock id { threadId, threadName, author := user, body } members
  | .history id thread query =>
    (s.sendHistory clock.now id user thread query).map fun (frame, server) =>
      { frame, server, clock }
  | .typing id thread members =>
    some { frame := .ack id none, server := (s.sendTyping user thread members).2, clock }
  | .ping timestamp => some { frame := .pong timestamp, server := s, clock }

end Server

end ChatRelay

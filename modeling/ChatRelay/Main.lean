import ChatRelay.Hub
import Std.Time.DateTime.Timestamp

/-!
# Command line

Serves the clients that the standard input speaks for, with the settings of the first configuration
file. Each line is one thing that a client does:

* `connect TARGET` asks for a WebSocket; the connections are numbered from one;
* `text N FRAME`, `ping N PAYLOAD`, `close N` and `lost N` come from the client of connection `N`;
* `METHOD TARGET` is any other request.

What a connection was written is shown behind its number.
-/

namespace ChatRelay.Console

/-! ## Commands -/

/-- What a line of the input stands for. -/
inductive Command where
  | connect (target : String)
  | client (connection : Nat) (incoming : Incoming)
  | request (method target : String)
  deriving DecidableEq, Repr

/-- The first word of a text, and the text after the blank behind it. -/
def word (text : String) : String × String :=
  let (first, rest) := Http.divide ' ' text.toList
  (String.ofList first, String.ofList rest)

/-- What a client does, by its name. -/
def incoming? (name content : String) : Option Incoming :=
  match name with
  | "text" => some (.text content)
  | "ping" => some (.ping content.toUTF8.toList)
  | "close" => some .close
  | "lost" => some .lost
  | _ => none

/-- Reads a line. The connections are numbered from one. -/
def Command.ofText (line : String) : Command :=
  let (name, rest) := word line
  let (number, content) := word rest
  match name, number.toNat?, incoming? name content with
  | "connect", _, _ => .connect rest
  | _, some (n + 1), some incoming => .client n incoming
  | _, _, _ => .request name rest

/-- What was written to a client, as it is shown. -/
def shown : Outgoing → String
  | .frame frame => frame.encode
  | .pong _ => "pong"
  | .close => "close"

/-! ## The host -/

/-- The Unix time. -/
def now : IO Millis := do
  return (← Std.Time.Timestamp.now).toMillisecondsSinceUnixEpoch.val.toNat.toUInt64

/-- The content of a file, `none` for a file that cannot be read. -/
def content? (path : String) : BaseIO (Option (List UInt8)) := do
  let .ok octets ← (IO.FS.readBinFile path).toBaseIO | return none
  return some octets.toList

/-- The network interfaces, or why they are not listed. -/
def interfaces : BaseIO (Except String (List Interface)) := do
  match ← (IO.FS.readBinFile "/proc/net/dev").toBaseIO with
  | .error e => return .error (toString e)
  | .ok octets =>
    let lines := Http.parts '\n' (Utf8.lenient octets.toList).toList
    let names := (lines.filter (·.contains ':')).map fun line =>
      String.ofList ((Http.divide ':' line).1.filter fun c => !Blank.isBlank c)
    .ok <$> names.mapM fun name => do
      return { name, address := ← content? ("/sys/class/net/" ++ name ++ "/address") }

/-- What this host supplies. -/
def host : BaseIO Host := do
  let node ← IO.rand 0 0xFFFF
  let sequence ← IO.rand 0 0xFFFF
  return { interfaces := ← interfaces
           randomNode := node.toUInt16
           firstSequence := sequence.toUInt16 }

/-- The name of a new session: a random UUID, of version 4. -/
def newSession : BaseIO SessionId := do
  let high ← IO.rand 0 0xFFFFFFFFFFFF
  let middle ← IO.rand 0x4000 0x4FFF
  let low ← IO.rand 0x8000000000000000 0xBFFFFFFFFFFFFFFF
  return (Uuid.ofNat ((high <<< 80) + (middle <<< 64) + low)).text

/-- The settings in the first configuration file that exists. -/
def load : IO (Except ConfigError Config) := do
  let env : Environment :=
    { host := ← IO.getEnv "THREADLINE_HOST", port := ← IO.getEnv "THREADLINE_PORT" }
  for path in Config.searchPaths ((← IO.getEnv "HOME").getD "~") do
    if let some octets ← content? path then return Config.load env [(path, octets)]
  return Config.load env []

/-! ## The loop -/

/-- Brings a hub to rest. The clock is read again as long as an identifier waits for it. -/
partial def settle (hub : Hub) (clock : Clock) : IO Hub := do
  match hub.settle clock with
  | some (hub, _) => return hub
  | none =>
    IO.sleep 1
    settle hub { clock with later := clock.later ++ [← now] }

/-- Shows what was written to the connections since a hub was `before`. -/
def report (before after : Hub) : IO Unit := do
  for (c, i) in after.connections.zipIdx do
    let shownBefore := ((before.connections[i]?).map (·.written.length)).getD 0
    for outgoing in c.written.drop shownBefore do
      IO.println s!"{i + 1} {shown outgoing}"

/-- The hub after a command, before it is brought to rest. -/
def perform (hub : Hub) (instant : Millis) : Command → IO Hub
  | .connect target => do
    let upgrade := hub.upgrade target
    IO.println upgrade.status.code
    match upgrade with
    | .accepted user => return hub.accept instant user none (← newSession)
    | .refused _ => return hub
  | .client connection incoming => return hub.send connection incoming
  | .request method target => do
    let response := hub.respond method target
    IO.println response.status.code
    if let some body := response.body then IO.println body.text
    return hub

/-- Serves the clients until the input ends. -/
partial def serve (hub : Hub) (input : IO.FS.Stream) : IO Unit := do
  let line ← input.getLine
  if line.isEmpty then return
  let instant ← now
  let command := Command.ofText (String.ofList (line.toList.filter (· ≠ '\n')))
  let next ← settle (← perform hub instant command) { now := instant }
  report hub next
  serve next input

end ChatRelay.Console

/-- Starts a server and serves its clients, or says why it does not start. -/
def main : IO UInt32 := do
  match ← ChatRelay.Console.load with
  | .error e =>
    IO.eprintln s!"Error: {e.message}"
    return 1
  | .ok config =>
    match ChatRelay.Hub.start config (← ChatRelay.Console.host) (← ChatRelay.Console.now) with
    | .error e =>
      IO.eprintln s!"Error: {e.message}"
      return 1
    | .ok hub =>
      ChatRelay.Console.serve hub (← IO.getStdin)
      return 0

import ChatRelay.Http.Form
import ChatRelay.Http.Pattern
import ChatRelay.Http.Target
import ChatRelay.Server
import ChatRelay.Text.Blank

/-!
# Endpoints

A server answers on `/health`, where it says how it does, and on the paths that the pattern of its
WebSocket stands for, where it takes connections.
-/

namespace ChatRelay.Http

/-- The status of a response. -/
inductive Status where
  | switchingProtocols
  | ok
  | badRequest
  | notFound
  | methodNotAllowed
  | uriTooLong
  deriving DecidableEq, Repr

/-- The number of a status. -/
def Status.code : Status → Nat
  | switchingProtocols => 101
  | ok => 200
  | badRequest => 400
  | notFound => 404
  | methodNotAllowed => 405
  | uriTooLong => 414

/-- The status that answers a request without a target. -/
def TargetError.status : TargetError → Status
  | malformed => .badRequest
  | tooLong => .uriTooLong

/-- What a server has on a path. -/
inductive Resource where
  | webSocket
  | health
  deriving DecidableEq, Repr

/-- The path on which a server says how it does. -/
def healthPath : List Char := "/health".toList

/-- What a server whose WebSocket has a given pattern has on a path. The path of `health` comes
before every pattern. With a slash behind it, it is not left to a parameter that starts within it;
with anything else behind it, it is. -/
def resource? (webSocket : Pattern) (path : List Char) : Option Resource :=
  if path = healthPath then some .health
  else if path = healthPath ++ ['/'] && webSocket.branchesWithin healthPath then none
  else if webSocket.admits path then some .webSocket
  else none

/-- The answer to a request. -/
structure Response where
  status : Status
  body : Option Json := none
  deriving Repr

/-- How a server does. -/
def health (s : Server) : Json :=
  .ofMembers [
    ("bucket_size_ms", .ofInt s.index.size.toInt),
    ("node_id", .ofInt s.generator.node.val),
    ("page_size", .ofInt s.history.pageSize),
    ("sessions", .ofInt s.registry.size),
    ("status", .ofText "ok"),
    ("version", .ofText "0.1.0")]

/-- The answer to a request with a target that is not to become a WebSocket. -/
def answer (s : Server) (webSocket : Pattern) (method : String) (target : Target) : Response :=
  match resource? webSocket target.path with
  | none => { status := .notFound }
  | some .webSocket => { status := if method = "GET" then .badRequest else .methodNotAllowed }
  | some .health =>
    if method = "GET" then { status := .ok, body := some (health s) }
    else if method = "HEAD" then { status := .ok }
    else { status := .methodNotAllowed }

/-- The answer to a request that is not to become a WebSocket. -/
def respond (s : Server) (webSocket : Pattern) (method target : String) : Response :=
  if !isMethod method then { status := .badRequest }
  else
    match Target.ofText target with
    | .ok target => answer s webSocket method target
    | .error e => { status := e.status }

/-- The user who connects with a target: the one field `user` of its query, if it holds more than
white space. -/
def Target.user? (target : Target) : Option UserId :=
  ((Form.ofText target.query).only? "user").filter fun user => !Blank.isBlankText user

/-- What becomes of a request for a WebSocket. -/
inductive Upgrade where
  | accepted (user : UserId)
  | refused (response : Response)
  deriving Repr

/-- The status that answers a request for a WebSocket. -/
def Upgrade.status : Upgrade → Status
  | accepted _ => .switchingProtocols
  | refused response => response.status

/-- What becomes of a request for a WebSocket. On another path it is a request like any other. -/
def upgrade (s : Server) (webSocket : Pattern) (target : String) : Upgrade :=
  match Target.ofText target with
  | .error e => .refused { status := e.status }
  | .ok target =>
    match resource? webSocket target.path, target.user? with
    | some .webSocket, some user => .accepted user
    | some .webSocket, none => .refused { status := .badRequest }
    | _, _ => .refused (answer s webSocket "GET" target)

end ChatRelay.Http

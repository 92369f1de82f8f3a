import ChatRelay.Generator
import ChatRelay.Net.Address
import ChatRelay.Text.Utf8
import ChatRelay.Toml.Document
import ChatRelay.Toml.Fields

/-!
# Configuration

The settings of a server. They come from the first configuration file that exists; what it does
not set has a default, and the defaults of the host and the port can be set by the environment.
-/

namespace ChatRelay

/-- What the environment says about the defaults. -/
structure Environment where
  host : Option String := none
  port : Option String := none
  deriving DecidableEq, Repr

/-- How identifiers are minted. -/
structure IdConfig where
  /-- The instant that timestamps count from. -/
  epoch : Int64 := 0
  /-- The node, if it is given. -/
  node : Option UInt16 := none
  /-- Whether a node that is not given is drawn at random. -/
  randomNode : Bool := false
  /-- How far the clock may step back, in milliseconds. -/
  tolerance : UInt64 := 1000
  deriving DecidableEq, Repr

/-- How history is stored and read. -/
structure HistoryConfig where
  /-- The width of a bucket in milliseconds. -/
  bucketSize : Int64 := 864000000
  /-- The number of messages on a page. -/
  pageSize : Nat := 25
  deriving DecidableEq, Repr

/-- Whether and where metrics are exported. -/
structure MetricsConfig where
  enabled : Bool := true
  port : UInt16 := 9090
  deriving DecidableEq, Repr

/-- The settings of a server. -/
structure Config where
  host : String := "127.0.0.1"
  port : UInt16 := 8080
  webSocketPath : String := "/ws"
  ids : IdConfig := {}
  history : HistoryConfig := {}
  metrics : MetricsConfig := {}
  deriving DecidableEq, Repr

namespace Environment

/-- The default of the host. -/
def defaultHost (env : Environment) : String := env.host.getD "127.0.0.1"

/-- The default of the port. A text that is no port is passed over. -/
def defaultPort (env : Environment) : UInt16 :=
  match env.port.bind fun text => Decimal.readBounded? UInt16.size text.toList with
  | some port => port.toUInt16
  | none => 8080

end Environment

/-! ## Reading -/

namespace IdConfig

/-- The settings that a value gives. -/
def ofToml? (v : Toml) : Option IdConfig := do
  let fields ← v.fields? ["epoch_millis", "node_id", "random_node_id", "max_clock_regression_ms"]
  return { epoch := ← fields.field "epoch_millis" 0 Toml.int64?
           node := ← fields.field "node_id" none fun v => some <$> v.uint16?
           randomNode := ← fields.field "random_node_id" false Toml.bool?
           tolerance := ← fields.field "max_clock_regression_ms" 1000 Toml.uint64? }

/-- Where the node's identifier comes from. One that is given wins over a random one. -/
def nodeSource (c : IdConfig) : NodeSource :=
  match c.node with
  | some node => .explicit node
  | none => if c.randomNode then .random else .networkInterface

/-- The settings of the generator. -/
def generatorConfig (c : IdConfig) : GeneratorConfig :=
  { epoch := c.epoch, node := c.nodeSource, tolerance := c.tolerance }

end IdConfig

/-- The settings that a value gives. -/
def HistoryConfig.ofToml? (v : Toml) : Option HistoryConfig := do
  let fields ← v.fields? ["bucket_size_ms", "page_size"]
  return { bucketSize := ← fields.field "bucket_size_ms" 864000000 Toml.int64?
           pageSize := ← fields.field "page_size" 25 fun v => v.uint64?.map (·.toNat) }

/-- The settings that a value gives. -/
def MetricsConfig.ofToml? (v : Toml) : Option MetricsConfig := do
  let fields ← v.fields? ["enabled", "port"]
  return { enabled := ← fields.field "enabled" true Toml.bool?
           port := ← fields.field "port" 9090 Toml.uint16? }

/-- Why there are no settings. -/
inductive ConfigError where
  | unreadable (path : String)
  | malformed (path : String)
  deriving DecidableEq, Repr

/-- The wording of an error. -/
def ConfigError.message : ConfigError → String
  | unreadable path => s!"Failed to read config file: {path}"
  | malformed path => s!"Failed to parse config file: {path}"

namespace Config

/-- The settings without a file. -/
def ofEnvironment (env : Environment) : Config :=
  { host := env.defaultHost, port := env.defaultPort }

/-- The settings that a value gives. -/
def ofToml? (env : Environment) (v : Toml) : Option Config := do
  let fields ← v.fields? ["host", "port", "websocket_path", "snowflake", "history", "metrics"]
  return { host := ← fields.field "host" env.defaultHost Toml.text?
           port := ← fields.field "port" env.defaultPort Toml.uint16?
           webSocketPath := ← fields.field "websocket_path" "/ws" Toml.text?
           ids := ← fields.field "snowflake" {} IdConfig.ofToml?
           history := ← fields.field "history" {} HistoryConfig.ofToml?
           metrics := ← fields.field "metrics" {} MetricsConfig.ofToml? }

/-- The settings in a file, of which `octets` is the content if there is such a file. -/
def ofFile (env : Environment) (path : String) (octets : Option (List UInt8)) :
    Except ConfigError Config :=
  match octets.bind Utf8.text? with
  | none => .error (.unreadable path)
  | some text =>
    match (Toml.ofText? text).bind (ofToml? env) with
    | some config => .ok config
    | none => .error (.malformed path)

/-- Where configuration files are looked for, in this order. -/
def searchPaths (home : String) : List String :=
  ["threadline.toml", "/etc/threadline/threadline.toml",
    home ++ "/.config/threadline/threadline.toml"]

/-- The settings in the first of the files that exist, which are given by their paths and contents
in the order in which they are looked for. -/
def load (env : Environment) (files : List (String × List UInt8)) : Except ConfigError Config :=
  match files with
  | (path, octets) :: _ => ofFile env path (some octets)
  | [] => .ok (ofEnvironment env)

/-! ## Use -/

/-- The address to listen on, as it is written. -/
def bindText (c : Config) : String := c.host ++ ":" ++ toString c.port

/-- The address to listen on. -/
def bindAddress? (c : Config) : Option Net.SocketAddress := Net.SocketAddress.ofText? c.bindText

end Config

end ChatRelay

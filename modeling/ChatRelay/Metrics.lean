import ChatRelay.Delivery
import ChatRelay.Double

/-!
# Metrics

What a server counts and measures. A metric that was never recorded has no sample. What is measured
is exported in double precision.
-/

namespace ChatRelay

/-- The errors that are counted, by their labels. -/
inductive ErrorLabel where
  /-- A frame could not be read. -/
  | decode
  /-- No identifier could be minted. -/
  | idGeneration
  /-- A page of history could not be put together. -/
  | history
  /-- A connection was lost. -/
  | webSocket
  deriving DecidableEq, Repr

namespace ErrorLabel

/-- The label of an error. -/
def text : ErrorLabel → String
  | decode => "decode"
  | idGeneration => "id_generation"
  | history => "history"
  | webSocket => "websocket"

/-- All labels. -/
def all : List ErrorLabel := [decode, idGeneration, history, webSocket]

end ErrorLabel

/-- All that was recorded. -/
structure Metrics where
  connections : Nat := 0
  disconnections : Nat := 0
  /-- Sessions that a newer session of their user replaced. -/
  displaced : Nat := 0
  idsMinted : Nat := 0
  /-- How often each decision on a delivery was made. -/
  deliveries : Decision → Nat := fun _ => 0
  /-- The numbers of records of the pages of history, in their order. -/
  historyRecords : List Nat := []
  /-- The times that frames took, in their order. -/
  frameSeconds : List Double := []
  /-- How often each error occurred. -/
  errors : ErrorLabel → Nat := fun _ => 0

namespace Metrics

/-! ## Recording -/

/-- A connection was made. -/
def connection (m : Metrics) : Metrics := { m with connections := m.connections + 1 }

/-- A connection ended. -/
def disconnection (m : Metrics) : Metrics := { m with disconnections := m.disconnections + 1 }

/-- A session was replaced. -/
def displacement (m : Metrics) : Metrics := { m with displaced := m.displaced + 1 }

/-- An identifier was minted. -/
def idMinted (m : Metrics) : Metrics := { m with idsMinted := m.idsMinted + 1 }

/-- A delivery was decided on. -/
def delivery (m : Metrics) (decision : Decision) : Metrics :=
  { m with
    deliveries := fun d => if d = decision then m.deliveries d + 1 else m.deliveries d }

/-- A page of history was served. -/
def historyPage (m : Metrics) (records : Nat) : Metrics :=
  { m with historyRecords := m.historyRecords ++ [records] }

/-- A frame was handled. -/
def frameHandled (m : Metrics) (seconds : Double) : Metrics :=
  { m with frameSeconds := m.frameSeconds ++ [seconds] }

/-- An error occurred. -/
def error (m : Metrics) (label : ErrorLabel) : Metrics :=
  { m with errors := fun l => if l = label then m.errors l + 1 else m.errors l }

/-- The number of pages of history that were served. -/
def historyPages (m : Metrics) : Nat := m.historyRecords.length

/-- The number of connections that have not ended. -/
def activeConnections (m : Metrics) : Int := m.connections - m.disconnections

/-! ## Export -/

/-- The value of a metric. -/
inductive Value where
  | counter (n : Nat)
  | gauge (n : Int)
  | histogram (values : List Double)
  deriving DecidableEq, Repr

/-- A metric that was recorded, with its label if it has one. -/
structure Sample where
  name : String
  label : Option (String × String) := none
  value : Value
  deriving DecidableEq, Repr

/-- The kind of a value. -/
def Value.kind : Value → String
  | counter _ => "counter"
  | gauge _ => "gauge"
  | histogram _ => "histogram"

/-- A metric as it is announced before it is recorded. -/
structure Description where
  kind : String
  name : String
  text : String
  deriving DecidableEq, Repr

/-- All metrics. -/
def descriptions : List Description := [
  ⟨"counter", "threadline_connections_total",
    "Total number of connections since server start"⟩,
  ⟨"gauge", "threadline_connections_active", "Current number of active connections"⟩,
  ⟨"counter", "threadline_sessions_displaced_total",
    "Sessions replaced by a newer connection of the same user"⟩,
  ⟨"counter", "threadline_ids_minted_total", "Message ids minted"⟩,
  ⟨"counter", "threadline_deliveries_total", "Per-recipient delivery decisions by outcome"⟩,
  ⟨"counter", "threadline_history_pages_total", "History pages served"⟩,
  ⟨"histogram", "threadline_history_records", "Records per history page"⟩,
  ⟨"histogram", "threadline_frame_seconds", "Client frame handling time in seconds"⟩,
  ⟨"counter", "threadline_errors_total", "Total number of errors"⟩]

/-- The sample of a counter that is not zero. -/
def counted (name : String) (n : Nat) (label : Option (String × String) := none) : List Sample :=
  if n = 0 then [] else [{ name, label, value := .counter n }]

/-- The sample of a histogram that is not empty. -/
def measured (name : String) (values : List Double) : List Sample :=
  if values = [] then [] else [{ name, value := .histogram values }]

/-- All that was recorded, as it is exported. -/
def samples (m : Metrics) : List Sample :=
  counted "threadline_connections_total" m.connections ++
  (if m.connections = 0 ∧ m.disconnections = 0 then []
    else [{ name := "threadline_connections_active", value := .gauge m.activeConnections }]) ++
  counted "threadline_sessions_displaced_total" m.displaced ++
  counted "threadline_ids_minted_total" m.idsMinted ++
  [Decision.dropped, .notification, .direct].flatMap (fun d =>
    counted "threadline_deliveries_total" (m.deliveries d) (some ("outcome", d.label))) ++
  counted "threadline_history_pages_total" m.historyPages ++
  measured "threadline_history_records" (m.historyRecords.map Double.ofNat) ++
  measured "threadline_frame_seconds" m.frameSeconds ++
  ErrorLabel.all.flatMap fun l =>
    counted "threadline_errors_total" (m.errors l) (some ("type", l.text))

end Metrics

end ChatRelay

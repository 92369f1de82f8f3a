import ChatRelay.Bucket
import ChatRelay.Clock
import ChatRelay.Config
import ChatRelay.Connection
import ChatRelay.Delivery
import ChatRelay.Double
import ChatRelay.Frame.Client
import ChatRelay.Frame.Server
import ChatRelay.Generator
import ChatRelay.History
import ChatRelay.History.Reader
import ChatRelay.History.Serving
import ChatRelay.Http.Endpoint
import ChatRelay.Http.Form
import ChatRelay.Http.Pattern
import ChatRelay.Http.Target
import ChatRelay.Hub
import ChatRelay.Json
import ChatRelay.Json.Document
import ChatRelay.Json.Layout
import ChatRelay.Json.Numeral
import ChatRelay.Json.Quoted
import ChatRelay.Json.Tagged
import ChatRelay.Json.Token
import ChatRelay.Main
import ChatRelay.Message
import ChatRelay.MessageId
import ChatRelay.Metrics
import ChatRelay.Net.Address
import ChatRelay.Node
import ChatRelay.Proofs.Bucket
import ChatRelay.Proofs.Connection
import ChatRelay.Proofs.Creation
import ChatRelay.Proofs.Double
import ChatRelay.Proofs.Frame
import ChatRelay.Proofs.Generator
import ChatRelay.Proofs.History.Content
import ChatRelay.Proofs.History.Exhaustion
import ChatRelay.Proofs.History.Newest
import ChatRelay.Proofs.History.Scroll
import ChatRelay.Proofs.Hub
import ChatRelay.Proofs.Json.Document
import ChatRelay.Proofs.Json.Fields
import ChatRelay.Proofs.Json.Numeral
import ChatRelay.Proofs.Json.Quoted
import ChatRelay.Proofs.Json.Token
import ChatRelay.Proofs.Message
import ChatRelay.Proofs.MessageId
import ChatRelay.Proofs.Present
import ChatRelay.Proofs.Registry.Calls
import ChatRelay.Proofs.Registry.Held
import ChatRelay.Proofs.Server.Announced
import ChatRelay.Proofs.Server.Messages
import ChatRelay.Proofs.Server.Queues
import ChatRelay.Proofs.Server.ReadBack
import ChatRelay.Proofs.Server.Run
import ChatRelay.Proofs.Server.Sessions
import ChatRelay.Proofs.Server.Stored
import ChatRelay.Proofs.Server.Watching
import ChatRelay.Proofs.Session
import ChatRelay.Proofs.Store.Messages
import ChatRelay.Proofs.Store.Partition
import ChatRelay.Proofs.Store.Rows
import ChatRelay.Proofs.Wire
import ChatRelay.Server
import ChatRelay.Server.Request
import ChatRelay.Session
import ChatRelay.Store
import ChatRelay.Store.Partition
import ChatRelay.Text.Blank
import ChatRelay.Text.Decimal
import ChatRelay.Text.Hex
import ChatRelay.Text.Scan
import ChatRelay.Text.Utf8
import ChatRelay.Thread
import ChatRelay.Toml
import ChatRelay.Toml.Blank
import ChatRelay.Toml.Document
import ChatRelay.Toml.Fields
import ChatRelay.Toml.Numeral
import ChatRelay.Toml.Quoted
import ChatRelay.Uuid
import ChatRelay.Wire
import ChatRelay.Proofs.History.Beginning
import ChatRelay.Proofs.History.Before
import ChatRelay.Proofs.History.Questions
import ChatRelay.Proofs.History.Range
import ChatRelay.Proofs.History.Resumption
import ChatRelay.Proofs.Store.Cursor
import ChatRelay.Proofs.Node
import ChatRelay.Proofs.Server.Counts
import ChatRelay.Proofs.Server.ReadFlags
import ChatRelay.Proofs.History.Calls
import ChatRelay.Proofs.Store.Arrivals
import ChatRelay.Proofs.Generator.Failure
import ChatRelay.Proofs.Generator.Tolerance
import ChatRelay.Proofs.History.Excess
import ChatRelay.Proofs.History.Failure
import ChatRelay.Proofs.History.Marking
import ChatRelay.Proofs.Store.Ledger
import ChatRelay.Proofs.Server.Typing
import ChatRelay.Proofs.Server.Isolation
import ChatRelay.Proofs.Server.Members
import ChatRelay.Proofs.Connection.Acts
import ChatRelay.Proofs.Hub.Transcript
import ChatRelay.Proofs.Bucket.Order
import ChatRelay.Proofs.Bucket.Range
import ChatRelay.Proofs.Instant
import ChatRelay.Proofs.Generator.Waiting
import ChatRelay.Proofs.Json.Declared
import ChatRelay.Proofs.Json.Faulty
import ChatRelay.Proofs.Json.Spelling
import ChatRelay.Proofs.Json.Tagged
import ChatRelay.Proofs.Frame.Spelling
import ChatRelay.Proofs.Node.Interfaces

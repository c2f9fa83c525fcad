import EventLink.Binary.Decimal
import EventLink.Binary.Rounding
import EventLink.Binary.Shortest
import EventLink.Client.Endpoint
import EventLink.Client.Error
import EventLink.Client.Settings
import EventLink.Environment
import EventLink.Frame.Incoming
import EventLink.Frame.Outgoing
import EventLink.Frame.Payload
import EventLink.Handler
import EventLink.Json.Fault
import EventLink.Json.Lexemes
import EventLink.Json.Number
import EventLink.Json.NumberLiteral
import EventLink.Json.Numeral
import EventLink.Json.Printer
import EventLink.Json.Reader
import EventLink.Json.StringLiteral
import EventLink.Json.Token
import EventLink.Json.Value
import EventLink.LinkStatus
import EventLink.Loop.Command
import EventLink.Loop.Effect
import EventLink.Loop.Outbox
import EventLink.Loop.State
import EventLink.Loop.Step
import EventLink.Pattern.CharSet
import EventLink.Pattern.Check
import EventLink.Pattern.Element
import EventLink.Pattern.Mode
import EventLink.Proofs.Client.Endpoint
import EventLink.Proofs.Frame.Incoming
import EventLink.Proofs.Frame.NumericIds
import EventLink.Proofs.Frame.Outgoing
import EventLink.Proofs.Frame.Relay
import EventLink.Proofs.Json.Canonical
import EventLink.Proofs.Json.Grammar
import EventLink.Proofs.Json.Lookup
import EventLink.Proofs.Json.Numerals
import EventLink.Proofs.Json.Printing
import EventLink.Proofs.Json.Reading
import EventLink.Proofs.Json.Strings
import EventLink.Proofs.Json.Tokens
import EventLink.Proofs.Loop.Accounts
import EventLink.Proofs.Loop.Audience
import EventLink.Proofs.Loop.Calls
import EventLink.Proofs.Loop.ConnectionTrace
import EventLink.Proofs.Loop.Correlation
import EventLink.Proofs.Loop.Delivery
import EventLink.Proofs.Loop.Driven
import EventLink.Proofs.Loop.Endurance
import EventLink.Proofs.Loop.Expiry
import EventLink.Proofs.Loop.Fate
import EventLink.Proofs.Loop.FrameOrder
import EventLink.Proofs.Loop.Heartbeats
import EventLink.Proofs.Loop.Identifiers
import EventLink.Proofs.Loop.Incoming
import EventLink.Proofs.Loop.Lifecycle
import EventLink.Proofs.Loop.Measurements
import EventLink.Proofs.Loop.Memory
import EventLink.Proofs.Loop.Notices
import EventLink.Proofs.Loop.NumericReplies
import EventLink.Proofs.Loop.Outstanding
import EventLink.Proofs.Loop.Panics
import EventLink.Proofs.Loop.Phase
import EventLink.Proofs.Loop.Reacts
import EventLink.Proofs.Loop.Registration
import EventLink.Proofs.Loop.Relabel
import EventLink.Proofs.Loop.Requests
import EventLink.Proofs.Loop.Retries
import EventLink.Proofs.Loop.Reuse
import EventLink.Proofs.Loop.Routine
import EventLink.Proofs.Loop.Run
import EventLink.Proofs.Loop.Service
import EventLink.Proofs.Loop.Timing
import EventLink.Proofs.Loop.Writing
import EventLink.Proofs.Reply.Waiting
import EventLink.Proofs.Simulation.Channels
import EventLink.Proofs.Simulation.Readings
import EventLink.Proofs.Simulation.Requests
import EventLink.Proofs.Subscriptions.Log
import EventLink.Proofs.Telemetry.Ledger
import EventLink.Proofs.Time.Backoff
import EventLink.Proofs.Time.Delays
import EventLink.Proofs.Time.Parts
import EventLink.Proofs.Time.Ticker
import EventLink.Reply.IdSource
import EventLink.Reply.Session
import EventLink.Reply.Shape
import EventLink.Reply.Table
import EventLink.Simulation.Script
import EventLink.Simulation.World
import EventLink.Subscriptions
import EventLink.Telemetry.Ledger
import EventLink.Telemetry.LogFilter
import EventLink.Telemetry.Settings
import EventLink.Text.Blank
import EventLink.Text.Hidden
import EventLink.Text.Letter
import EventLink.Text.Quoted
import EventLink.Time.Backoff
import EventLink.Time.Duration
import EventLink.Time.Heartbeat
import EventLink.Time.Ticker

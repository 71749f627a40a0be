import CallDispatch.Config.Basic
import CallDispatch.Config.Json
import CallDispatch.Config.Logging
import CallDispatch.Connection.Entry
import CallDispatch.Connection.Lifecycle
import CallDispatch.Connection.Tags
import CallDispatch.Connection.Transport
import CallDispatch.Dial.Dialer
import CallDispatch.Dial.Error
import CallDispatch.Dial.Locks
import CallDispatch.Dial.Target
import CallDispatch.Dispatch.Basic
import CallDispatch.Dispatch.Calls
import CallDispatch.Frame.Basic
import CallDispatch.Frame.Codec
import CallDispatch.Json.Basic
import CallDispatch.Json.Decode
import CallDispatch.Json.Number
import CallDispatch.Json.Token
import CallDispatch.Link.Error
import CallDispatch.Link.Establish
import CallDispatch.Link.Handshake
import CallDispatch.Link.Reader
import CallDispatch.Link.Wire
import CallDispatch.Net.Ipv4
import CallDispatch.Net.Ipv6
import CallDispatch.Net.SocketAddress
import CallDispatch.Policy.Instruction
import CallDispatch.Policy.Outcome
import CallDispatch.Policy.Resolver
import CallDispatch.Policy.RouteTable
import CallDispatch.Registry.Basic
import CallDispatch.Registry.Selection
import CallDispatch.Registry.Sweep
import CallDispatch.Server.Basic
import CallDispatch.Server.Error
import CallDispatch.Sip.Request
import CallDispatch.Sip.Status
import CallDispatch.Switchboard.Basic
import CallDispatch.Switchboard.Flights
import CallDispatch.Text.Blank
import CallDispatch.Text.Case
import CallDispatch.Text.Decimal
import CallDispatch.Text.Duration
import CallDispatch.Text.Extending
import CallDispatch.Text.FormEncoding
import CallDispatch.Text.Hex
import CallDispatch.Text.Hidden
import CallDispatch.Text.Mark
import CallDispatch.Text.Pieces
import CallDispatch.Text.Quoted
import CallDispatch.Text.TextSet
import CallDispatch.Text.Utf8
import CallDispatch.Url.Basic
import CallDispatch.Url.Composition
import CallDispatch.Url.Direction
import CallDispatch.Url.Host
import CallDispatch.Url.Joiner
import CallDispatch.Url.Label
import CallDispatch.Url.Parser
import CallDispatch.Url.Percent
import CallDispatch.Url.Punycode
import CallDispatch.Url.Replacement
import CallDispatch.Proofs.Registry.Operations
import CallDispatch.Proofs.Registry.Consistency
import CallDispatch.Proofs.Registry.RoundRobin
import CallDispatch.Proofs.Registry.Ageing
import CallDispatch.Proofs.Registry.Overtaking
import CallDispatch.Proofs.Registry.Phases
import CallDispatch.Proofs.Registry.Cache
import CallDispatch.Proofs.Registry.Membership
import CallDispatch.Proofs.Registry.Answers
import CallDispatch.Proofs.Dispatch.Flights
import CallDispatch.Proofs.Dispatch.Traffic
import CallDispatch.Proofs.Dispatch.Accounting
import CallDispatch.Proofs.Dispatch.Retrying
import CallDispatch.Proofs.Dispatch.Retirement
import CallDispatch.Proofs.Dispatch.Transports
import CallDispatch.Proofs.Dispatch.Directed
import CallDispatch.Proofs.Dispatch.Loss
import CallDispatch.Proofs.Dispatch.Attempts
import CallDispatch.Proofs.Dispatch.Walk
import CallDispatch.Proofs.Dispatch.Undelivered
import CallDispatch.Proofs.Dispatch.Offers
import CallDispatch.Proofs.Dispatch.Launch
import CallDispatch.Proofs.Dispatch.Sweep
import CallDispatch.Proofs.Text.Digits
import CallDispatch.Proofs.Text.Reading
import CallDispatch.Proofs.Lookup
import CallDispatch.Proofs.Net.SocketAddress
import CallDispatch.Proofs.Json.Token
import CallDispatch.Proofs.Json.Printing
import CallDispatch.Proofs.Json.Decode
import CallDispatch.Proofs.Config.Json
import CallDispatch.Proofs.Frame.Grammar
import CallDispatch.Proofs.Frame.Decoding
import CallDispatch.Proofs.Frame.Encoding
import CallDispatch.Proofs.Frame.Rendering
import CallDispatch.Proofs.Frame.Parsing
import CallDispatch.Proofs.Frame.Fields
import CallDispatch.Proofs.Frame.Responses
import CallDispatch.Proofs.Link.Stream
import CallDispatch.Proofs.Link.Admission
import CallDispatch.Proofs.Link.Reader
import CallDispatch.Proofs.Link.Service
import CallDispatch.Proofs.Link.Switchboard
import CallDispatch.Proofs.Link.Conversation
import CallDispatch.Proofs.Link.Standing
import CallDispatch.Proofs.Link.Rest
import CallDispatch.Proofs.Link.Endurance
import CallDispatch.Proofs.Link.Delivery
import CallDispatch.Proofs.Link.Handing
import CallDispatch.Proofs.Dial.Locks
import CallDispatch.Proofs.Dial.Errands
import CallDispatch.Proofs.Dial.OneDial
import CallDispatch.Proofs.Dial.Transports
import CallDispatch.Proofs.Dial.Outcomes
import CallDispatch.Proofs.Dial.Grammar
import CallDispatch.Proofs.Server.Refusals
import CallDispatch.Proofs.Server.Start
import CallDispatch.Proofs.Server.Addressed
import CallDispatch.Proofs.Sip.Uri
import CallDispatch.Proofs.Policy.RouteTable
import CallDispatch.Proofs.Connection.Tags
import CallDispatch.Proofs.Link.Authentication

import ProntoChat.Core.Transition
import ProntoChat.Core.Budget
import ProntoChat.Core.DropRing
import ProntoChat.Core.OrderedStream
import ProntoChat.Core.OfferAnswer
import ProntoChat.Core.QuotedText
import ProntoChat.Core.Buffer
import ProntoChat.Core.Lines
import ProntoChat.Core.Writing
import ProntoChat.Core.Chunks
import ProntoChat.Common.Protocole
import ProntoChat.Common.Json
import ProntoChat.Common.Sodium
import ProntoChat.Common.Crypto
import ProntoChat.Common.Transparent
import ProntoChat.Common.Handshake
import ProntoChat.Common.SingleUse
import ProntoChat.Common.StreamCalls
import ProntoChat.Common.Contacts
import ProntoChat.Common.FirstUse
import ProntoChat.Common.Config
import ProntoChat.Common.Rewrite
import ProntoChat.Common.Settings
import ProntoChat.Common.Identity
import ProntoChat.Common.TornPin
import ProntoChat.Daemon.Ice
import ProntoChat.Daemon.RecvRing
import ProntoChat.Daemon.IceConfig
import ProntoChat.Daemon.State
import ProntoChat.Daemon.Session
import ProntoChat.Daemon.Packets
import ProntoChat.Daemon.Service
import ProntoChat.Daemon.Control
import ProntoChat.Daemon.Ipc
import ProntoChat.Daemon.Texts
import ProntoChat.Daemon.Scenario
import ProntoChat.Daemon.Sending
import ProntoChat.Daemon.Protocol
import ProntoChat.Daemon.Refinement
import ProntoChat.Daemon.Invariants
import ProntoChat.Daemon.Ready
import ProntoChat.Daemon.Binding
import ProntoChat.Daemon.Authentication
import ProntoChat.Daemon.Isolation
import ProntoChat.Daemon.Line
import ProntoChat.Daemon.Attempts
import ProntoChat.Daemon.Connection
import ProntoChat.Daemon.Outbox
import ProntoChat.Daemon.Reports
import ProntoChat.Daemon.OpenChat
import ProntoChat.Daemon.Deadlines
import ProntoChat.Daemon.Channel
import ProntoChat.Daemon.Streams
import ProntoChat.Daemon.Ordering
import ProntoChat.Daemon.Descriptors
import ProntoChat.Server.Users
import ProntoChat.Server.Control
import ProntoChat.Server.Presence
import ProntoChat.Server.Delivery
import ProntoChat.Server.Login
import ProntoChat.Server.Registry
import ProntoChat.Server.Footprint
import ProntoChat.Server.Connections
import ProntoChat.Relay.Messages
import ProntoChat.Relay.Forwarding
import ProntoChat.Relay.Link
import ProntoChat.Relay.Answers
import ProntoChat.Relay.Reentry
import ProntoChat.Relay.OfflineReports
import ProntoChat.Relay.ErrorReplies
import ProntoChat.Client.Chat
import ProntoChat.Client.Commands
import ProntoChat.Client.Loop
import ProntoChat.Client.Fingerprint
import ProntoChat.Net.Network
import ProntoChat.Net.Payloads
import ProntoChat.Net.Framing
import ProntoChat.Net.Burst
import ProntoChat.Net.Port
import ProntoChat.Net.Secrets
import ProntoChat.Net.Exchange
import ProntoChat.Net.StreamHeaders
import ProntoChat.Net.Retransmission
import ProntoChat.Net.Flight
import ProntoChat.Net.Agreement
import ProntoChat.Net.Acceptance
import ProntoChat.Net.Establishment
import ProntoChat.Net.HonestPeers
import ProntoChat.Net.Quiescence
import ProntoChat.Relay.Opening

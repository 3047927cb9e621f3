import OpenClaw.Lib.OrderedMap
import OpenClaw.Lib.StableSort
import OpenClaw.Lib.Steps
import OpenClaw.Lib.CatchUp
import OpenClaw.Lib.ContiguousPrefix
import OpenClaw.Lib.Kahn
import OpenClaw.Lib.CausalOrder
import OpenClaw.Lib.Frontier
import OpenClaw.Lib.RankedOrder
import OpenClaw.Lib.Positions
import OpenClaw.Lib.Roster
import OpenClaw.Lib.FirstMatch
import OpenClaw.Lib.PartialIndex
import OpenClaw.Lib.Origins
import OpenClaw.Lib.Lines
import OpenClaw.Lib.RecentWindow
import OpenClaw.Runtime.Text
import OpenClaw.Runtime.Base64
import OpenClaw.Runtime.Number
import OpenClaw.Runtime.Object
import OpenClaw.Runtime.Value
import OpenClaw.Runtime.JsonEdit
import OpenClaw.Runtime.Coercion
import OpenClaw.Crdt.Op
import OpenClaw.Crdt.VersionVector
import OpenClaw.Crdt.Graph
import OpenClaw.Crdt.Convergence
import OpenClaw.Crdt.Materialize
import OpenClaw.Crdt.AntiEntropy
import OpenClaw.Crdt.Causality
import OpenClaw.Crdt.Cursors
import OpenClaw.Crdt.Summary
import OpenClaw.Crdt.VectorLattice
import OpenClaw.Crdt.Format
import OpenClaw.Desktop.Message
import OpenClaw.Desktop.Reconcile
import OpenClaw.Desktop.ChannelOrder
import OpenClaw.Desktop.MessageOrder
import OpenClaw.Desktop.Channel
import OpenClaw.Desktop.Transcript
import OpenClaw.Desktop.Inbox
import OpenClaw.Desktop.Confinement
import OpenClaw.Desktop.GatewayRequests
import OpenClaw.Desktop.AccountFlag
import OpenClaw.Desktop.ConfigOverride
import OpenClaw.Desktop.GatewayRuns
import OpenClaw.Desktop.Attribution
import OpenClaw.Desktop.ReplyText
import OpenClaw.Desktop.RunAliases
import OpenClaw.Desktop.Backend
import OpenClaw.Desktop.LinkTasks
import OpenClaw.Desktop.Disconnection
import OpenClaw.Desktop.Trust
import OpenClaw.Desktop.PendingAcks
import OpenClaw.Desktop.Redelivery
import OpenClaw.Desktop.Snapshot
import OpenClaw.Desktop.Approval
import OpenClaw.Desktop.TrustGate
import OpenClaw.Desktop.ChannelIdentity
import OpenClaw.Desktop.FinalReply
import OpenClaw.Desktop.Forward
import OpenClaw.Desktop.LinkHandles
import OpenClaw.Desktop.MobilePlugin
import OpenClaw.Mobile.ChatGraph
import OpenClaw.Mobile.Session
import OpenClaw.Mobile.Outgoing
import OpenClaw.Mobile.SessionLog
import OpenClaw.Mobile.Copies
import OpenClaw.Mobile.Refresh
import OpenClaw.Mobile.SessionList
import OpenClaw.Mobile.Removal
import OpenClaw.Mobile.Pairing
import OpenClaw.Peer.Channel
import OpenClaw.Peer.Authentication
import OpenClaw.Peer.AckTracker
import OpenClaw.Peer.Connections
import OpenClaw.Peer.Negotiation
import OpenClaw.Peer.Candidates
import OpenClaw.Chat.Cursor
import OpenClaw.Chat.Sending
import OpenClaw.Chat.Numbering
import OpenClaw.Chat.Transport
import OpenClaw.Chat.SyncRound
import OpenClaw.Chat.SystemOrder
import OpenClaw.Chat.Agreement
import OpenClaw.Chat.Dominance
import OpenClaw.Chat.SessionConvergence
import OpenClaw.Chat.TranscriptImport
import OpenClaw.Wire.Envelope
import OpenClaw.Wire.ChannelRevoke
import OpenClaw.Wire.ChatFormat
import OpenClaw.Server.Signal
import OpenClaw.Server.V1Store
import OpenClaw.Server.Persistence
import OpenClaw.Server.RedisInbox
import OpenClaw.Server.V1Indexes
import OpenClaw.Server.V1Changes
import OpenClaw.Server.V1Claims
import OpenClaw.Server.V1Revocation
import OpenClaw.Server.V2Store
import OpenClaw.Server.V2Changes
import OpenClaw.Server.V2Sessions
import OpenClaw.Server.V2Signals
import OpenClaw.Server.V2Delivery
import OpenClaw.Server.V2SignalOrder
import OpenClaw.Server.V2KeepAlive
import OpenClaw.Server.V2ClaimTokens
import OpenClaw.Server.V2Persistence
import OpenClaw.Server.V2Bindings
import OpenClaw.Server.V2LifeCycle
import OpenClaw.Server.V2Refusals
import OpenClaw.Server.V2Pinning
import OpenClaw.Server.V2Challenges
import OpenClaw.Server.V2Presence
import OpenClaw.Server.PersistTimer
import OpenClaw.Wire.EventStream
import OpenClaw.Wire.Reception
import OpenClaw.Pairing.Login
import OpenClaw.Pairing.QrCode
import OpenClaw.Pairing.SafetyCode

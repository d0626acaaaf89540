import Oxpulse.Foundation.Interleaving
import Oxpulse.Crypto.RatchetRuns
import Oxpulse.Crypto.Laws
import Oxpulse.Crypto.RatchetDelivery
import Oxpulse.Crypto.RatchetWindow
import Oxpulse.Crypto.NoiseXX
import Oxpulse.Crypto.NoiseSteps
import Oxpulse.Crypto.NoiseAgreement
import Oxpulse.Crypto.NoiseRetry
import Oxpulse.Crypto.NoiseTranscript
import Oxpulse.Transport.Frame
import Oxpulse.Transport.PeerRegistry
import Oxpulse.Transport.Handshake
import Oxpulse.Transport.HandshakeSegments
import Oxpulse.Transport.HandshakeOverlap
import Oxpulse.Transport.Mesh
import Oxpulse.Transport.MeshEvents
import Oxpulse.Transport.MeshSegments
import Oxpulse.Transport.MeshSteps
import Oxpulse.Transport.MeshCalls
import Oxpulse.Transport.MeshObjects
import Oxpulse.Transport.MeshSend
import Oxpulse.Transport.MeshAcceptance
import Oxpulse.Transport.MeshRegistered
import Oxpulse.Transport.MeshPace
import Oxpulse.Transport.FrameMix
import Oxpulse.Transport.MeshWrites
import Oxpulse.Crypto.NoiseSizes
import Oxpulse.Transport.FrameSizes
import Oxpulse.Foundation.ObjectStore
import Oxpulse.MeshCore.OutboxDrainer
import Oxpulse.MeshCore.DrainAccounting
import Oxpulse.Identity.Base64url
import Oxpulse.Identity.Device
import Oxpulse.Identity.AesKw
import Oxpulse.Identity.WrappingKey
import Oxpulse.Identity.DeviceIdentity
import Oxpulse.Identity.X25519
import Oxpulse.Identity.Requests
import Oxpulse.Identity.KekSteps
import Oxpulse.Identity.PairSteps
import Oxpulse.Identity.LockSteps
import Oxpulse.Identity.Recovery
import Oxpulse.Identity.Backup
import Oxpulse.Identity.Restore
import Oxpulse.Foundation.Phases
import Oxpulse.Identity.KeypairSteps
import Oxpulse.Identity.Minting
import Oxpulse.Identity.Keeps
import Oxpulse.Identity.OneFlight
import Oxpulse.Identity.FirstIdentity
import Oxpulse.Identity.FirstFlight
import Oxpulse.Identity.Tabs
import Oxpulse.Crypto.NonceUse
import Oxpulse.Transport.Reassembly
import Oxpulse.Foundation.FirstSeen
import Oxpulse.MeshCore.Dedupe
import Oxpulse.MeshCore.OnIncoming
import Oxpulse.MeshCore.Subscriptions
import Oxpulse.Foundation.IndexCursor
import Oxpulse.MeshCore.Mailbox
import Oxpulse.MeshCore.MailboxQuota
import Oxpulse.MeshCore.RouteOutgoing
import Oxpulse.Transport.ConnectionLimit
import Oxpulse.Transport.LinkMirror
import Oxpulse.Foundation.Bisection
import Oxpulse.MeshCore.Geohash
import Oxpulse.MeshCore.Channel
import Oxpulse.Foundation.Eviction
import Oxpulse.Transport.TofuPins
import Oxpulse.Foundation.RetryTable
import Oxpulse.Transport.BackoffWindow
import Oxpulse.Transport.PeerDecision
import Oxpulse.Transport.FailedConnect
import Oxpulse.Foundation.LabelledTrace
import Oxpulse.Transport.MeshBranches
import Oxpulse.Foundation.LiveSet
import Oxpulse.Transport.Announcements
import Oxpulse.Transport.LateFailures
import Oxpulse.Foundation.Recency
import Oxpulse.MeshCore.DedupeRuns
import Oxpulse.MeshCore.BloomStore
import Oxpulse.MeshCore.BloomRuns
import Oxpulse.MeshCore.BloomFlush
import Oxpulse.MeshCore.MailboxUpdates
import Oxpulse.MeshCore.OutboxRuns
import Oxpulse.MeshCore.InboxRuns
import Oxpulse.Foundation.PromiseAll
import Oxpulse.MeshCore.RouteDelivery
import Oxpulse.Foundation.JsValue
import Oxpulse.MeshCore.OnlineBridge
import Oxpulse.Foundation.BitString
import Oxpulse.Identity.Base64urlForm
import Oxpulse.Transport.PinEncoding
import Oxpulse.Foundation.HostTimers
import Oxpulse.MeshCore.MacRotation
import Oxpulse.Foundation.Separator
import Oxpulse.Foundation.JsNumber
import Oxpulse.Foundation.JsText
import Oxpulse.Identity.HostIdentity
import Oxpulse.Foundation.Preserves
import Oxpulse.Identity.SelfSig
import Oxpulse.Identity.LegacyEntry
import Oxpulse.Identity.RestoreOutcome
import Oxpulse.Transport.ProviderRuns
import Oxpulse.MeshCore.TokenRuns
import Oxpulse.Crypto.SecureChannel
import Oxpulse.Crypto.CompromisedState
import Oxpulse.MeshCore.MeshWrap
import Oxpulse.Transport.OneInitiator
import Oxpulse.Crypto.InOrder
import Oxpulse.Foundation.Pauses
import Oxpulse.Transport.Served
import Oxpulse.Transport.TwoDevices
import Oxpulse.Transport.Exchange
import Oxpulse.Transport.ServedHandshake
import Oxpulse.Transport.RegistryRuns
import Oxpulse.Transport.ShakingHands
import Oxpulse.Transport.FirstContact

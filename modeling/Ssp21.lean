import Ssp21.Foundation.Wire
import Ssp21.Foundation.Runs
import Ssp21.Foundation.History
import Ssp21.Foundation.OrderedMap
import Ssp21.Foundation.Gf2
import Ssp21.Codec.VLength
import Ssp21.Codec.Messages
import Ssp21.Codec.Certificates
import Ssp21.Codec.RoundTrip
import Ssp21.Codec.ChainVerification
import Ssp21.Link.CastagnoliCRC32
import Ssp21.Link.LinkParser
import Ssp21.Link.LinkFrame
import Ssp21.Link.FrameStream
import Ssp21.Link.Scanner
import Ssp21.Link.Resynchronization
import Ssp21.Link.ErrorDetection
import Ssp21.Link.LinkLayer
import Ssp21.Link.Delivery
import Ssp21.Link.Reopen
import Ssp21.Crypto.Backend
import Ssp21.Crypto.Session
import Ssp21.Crypto.Formatting
import Ssp21.Crypto.Statistics
import Ssp21.Crypto.AeadCalls
import Ssp21.Crypto.Authenticity
import Ssp21.Crypto.Handshake
import Ssp21.Crypto.HandshakeChecks
import Ssp21.Crypto.MirroredSessions
import Ssp21.Crypto.Layer
import Ssp21.Crypto.Moves
import Ssp21.Crypto.Emission
import Ssp21.Crypto.Output
import Ssp21.Crypto.SessionTable
import Ssp21.Crypto.Coupling
import Ssp21.Crypto.Provenance
import Ssp21.Crypto.Nonces
import Ssp21.Crypto.Network
import Ssp21.Crypto.Acceptance
import Ssp21.Crypto.Agreement
import Ssp21.Crypto.Receiving
import Ssp21.Crypto.Duplex
import Ssp21.Crypto.Endpoint
import Ssp21.Crypto.Acts
import Ssp21.Crypto.Conversation
import Ssp21.Crypto.Renegotiation
import Ssp21.Crypto.StreamIntegrity
import Ssp21.Crypto.Quiescence
import Ssp21.Crypto.FrameLoans
import Ssp21.Crypto.Timers
import Ssp21.Crypto.Reactions
import Ssp21.Crypto.TimersHeld
import Ssp21.Crypto.Turns
import Ssp21.Crypto.Announced
import Ssp21.Crypto.StaleData
import Ssp21.Crypto.Alike
import Ssp21.Crypto.Reopen
import Ssp21.Stack.AbstractStack
import Ssp21.Stack.Forwarding
import Ssp21.Stack.FullStack
import Ssp21.Stack.Line
import Ssp21.Stack.LineAtRest
import Ssp21.Icftool.Actions
import Ssp21.Proxy.Session
import Ssp21.Proxy.TcpProxySession
import Ssp21.Proxy.UdpProxySession
import Ssp21.Proxy.Relay
import Ssp21.Proxy.Handlers
import Ssp21.Proxy.Tunnel
import Ssp21.Qix.FrameParser
import Ssp21.Qix.KeyStore

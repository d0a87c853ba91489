import Rohccxx.Lib.Octets
import Rohccxx.Lib.Proc
import Rohccxx.Lib.TwoRuns
import Rohccxx.Lib.Checked
import Rohccxx.Lib.Cyclic
import Rohccxx.Lib.Bits
import Rohccxx.Lib.Checksum
import Rohccxx.Lib.SecureHash
import Rohccxx.Lib.Runs
import Rohccxx.Lib.Ring
import Rohccxx.Context
import Rohccxx.Crc
import Rohccxx.Cid
import Rohccxx.Encoding
import Rohccxx.Chains
import Rohccxx.EmitIr
import Rohccxx.DecodeIr
import Rohccxx.DecodeIrDyn
import Rohccxx.Windows
import Rohccxx.PrivateFo
import Rohccxx.FoReordering
import Rohccxx.Protocols
import Rohccxx.Build
import Rohccxx.Packets
import Rohccxx.PacketType
import Rohccxx.FormalCo
import Rohccxx.FormalUnits
import Rohccxx.Reconstruct
import Rohccxx.Icv
import Rohccxx.Negotiation
import Rohccxx.Compress
import Rohccxx.Capture
import Rohccxx.Feedback
import Rohccxx.CompFeedback
import Rohccxx.FeedbackPackets
import Rohccxx.Decompressor
import Rohccxx.Decompress
import Rohccxx.Lla
import Rohccxx.Untouched
import Rohccxx.Transactional
import Rohccxx.Accepted
import Rohccxx.Calls
import Rohccxx.Authenticity
import Rohccxx.Lasting
import Rohccxx.DecompRuns
import Rohccxx.StaticContext
import Rohccxx.DecompGates
import Rohccxx.Atomicity
import Rohccxx.IrUnits
import Rohccxx.IrRoundTrip
import Rohccxx.LegacyChains
import Rohccxx.LiteRoundTrip
import Rohccxx.LiteDynRoundTrip
import Rohccxx.Emission
import Rohccxx.Rebuild
import Rohccxx.Headers
import Rohccxx.StandardIr
import Rohccxx.Receive
import Rohccxx.Sender
import Rohccxx.Branches
import Rohccxx.Repeats
import Rohccxx.FailedCalls
import Rohccxx.CompRuns
import Rohccxx.CompGates
import Rohccxx.CompStart
import Rohccxx.CompReliable
import Rohccxx.Delivery
import Rohccxx.Compact
import Rohccxx.ForwardMsn
import Rohccxx.CompWindow
import Rohccxx.LiteReceive
import Rohccxx.FirstPacket
import Rohccxx.Bounds
import Rohccxx.OptionWords
import Rohccxx.WellFormed
import Rohccxx.Isolation
import Rohccxx.Native
import Rohccxx.NoHeader
import Rohccxx.AlikeIr
import Rohccxx.SelfContained
import Rohccxx.InBounds
import Rohccxx.Indexed
import Rohccxx.FixedHeaders
import Rohccxx.FormalPt0
import Rohccxx.Escalation
import Rohccxx.FeedbackWriters
import Rohccxx.Lib.ShiftRegister
import Rohccxx.CrcTables
import Rohccxx.FeedbackElements
import Rohccxx.Fallback
import Rohccxx.Piggyback
import Rohccxx.Nesting
import Rohccxx.IcvDigest
import Rohccxx.AckedMsn
import Rohccxx.NotifyPayload
import Rohccxx.Lib.Ascending
import Rohccxx.Ppp
import Rohccxx.ExtensionChain
import Rohccxx.BitCodec
import Rohccxx.Lib.OnesComplement
import Rohccxx.ChunkedChecksum
import Rohccxx.Lib.Consumes
import Rohccxx.RtpExtrasCodec
import Rohccxx.LegacyIrSize
import Rohccxx.Labels
import Rohccxx.Twins
import Rohccxx.Segments
import Rohccxx.Link
import Rohccxx.Refresh
import Rohccxx.Flow
import Rohccxx.EspFlow
import Rohccxx.PrivateUnits
import Rohccxx.UdpFlow
import Rohccxx.Tun.Flows
import Rohccxx.Tun.Frames
import Rohccxx.Tun.Node
import Rohccxx.Tun.Delivery
import Rohccxx.Tun.Recovery

import Muxio.Encoding.LittleEndian
import Muxio.Encoding.Utf8
import Muxio.Transition.Drain
import Muxio.Transition.Demux
import Muxio.Transition.Fifo
import Muxio.Transition.Interleaving
import Muxio.Transition.Mutex
import Muxio.Transition.Refinement
import Muxio.Transition.Separation
import Muxio.Transition.Fairness
import Muxio.Framing.Core
import Muxio.Framing.Codec
import Muxio.Framing.Encoder
import Muxio.Framing.Decoder
import Muxio.Framing.Reassembly
import Muxio.Framing.Delivery
import Muxio.Framing.InOrder
import Muxio.Framing.Checked
import Muxio.Framing.Leftovers
import Muxio.Framing.PointerWidth
import Muxio.Framing.WireFormat
import Muxio.Framing.EncoderContract
import Muxio.Framing.Isolation
import Muxio.Framing.Replays
import Muxio.Rpc.Core
import Muxio.Rpc.IdSpace
import Muxio.Rpc.Stream
import Muxio.Rpc.Session
import Muxio.Rpc.Streams
import Muxio.Rpc.RespondableSession
import Muxio.Rpc.Dispatcher
import Muxio.Rpc.Calls
import Muxio.Rpc.ChunkSizes
import Muxio.Rpc.Handlers
import Muxio.Rpc.Gathering
import Muxio.Rpc.Link
import Muxio.Rpc.LongHeaders
import Muxio.Rpc.Connection
import Muxio.Rpc.IdCollisions
import Muxio.Rpc.EventGrammar
import Muxio.Rpc.Lifetime
import Muxio.Rpc.TerminalEvents
import Muxio.Rpc.IdReuse
import Muxio.Rpc.Prebuffering
import Muxio.Rpc.CatchAll
import Muxio.Rpc.Reconnect
import Muxio.Rpc.Messages
import Muxio.Service.Endpoint
import Muxio.Service.Registration
import Muxio.Service.Responses
import Muxio.Service.Caller
import Muxio.Service.Channels
import Muxio.Service.OpenChannel
import Muxio.Service.Disconnect
import Muxio.Service.SyncClient
import Muxio.Service.StreamedResponses
import Muxio.Service.Prebuffered
import Muxio.Service.Exchanges
import Muxio.Service.PeerMessages
import Muxio.Service.CallResults
import Muxio.Service.Peers
import Muxio.Service.RoundTrip
import Muxio.Service.RemoteCalls
import Muxio.Service.Progress
import Muxio.Service.Interruption
import Muxio.Service.Traffic
import Muxio.Service.HeardStreams
import Muxio.Service.FlushedMessages
import Muxio.Service.AnswerStreams
import Muxio.Service.Responders
import Muxio.Service.ChannelPipes
import Muxio.Service.StateChanges
import Muxio.Service.RequestLanes
import Muxio.Service.ReadLoops

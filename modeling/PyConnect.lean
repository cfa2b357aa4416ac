import PyConnect.Accounting
import PyConnect.Agreement
import PyConnect.Alternation
import PyConnect.ArgumentReferences
import PyConnect.Arity
import PyConnect.AssignedIds
import PyConnect.AttributeUpdate
import PyConnect.AttributeViews
import PyConnect.AttributeWrites
import PyConnect.Brackets
import PyConnect.BroadcastPort
import PyConnect.BuilderSizes
import PyConnect.ByteAgreement
import PyConnect.ByteConnect
import PyConnect.ByteDiscovery
import PyConnect.ByteNetwork
import PyConnect.ByteRefinement
import PyConnect.ByteSettling
import PyConnect.Bytes
import PyConnect.CallAnswers
import PyConnect.CallElements
import PyConnect.CallSize
import PyConnect.ChannelShutdown
import PyConnect.Channels
import PyConnect.ClientLifecycle
import PyConnect.ClientList
import PyConnect.ClientSweep
import PyConnect.CommLayer
import PyConnect.CommLocks
import PyConnect.Common
import PyConnect.Completion
import PyConnect.Concealment
import PyConnect.Convergence
import PyConnect.Conversation
import PyConnect.CorruptedCall
import PyConnect.DatagramBounds
import PyConnect.Decimal
import PyConnect.DeclareDatagram
import PyConnect.DeclaredMirror
import PyConnect.Decoding
import PyConnect.Delivery
import PyConnect.Dialogue
import PyConnect.DirectAgreement
import PyConnect.DirectConnect
import PyConnect.Disconnection
import PyConnect.Discovery
import PyConnect.ElementBounds
import PyConnect.ElementListing
import PyConnect.Endpoints
import PyConnect.Extents
import PyConnect.FaithfulArguments
import PyConnect.FrameStream
import PyConnect.Framing
import PyConnect.GilBalance
import PyConnect.HandedObjects
import PyConnect.Handshake
import PyConnect.IndexAgreement
import PyConnect.Interoperation
import PyConnect.Ints
import PyConnect.Lifecycle
import PyConnect.LinkedList
import PyConnect.ListenerPort
import PyConnect.LocalBroadcast
import PyConnect.LocalDelivery
import PyConnect.LockOrder
import PyConnect.Maps
import PyConnect.MessageBounds
import PyConnect.MessageSize
import PyConnect.MethodCall
import PyConnect.Mirror
import PyConnect.MirrorMessage
import PyConnect.MissingBytes
import PyConnect.ModuleRouting
import PyConnect.ModuleTable
import PyConnect.Multiplexing
import PyConnect.NetComm
import PyConnect.NumberCodec
import PyConnect.ObjComm
import PyConnect.PeerMessage
import PyConnect.Reassembly
import PyConnect.ReassemblyDelivery
import PyConnect.ReassemblySafety
import PyConnect.ReassemblyScan
import PyConnect.Recovery
import PyConnect.Reentrancy
import PyConnect.Registration
import PyConnect.RemoteCalls
import PyConnect.Removal
import PyConnect.Rendezvous
import PyConnect.Replicas
import PyConnect.Replication
import PyConnect.ReplyChannel
import PyConnect.ReplyIndex
import PyConnect.Responses
import PyConnect.Runs
import PyConnect.Schedule
import PyConnect.ScriptCallbacks
import PyConnect.Senders
import PyConnect.ServerIsolation
import PyConnect.Settling
import PyConnect.SocketScan
import PyConnect.StringCodec
import PyConnect.Stub
import PyConnect.StubCall
import PyConnect.StubInput
import PyConnect.StubMessage
import PyConnect.TypedValues
import PyConnect.ValueCodec
import PyConnect.Values
import PyConnect.Wrapper
import PyConnect.WrapperInput
import PyConnect.WrapperSends

import StrucTransport.Lib.Run
import StrucTransport.Lib.OrderedMap
import StrucTransport.Lib.Resequencer
import StrucTransport.Lib.Bytes
import StrucTransport.Lib.Buckets
import StrucTransport.Lib.Framing
import StrucTransport.Wire.SessionToken
import StrucTransport.Wire.Message
import StrucTransport.Wire.MdtCodec
import StrucTransport.Wire.ReferenceCapnp
import StrucTransport.Wire.HeapFixedBuilder
import StrucTransport.Wire.MsgOutHandles
import StrucTransport.Channel.State
import StrucTransport.Channel.Send
import StrucTransport.Channel.Expect
import StrucTransport.Channel.Receive
import StrucTransport.Channel.ReadChain
import StrucTransport.Channel.Step
import StrucTransport.Channel.Effect
import StrucTransport.Channel.EffectStep
import StrucTransport.Channel.Sequence
import StrucTransport.Channel.Receipt
import StrucTransport.Channel.CallFrame
import StrucTransport.Channel.ReadStep
import StrucTransport.Channel.Posted
import StrucTransport.Channel.Intake
import StrucTransport.Channel.Phases
import StrucTransport.Channel.Batch
import StrucTransport.Channel.Falsy
import StrucTransport.Channel.Outstanding
import StrucTransport.Channel.ErrFunc
import StrucTransport.Channel.Emission
import StrucTransport.Channel.Desk
import StrucTransport.Property.Hosing
import StrucTransport.Property.Refusal
import StrucTransport.Property.Stranded
import StrucTransport.Property.Dispatch
import StrucTransport.Property.Sequencing
import StrucTransport.Property.Negotiation
import StrucTransport.Property.Framing
import StrucTransport.Property.LogInGate
import StrucTransport.Property.Inert
import StrucTransport.Property.Serialization
import StrucTransport.Property.Tokens
import StrucTransport.Property.Expectation
import StrucTransport.Property.Pending
import StrucTransport.Net.Sender
import StrucTransport.Net.Receiver
import StrucTransport.Net.Link
import StrucTransport.Net.Position
import StrucTransport.Net.Delivery
import StrucTransport.Net.Close
import StrucTransport.Net.LogIn
import StrucTransport.Net.MessageIds
import StrucTransport.Net.Stream
import StrucTransport.Net.Duplex
import StrucTransport.Net.TokenAgreement
import StrucTransport.Net.Handling
import StrucTransport.Net.Requests
import StrucTransport.Net.Notices
import StrucTransport.Net.OneOff
import StrucTransport.Net.Correlation
import StrucTransport.Async.State
import StrucTransport.Async.Step
import StrucTransport.Async.Dtor
import StrucTransport.Async.Core
import StrucTransport.Async.Move
import StrucTransport.Async.Posts
import StrucTransport.Async.Calls
import StrucTransport.Async.Wait
import StrucTransport.Async.Ledger
import StrucTransport.Property.EndSending
import StrucTransport.Property.Shutdown
import StrucTransport.Property.SyncRequest
import StrucTransport.Property.Orphan
import StrucTransport.Channel.Departure
import StrucTransport.Channel.FuncRoles
import StrucTransport.Async.Given
import StrucTransport.Lib.Rest
import StrucTransport.Lib.Simulation
import StrucTransport.Async.CoreRun
import StrucTransport.Net.TwoWay
import StrucTransport.Net.AsyncDuplex
import StrucTransport.Property.Handlers
import StrucTransport.Property.EndToEnd
import StrucTransport.Net.SentBy
import StrucTransport.Property.RoundTrip
import StrucTransport.Net.Activity
import StrucTransport.Net.Enabled
import StrucTransport.Property.Liveness
import StrucTransport.Lib.Memory
import StrucTransport.Wire.HeapMemory
import StrucTransport.Wire.HeapReader
import StrucTransport.Property.HeapRoundTrip
import StrucTransport.Channel.Guarded
import StrucTransport.Property.Assertions

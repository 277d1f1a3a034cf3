import Ferredge.Fallible
import Ferredge.Core.Meta
import Ferredge.Core.Command
import Ferredge.Core.Routed
import Ferredge.Bridge.Message
import Ferredge.Bridge.Planner
import Ferredge.Core.Device
import Ferredge.Http.Meta
import Ferredge.Http.Request
import Ferredge.Modbus.Types
import Ferredge.Modbus.Client
import Ferredge.Modbus.ReferenceClient
import Ferredge.Modbus.Codec
import Ferredge.Modbus.Convert
import Ferredge.Modbus.Plan
import Ferredge.Mqtt.Meta
import Ferredge.Mqtt.Convert
import Ferredge.Mqtt.Replay
import Ferredge.Mqtt.Connect
import Ferredge.Ledger
import Ferredge.Mqtt.Driver
import Ferredge.Mqtt.DriverStep
import Ferredge.Mqtt.Connections
import Ferredge.Mqtt.Requests
import Ferredge.Mqtt.Delivery
import Ferredge.Framing
import Ferredge.Modbus.Frame
import Ferredge.Modbus.Transport
import Ferredge.Http.Wire
import Ferredge.KeyedList
import Ferredge.Mqtt.Capture
import Ferredge.Mqtt.Decoder
import Ferredge.Mqtt.Reception
import Ferredge.History
import Ferredge.Mqtt.Exchanges
import Ferredge.Mqtt.Directions
import Ferredge.Mqtt.Replies
import Ferredge.Mqtt.Subscriptions
import Ferredge.Mqtt.Publish
import Ferredge.Mqtt.Restart
import Ferredge.Locking
import Ferredge.Zenoh.Types
import Ferredge.Zenoh.Convert
import Ferredge.Zenoh.Runtime
import Ferredge.Zenoh.Locks
import Ferredge.AtMostOne
import Ferredge.Zenoh.Listeners
import Ferredge.Window
import Ferredge.Mqtt.RecoveryQueue
import Ferredge.ByteOrder
import Ferredge.Modbus.RoundTrip
import Ferredge.Mqtt.ConnectPacket
import Ferredge.Mqtt.Options
import Ferredge.Broadcast
import Ferredge.Mqtt.ListenerStatus
import Ferredge.Mqtt.KeepAlive
import Ferredge.Core.FirstMatch
import Ferredge.Mqtt.CaptureKeys
import Ferredge.Http.Capture
import Ferredge.Core.Documented
import Ferredge.Captures
import Ferredge.Overriding
import Ferredge.Http.HeaderFlow
import Ferredge.Lines
import Ferredge.LossyText
import Ferredge.Http.Response
import Ferredge.Retrying
import Ferredge.Modbus.Attempts
import Ferredge.Modbus.CutShort
import Ferredge.Modbus.Failures
import Ferredge.Modbus.Stack
import Ferredge.Modbus.Datagram
import Ferredge.Mqtt.ReplyTopics
import Ferredge.Mqtt.ReplyCapture
import Ferredge.Core.MapLaws
import Ferredge.ShortWrites
import Ferredge.Core.WriteAll
import Ferredge.Backoff
import Ferredge.Core.Backoff
import Ferredge.Modbus.RetryDelays
import Ferredge.Modbus.Routes
import Ferredge.Modbus.RoutedPayloads
import Ferredge.Http.HostPort
import Ferredge.Embassy.Spawning
import Ferredge.Embassy.Serial
import Ferredge.Mqtt.ListenerLoop
import Ferredge.Mqtt.Reconnecting
import Ferredge.Mqtt.ListenerRuns
import Ferredge.Draining
import Ferredge.Http.Exchange
import Ferredge.Http.Reply
import Ferredge.Http.Conversation
import Ferredge.Http.Results
import Ferredge.Mqtt.Auth
import Ferredge.Lending
import Ferredge.Embassy.Buffers
import Ferredge.Zenoh.Delivery
import Ferredge.Cells
import Ferredge.Modbus.Registers
import Ferredge.Modbus.Bus
import Ferredge.Modbus.TcpLink
import Ferredge.Modbus.Callers
import Ferredge.Mqtt.Forwarding
import Ferredge.Mqtt.Network

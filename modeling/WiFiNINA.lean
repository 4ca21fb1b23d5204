import WiFiNINA.Lib.Prog
import WiFiNINA.Lib.Memory
import WiFiNINA.Lib.Framing
import WiFiNINA.Lib.Transition
import WiFiNINA.Lib.Fifo
import WiFiNINA.Lib.Poll
import WiFiNINA.Lib.Trace
import WiFiNINA.Lib.Composed
import WiFiNINA.Lib.Reader
import WiFiNINA.Bus
import WiFiNINA.SpiDrv
import WiFiNINA.SpiDrv.SlaveReady
import WiFiNINA.SpiDrv.Interrupts
import WiFiNINA.SpiDrv.Encode
import WiFiNINA.SpiDrv.Parse
import WiFiNINA.SpiDrv.Decode
import WiFiNINA.SpiDrv.StartByte
import WiFiNINA.SpiDrv.Requests
import WiFiNINA.SpiDrv.Replies
import WiFiNINA.SpiDrv.Misread
import WiFiNINA.SpiDrv.RoundTrip
import WiFiNINA.SpiDrv.Exchange
import WiFiNINA.SpiDrv.Single
import WiFiNINA.ServerDrv
import WiFiNINA.WiFiDrv
import WiFiNINA.DriverCalls
import WiFiNINA.DriverCalls.Commands
import WiFiNINA.DriverCalls.Destinations
import WiFiNINA.CachedStrings
import WiFiNINA.WiFi
import WiFiNINA.FixedWidth
import WiFiNINA.ServerDrv.DataSent
import WiFiNINA.World
import WiFiNINA.WiFiSocketBuffer
import WiFiNINA.WiFiSocketBuffer.Fetch
import WiFiNINA.WiFiSocketBuffer.Spec
import WiFiNINA.WiFiSocketBuffer.Ownership
import WiFiNINA.WiFiSocketBuffer.Calls
import WiFiNINA.WiFiSocketBuffer.Queue
import WiFiNINA.WiFiSocketBuffer.Stream
import WiFiNINA.WiFiClient
import WiFiNINA.Arguments
import WiFiNINA.WiFiClient.Clients
import WiFiNINA.WiFiClient.Connected
import WiFiNINA.WiFiClient.Connect
import WiFiNINA.WiFiClient.Polls
import WiFiNINA.WiFiClient.Wait
import WiFiNINA.WiFiClient.Handles
import WiFiNINA.WiFiClient.Windows
import WiFiNINA.WiFiClient.Reuse
import WiFiNINA.RejectedReplies
import WiFiNINA.ScanNetworks
import WiFiNINA.Uninitialised
import WiFiNINA.NetworkData
import WiFiNINA.ServerDrv.DataReceived
import WiFiNINA.WiFiClient.FailedFetches
import WiFiNINA.WiFiClient.Checks
import WiFiNINA.WiFiClient.Received
import WiFiNINA.WiFiClient.ReadBounds
import WiFiNINA.Joining
import WiFiNINA.Lifecycle
import WiFiNINA.DriverCalls.Inputs
import WiFiNINA.Api
import WiFiNINA.Exchanging
import WiFiNINA.Exchanging.LockStep
import WiFiNINA.Exchanging.Isolation
import WiFiNINA.Exchanging.WiFi
import WiFiNINA.Exchanging.Buffers
import WiFiNINA.Exchanging.Library
import WiFiNINA.Exchanging.Runs
import WiFiNINA.Exchanging.Session
import WiFiNINA.Exchanging.Blocks
import WiFiNINA.Exchanging.Footprint
import WiFiNINA.Exchanging.Written
import WiFiNINA.Exchanging.Sockets
import WiFiNINA.Outcomes
import WiFiNINA.Exchanging.Scripts
import WiFiNINA.Exchanging.Unasked
import WiFiNINA.Exchanging.Heard

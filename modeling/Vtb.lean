import Vtb.Library.Machine
import Vtb.Library.Latest
import Vtb.Library.CheckedArray
import Vtb.Library.Keyed
import Vtb.Library.Epochs
import Vtb.Library.Link
import Vtb.Library.Threads
import Vtb.Library.PairedSwitches
import Vtb.Library.Framing
import Vtb.Construction.CmdlineParser
import Vtb.Construction.Common
import Vtb.Construction.ConfigManager
import Vtb.Construction.Main
import Vtb.Construction.VhostController
import Vtb.Construction.PortHandler
import Vtb.Construction.PortController
import Vtb.Construction.LoopbackSystem
import Vtb.Construction.CallbackSteps
import Vtb.Construction.EpollWorker
import Vtb.Construction.Logger
import Vtb.Construction.Socket
import Vtb.Construction.VhostLifecycle
import Vtb.Construction.WorkerThreads
import Vtb.Construction.Teardown
import Vtb.Proof.Parser.Table
import Vtb.Proof.Parser.Grammar
import Vtb.Proof.Parser.Assignments
import Vtb.Proof.Parser.Integers
import Vtb.Proof.Parser.Unsigned
import Vtb.Proof.PortMap.Operations
import Vtb.Proof.PortMap.Projection
import Vtb.Proof.PortMap.DirectUpdate
import Vtb.Proof.PortMap.Numbering
import Vtb.Proof.PortMap.Rings
import Vtb.Proof.PortMap.Devices
import Vtb.Proof.PortMap.Ready
import Vtb.Proof.PortMap.Linearization
import Vtb.Proof.PortMap.Reinit
import Vtb.Proof.PortMap.Bounds
import Vtb.Proof.PortMap.Printing
import Vtb.Proof.PortMap.DeviceHistory
import Vtb.Proof.PortMap.Tracking
import Vtb.Proof.Controller.RingTable
import Vtb.Proof.Config.TypedValues
import Vtb.Proof.Controller.Effect
import Vtb.Proof.Controller.Start
import Vtb.Proof.Controller.Refinement
import Vtb.Proof.Controller.Running
import Vtb.Proof.Controller.LastWrite
import Vtb.Proof.Controller.Isolation
import Vtb.Proof.Controller.Reconnect
import Vtb.Proof.Controller.Service
import Vtb.Proof.Controller.Startup
import Vtb.Proof.Controller.Restart
import Vtb.Proof.Controller.Workers
import Vtb.Proof.Controller.Teardown
import Vtb.Proof.Handler.Resources
import Vtb.Proof.Handler.Stops
import Vtb.Proof.Handler.FailedStart
import Vtb.Proof.Logger.Conservation
import Vtb.Proof.Logger.Messages
import Vtb.Proof.Socket.AbstractNames
import Vtb.Proof.Socket.FileEndpoints
import Vtb.Proof.Socket.Failures
import Vtb.Proof.Socket.Instances
import Vtb.Proof.Stream.PacketFraming
import Vtb.Proof.Stream.EpollLoop
import Vtb.Proof.Vhost.Lifecycle
import Vtb.Proof.Vhost.Service
import Vtb.Proof.System.Forwarding
import Vtb.Proof.System.RingViews
import Vtb.Proof.System.PortNumbers
import Vtb.Proof.System.IndexBounds
import Vtb.Proof.System.Starts
import Vtb.Proof.System.CallbackSteps
import Vtb.Proof.System.StartUp
import Vtb.Proof.System.LockOrder
import Vtb.Proof.System.Bytes
import Vtb.Proof.System.Help
import Vtb.Proof.Main.Terminal
import Vtb.Proof.Main.Waiting

/-
This file joins the vhost side and the loopback controller by the bytes between them: `send_packet` of `common.h`
writes the memory image of each packet as a whole, and `epoll_worker` reads from the stream into its buffer.
A number that is no `int` has no memory image, and the step has no result for it.
-/

import Vtb.Library.StreamLink
import Vtb.Construction.EpollWorker
import Vtb.Construction.LoopbackSystem

namespace Vtb
open Library

/-- The memory image exists for a packet of ints. -/
def PortDeviceRingState.image (pdrs : PortDeviceRingState) : Option Packet :=
  if fits : pdrs.Fits then some ⟨pdrs, fits⟩ else none

namespace VhostController

/-- The vhost side consumes callbacks and writes memory images. -/
def imageMachine : Machine VhostController Callback Packet where
  step controller callback :=
    (controller.handle callback).bind fun handled =>
      (handled.2.mapM PortDeviceRingState.image).map fun images => (handled.1, images)

end VhostController

/-- The worker with its buffer, and the controller that it calls. -/
structure SocketReader where
  worker : EpollWorker
  controller : PortControllerLoopback

namespace SocketReader

/-- One client has connected. -/
def initial (fd : Int) : SocketReader :=
  ⟨⟨Vector.replicate packetSize 0, [fd]⟩, PortControllerLoopback.initial⟩

/-- A read of the client, and `process_notification` on what the buffer then holds if it is a packet. -/
def machine (settings : HandlerSettings) (fd : Int) :
    Machine SocketReader (List UInt8 × CreateOutcomes) HandlerCall where
  step reader input :=
    (reader.worker.handle (.readable fd input.1)).bind fun handled =>
      ((PortControllerLoopback.machine settings).run reader.controller
        (handled.2.map fun packet => ⟨packet.val, input.2⟩)).map fun processed =>
          (⟨handled.1, processed.1⟩, processed.2)

end SocketReader

abbrev ByteSystem := Link VhostController UInt8 SocketReader

namespace ByteSystem

def initial (parser : CmdlineParser) (fd : Int) : ByteSystem where
  sender := VhostController.create (ConfigManager.initial parser)
  inFlight := []
  receiver := SocketReader.initial fd

/-- rte_vhost calls the vhost side, or the worker reads from the stream. -/
def machine (settings : HandlerSettings) (fd : Int) : Machine ByteSystem LoopbackEvent HandlerCall :=
  Link.streamMachine VhostController.imageMachine Packet.bytes packetSize (SocketReader.machine settings fd)

end ByteSystem

end Vtb

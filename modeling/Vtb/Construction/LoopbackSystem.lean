/-
This file joins the vhost side and the loopback controller by the socket between them.
The socket keeps whole packets, in order and without loss.
-/

import Vtb.Library.Link
import Vtb.Construction.VhostController
import Vtb.Construction.PortController

namespace Vtb
open Library

abbrev LoopbackSystem := Link VhostController PortDeviceRingState PortControllerLoopback

/-- rte_vhost calls the vhost side, or the controller processes the oldest packet. -/
abbrev LoopbackEvent := LinkEvent Callback CreateOutcomes

namespace LoopbackSystem

def initial (parser : CmdlineParser) : LoopbackSystem where
  sender := VhostController.create (ConfigManager.initial parser)
  inFlight := []
  receiver := PortControllerLoopback.initial

def machine (settings : HandlerSettings) : Machine LoopbackSystem LoopbackEvent HandlerCall :=
  Link.machine VhostController.machine (PortControllerLoopback.machine settings) Notification.mk

/-- The same with a vhost side that goes on behind its overruns. -/
def overrunMachine (settings : HandlerSettings) :
    Machine LoopbackSystem (LinkEvent (Callback × PortTable) CreateOutcomes) HandlerCall :=
  Link.machine VhostController.overrunMachine (PortControllerLoopback.machine settings) Notification.mk

end LoopbackSystem

end Vtb

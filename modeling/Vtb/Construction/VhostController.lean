/-
This file embeds the device callbacks of `vhost_controller.cpp`.
-/

import Vtb.Library.Machine
import Vtb.Construction.ConfigManager

namespace Vtb
open Library

/-- The callbacks of rte_vhost; `vringNum` is the answer of `rte_vhost_get_vring_num(vid)`. -/
inductive Callback where
  | newDevice (vid : Int) (vringNum : Int)
  | destroyDevice (vid : Int)
  | vringStateChanged (vid : Int) (queueId : UInt16) (enable : Int)
deriving DecidableEq

/-- `config` is the `ConfigManager` instance, which the callbacks share with the application. -/
structure VhostController where
  config : ConfigManager
  portCntr : Int
  mode : String

namespace VhostController

/-- The constructor reads the mode; `port_cntr_` starts at zero. -/
def create (config : ConfigManager) : VhostController :=
  ⟨config, 0, config.getArg "-m"⟩

/-- The packets that one call writes to the socket. -/
def notifyPortController (controller : VhostController) (metaCode vid : Int) (queueId : UInt16)
    (enable : Int) : List PortDeviceRingState :=
  if controller.mode = "Loopback" ∨ controller.mode = "Back2Back" then
    [⟨metaCode, controller.portCntr, vid, queueId.toNat, enable⟩]
  else []

def onNewDevice (controller : VhostController) (vid vringNum : Int) :
    Option (VhostController × List PortDeviceRingState) :=
  (controller.config.initVhostDevice controller.portCntr vid (vringNum.tdiv 2)).bind fun config =>
  (config.setQueueState vid 0 true).bind fun config =>
  (config.setQueueState vid 1 true).map fun config =>
    ({ controller with config, portCntr := controller.portCntr + 1 },
      controller.notifyPortController 0 vid 0 1 ++ controller.notifyPortController 0 vid 1 1)

def onDestroyDevice (controller : VhostController) (vid : Int) :
    VhostController × List PortDeviceRingState :=
  ({ controller with config := controller.config.clearDevice vid },
    controller.notifyPortController 1 vid 0 0)

/-- The conversion of `enable` to `bool` is the test against zero.
The notify in `onNewDevice` stands for rings 0 and 1. -/
def onVringStateChanged (controller : VhostController) (vid : Int) (queueId : UInt16) (enable : Int) :
    Option (VhostController × List PortDeviceRingState) :=
  (controller.config.setQueueState vid queueId (enable != 0)).map fun config =>
    ({ controller with config },
      if queueId ≥ 2 then controller.notifyPortController 0 vid queueId enable else [])

def handle (controller : VhostController) : Callback → Option (VhostController × List PortDeviceRingState)
  | .newDevice vid vringNum => controller.onNewDevice vid vringNum
  | .destroyDevice vid => some (controller.onDestroyDevice vid)
  | .vringStateChanged vid queueId enable => controller.onVringStateChanged vid queueId enable

/-- The vhost side consumes callbacks and emits packets. -/
def machine : Machine VhostController Callback PortDeviceRingState := ⟨handle⟩

/-- The statements of a callback that are not about the port map. -/
def notified (controller : VhostController) : Callback → VhostController × List PortDeviceRingState
  | .newDevice vid _ =>
      ({ controller with portCntr := controller.portCntr + 1 },
        controller.notifyPortController 0 vid 0 1 ++ controller.notifyPortController 0 vid 1 1)
  | .destroyDevice vid => (controller, controller.notifyPortController 1 vid 0 0)
  | .vringStateChanged vid queueId enable =>
      (controller, if queueId ≥ 2 then controller.notifyPortController 0 vid queueId enable else [])

/-- A callback that indexes behind the arrays of an entry still goes on to its end.
The port map that it leaves then is not known. -/
def carryOn (controller : VhostController) (callback : Callback) (left : PortTable) :
    VhostController × List PortDeviceRingState :=
  match controller.handle callback with
  | some handled => handled
  | none =>
      let after := controller.notified callback
      ({ after.1 with config := { after.1.config with pmap := left } }, after.2)

/-- The vhost side when nothing stops it; an input comes with the port map that an overrun would leave. -/
def overrunMachine : Machine VhostController (Callback × PortTable) PortDeviceRingState :=
  ⟨fun controller input => some (controller.carryOn input.1 input.2)⟩

end VhostController

end Vtb

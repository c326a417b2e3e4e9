/-
This file embeds the callbacks of `vhost_controller.cpp` statement by statement, next to the epoll worker that
processes the packets between the statements. Both threads read the one `ConfigManager` of the process.
-/

import Vtb.Construction.LoopbackSystem
import Vtb.Construction.Main

namespace Vtb
open Library

/-- The statements of the callbacks; the log lines are left out. -/
inductive CallbackStatement where
  | initVhostDevice (vid nofPairs : Int)
  | setQueueState (vid : Int) (queueId : UInt16) (enable : Bool)
  | clearDevice (vid : Int)
  | notifyPortController (metaCode vid : Int) (queueId : UInt16) (enable : Int)
  | countPort
deriving DecidableEq

/-- The body of a callback. -/
def Callback.script : Callback → List CallbackStatement
  | .newDevice vid vringNum =>
      [.initVhostDevice vid (vringNum.tdiv 2), .setQueueState vid 0 true, .setQueueState vid 1 true,
        .notifyPortController 0 vid 0 1, .notifyPortController 0 vid 1 1, .countPort]
  | .destroyDevice vid => [.notifyPortController 1 vid 0 0, .clearDevice vid]
  | .vringStateChanged vid queueId enable =>
      .setQueueState vid queueId (enable != 0) ::
        if queueId ≥ 2 then [.notifyPortController 0 vid queueId enable] else []

namespace VhostController

/-- One statement; `port_cntr_` is read when the statement runs. -/
def perform (controller : VhostController) :
    CallbackStatement → Option (VhostController × List PortDeviceRingState)
  | .initVhostDevice vid nofPairs =>
      (controller.config.initVhostDevice controller.portCntr vid nofPairs).map fun config =>
        ({ controller with config }, [])
  | .setQueueState vid queueId enable =>
      (controller.config.setQueueState vid queueId enable).map fun config => ({ controller with config }, [])
  | .clearDevice vid => some ({ controller with config := controller.config.clearDevice vid }, [])
  | .notifyPortController metaCode vid queueId enable =>
      some (controller, controller.notifyPortController metaCode vid queueId enable)
  | .countPort => some ({ controller with portCntr := controller.portCntr + 1 }, [])

/-- The statements one after the other. -/
def statements : Machine VhostController CallbackStatement PortDeviceRingState := ⟨perform⟩

end VhostController

/-- The thread of rte_vhost is between two callbacks or has statements of one left,
and the epoll worker has packets left to process. -/
structure CallbackSystem where
  controller : VhostController
  remaining : List CallbackStatement
  inFlight : List PortDeviceRingState
  receiver : PortControllerLoopback

/-- rte_vhost calls the next callback, the callback goes on by one statement,
or the epoll worker processes a packet and has these answers of DPDK. -/
inductive CallbackEvent where
  | call (callback : Callback)
  | advance
  | process (outcomes : CreateOutcomes)
deriving DecidableEq

namespace CallbackSystem

def initial (parser : CmdlineParser) : CallbackSystem :=
  ⟨VhostController.create (ConfigManager.initial parser), [], [], PortControllerLoopback.initial⟩

/-- Only mode Loopback creates a controller with a `process_notification`. `start` of a handler reads its settings
from the `ConfigManager` as it is when the packet is processed. -/
def step (system : CallbackSystem) : CallbackEvent → Option (CallbackSystem × List HandlerCall)
  | .call callback =>
      if system.remaining = [] then some ({ system with remaining := callback.script }, []) else none
  | .advance =>
      match system.remaining with
      | [] => none
      | statement :: rest =>
          (system.controller.perform statement).map fun performed =>
            ({ system with
              controller := performed.1
              remaining := rest
              inFlight := system.inFlight ++ performed.2 }, [])
  | .process outcomes =>
      match system.inFlight with
      | [] => none
      | packet :: rest =>
          if createController (system.controller.config.getArg "-m") = some .loopback then
            (system.receiver.processNotification system.controller.config.handlerSettings
              ⟨packet, outcomes⟩).map fun processed =>
                ({ system with inFlight := rest, receiver := processed.1 }, processed.2)
          else none

/-- The two threads take their steps in any order. -/
def machine : Machine CallbackSystem CallbackEvent HandlerCall := ⟨step⟩

end CallbackSystem

end Vtb

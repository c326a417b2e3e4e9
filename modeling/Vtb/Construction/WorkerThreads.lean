/-
This file embeds `tx_worker`, `rx_worker` and `tx_rx_worker` of `port_handler_loopback.cpp`,
which differ in their messages only, together with the calls that launch and stop them.
A call is one step: its parts launch threads or touch different handlers, so a worker that moves
in between can as well move before or after the call.
-/

import Vtb.Library.Threads
import Vtb.Construction.PortController

namespace Vtb
open Library

/-- One move of a worker: `is_running_ = true`, the test of the loop, or the return. -/
def PortHandlerLoopback.work (handler : PortHandlerLoopback) (move : ThreadMove) (phase : Phase) :
    Option (PortHandlerLoopback × Phase) :=
  (move.run handler.isRunning phase).map fun moved => ({ handler with isRunning := moved.1 }, moved.2)

/-- The worker that an output launches. -/
def HandlerOutput.worker : HandlerOutput → Option Worker
  | .launched worker => some worker
  | .created _ => none

/-- One handler and the workers that it launched. -/
structure HandlerThreads where
  state : StartState
  threads : List (Thread Worker)

/-- A call on the handler, or a move of one of its workers. -/
inductive HandlerEvent where
  | call (operation : HandlerOperation)
  | move (index : Nat) (move : ThreadMove)
deriving DecidableEq

namespace HandlerThreads

def initial (dpdk : Dpdk) : HandlerThreads := ⟨⟨PortHandlerLoopback.initial, dpdk⟩, []⟩

def step (settings : HandlerSettings) (system : HandlerThreads) :
    HandlerEvent → Option (HandlerThreads × List HandlerOutput)
  | .call operation =>
      let result := PortHandlerLoopback.operate settings system.state operation
      some (⟨result.1, launch (result.2.filterMap HandlerOutput.worker) system.threads⟩, result.2)
  | .move index move =>
      (system.threads[index]?).bind fun thread =>
        (system.state.handler.work move thread.phase).map fun worked =>
          (⟨{ system.state with handler := worked.1 }, reach system.threads index worked.2⟩, [])

/-- The calls and the moves interleave in any order. -/
def machine (settings : HandlerSettings) : Machine HandlerThreads HandlerEvent HandlerOutput :=
  ⟨step settings⟩

end HandlerThreads

/-- A worker of one of the handlers. -/
structure WorkerTag where
  handler : Nat
  worker : Worker
deriving DecidableEq

/-- The workers that a call launches. -/
def HandlerCall.launched : HandlerCall → List WorkerTag
  | .started call workers => workers.map fun worker => ⟨call.handler, worker⟩
  | .stopped _ => []
  | .failed _ _ => []

/-- The controller and the workers of its handlers. -/
structure ControllerThreads where
  controller : PortControllerLoopback
  threads : List (Thread WorkerTag)

/-- A notification, or a move of a worker. -/
inductive ControllerEvent where
  | notify (notification : Notification)
  | move (index : Nat) (move : ThreadMove)
deriving DecidableEq

namespace ControllerThreads

def initial : ControllerThreads := ⟨PortControllerLoopback.initial, []⟩

def step (settings : HandlerSettings) (system : ControllerThreads) :
    ControllerEvent → Option (ControllerThreads × List HandlerCall)
  | .notify notification =>
      (PortControllerLoopback.processNotification settings system.controller notification).map fun result =>
        (⟨result.1, launch (result.2.flatMap HandlerCall.launched) system.threads⟩, result.2)
  | .move index move =>
      (system.threads[index]?).bind fun thread =>
        (readCell system.controller.portHandler thread.tag.handler).bind fun handler =>
          (handler.work move thread.phase).bind fun worked =>
            (writeCell system.controller.portHandler thread.tag.handler worked.1).map fun portHandler =>
              (⟨{ system.controller with portHandler }, reach system.threads index worked.2⟩, [])

/-- The notifications and the moves interleave in any order. -/
def machine (settings : HandlerSettings) : Machine ControllerThreads ControllerEvent HandlerCall :=
  ⟨step settings⟩

end ControllerThreads

end Vtb

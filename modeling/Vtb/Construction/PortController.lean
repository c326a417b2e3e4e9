/-
This file embeds `process_notification` of `port_controller_loopback.cpp`.
The result is `none` where the code would index outside a vector or the handler array.
-/

import Vtb.Library.Machine
import Vtb.Construction.Common
import Vtb.Construction.PortHandler

namespace Vtb
open Library

/-- The arguments that a handler has when `start` is called on it. -/
structure StartCall where
  handler : Nat
  vid : Int
  rxqid : Int
  txqid : Int
deriving DecidableEq

/-- The calls that the controller makes on its handlers. -/
inductive HandlerCall where
  | stopped (handler : Nat)
  | started (call : StartCall) (workers : List Worker)
  | failed (call : StartCall) (what : String)
deriving DecidableEq

/-- A packet together with what DPDK answers while it is processed. -/
structure Notification where
  pdrs : PortDeviceRingState
  outcomes : CreateOutcomes
deriving DecidableEq

/-- `dpdk` is the state of the process, which the handlers share. -/
structure PortControllerLoopback where
  pmap : Std.ExtTreeMap Int (List Int)
  ready : Bool
  portHandler : Vector PortHandlerLoopback 8
  dpdk : Dpdk

namespace PortControllerLoopback

def initial : PortControllerLoopback :=
  ⟨∅, false, Vector.replicate 8 PortHandlerLoopback.initial, Dpdk.empty⟩

/-- The test of both rings of a pair stops at a first ring that is not enabled. -/
def bothEnabled (rings : List Int) (own partner : Int) : Option Bool :=
  (readAt rings own).bind fun value =>
    if value = 1 then (readAt rings partner).map fun other => other == 1 else some false

/-- The setters and the guarded `start` of the handler of one ring pair. -/
def startHandler (settings : HandlerSettings) (outcomes : CreateOutcomes)
    (controller : PortControllerLoopback) (deviceId qid : Int) :
    Option (PortControllerLoopback × List HandlerCall) :=
  let index := qid.tdiv 2
  (readCell controller.portHandler index).bind fun handler =>
    let bound := ((handler.setVid deviceId).setRxqid (qid - 1)).setTxqid qid
    let call : StartCall := ⟨index.toNat, bound.vid, bound.rxqid, bound.txqid⟩
    match PortHandlerLoopback.start settings outcomes ⟨bound, controller.dpdk⟩ with
    | .ok workers state =>
        (writeCell controller.portHandler index state.handler).map fun portHandler =>
          ({ controller with portHandler, dpdk := state.dpdk }, [.started call workers])
    | .error what state =>
        (writeCell controller.portHandler index state.handler).map fun portHandler =>
          ({ controller with portHandler, dpdk := state.dpdk }, [.failed call what])

/-- The destroy branch stops all eight handlers and ignores the device. -/
def stopAll (controller : PortControllerLoopback) : PortControllerLoopback × List HandlerCall :=
  ({ controller with portHandler := controller.portHandler.map PortHandlerLoopback.stop },
    (List.range 8).map .stopped)

/-- The branch of a device that `pmap_` contains. -/
def updateRing (settings : HandlerSettings) (outcomes : CreateOutcomes)
    (controller : PortControllerLoopback) (pdrs : PortDeviceRingState) (rings : List Int) :
    Option (PortControllerLoopback × List HandlerCall) :=
  (writeAt rings pdrs.qid pdrs.enable).bind fun rings =>
    let pmap := controller.pmap.insert pdrs.deviceId rings
    if isEven pdrs.qid then
      (bothEnabled rings pdrs.qid (pdrs.qid + 1)).map fun ready => ({ controller with pmap, ready }, [])
    else
      (bothEnabled rings pdrs.qid (pdrs.qid - 1)).bind fun ready =>
        if ready then
          startHandler settings outcomes { controller with pmap, ready } pdrs.deviceId pdrs.qid
        else some ({ controller with pmap, ready }, [])

/-- The branch of a device that `pmap_` does not contain. -/
def announceDevice (controller : PortControllerLoopback) (pdrs : PortDeviceRingState) :
    Option (PortControllerLoopback × List HandlerCall) :=
  (writeAt (resize [] (8 * 2) (-1)) pdrs.qid pdrs.enable).map fun rings =>
    ({ controller with pmap := controller.pmap.insert pdrs.deviceId rings }, [])

def processNotification (settings : HandlerSettings) (controller : PortControllerLoopback)
    (notification : Notification) : Option (PortControllerLoopback × List HandlerCall) :=
  let pdrs := notification.pdrs
  if pdrs.metaCode = 1 then some controller.stopAll
  else match controller.pmap[pdrs.deviceId]? with
    | some rings => updateRing settings notification.outcomes controller pdrs rings
    | none => announceDevice controller pdrs

/-- The controller consumes notifications and calls its handlers. -/
def machine (settings : HandlerSettings) : Machine PortControllerLoopback Notification HandlerCall :=
  ⟨processNotification settings⟩

end PortControllerLoopback

end Vtb

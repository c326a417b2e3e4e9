/-
This file joins the life of the controllers of one process with the callbacks that rte_vhost makes on them,
as `cb_new_device`, `cb_destroy_device` and `cb_vring_state_changed` of `vhost_controller.cpp` dispatch them.
The destructor runs in its steps, and callbacks come between them. rte_vhost makes callbacks for a socket from a
successful driver start until its unregistration returns: the unregistration itself, which the destructor waits
for, calls `destroy_device` for the guests that are still connected. The step has no result for other callbacks,
and none where `instance_` does not point to a living controller.
-/

import Vtb.Construction.VhostController
import Vtb.Construction.VhostLifecycle

namespace Vtb
open Library

/-- How far the destructor of the controller at an address has come; it is `unregistering` from its beginning
until `rte_vhost_driver_unregister` has returned. -/
inductive Leaving where
  | unregistering (address : Nat)
  | unregistered (address : Nat)
  | cleaned (address : Nat)
deriving DecidableEq

/-- `portCntr` is static, and `config` is the `ConfigManager` instance. `serving` lists the sockets that rte_vhost
makes callbacks for. -/
structure VhostService where
  process : VhostProcess
  serving : List String
  leaving : Option Leaving
  config : ConfigManager
  portCntr : Int

inductive ServiceInput where
  | construct (socketPath : String) (clientFd : Int)
  | init (address : Nat) (granted : Bool)
  | start (address : Nat) (answers : DriverAnswers)
  | destroy (address : Nat)
  | unregister (address : Nat)
  | cleanup (address : Nat)
  | clear (address : Nat)
  | callback (socketPath : String) (callback : Callback)

/-- An effect of the life, or a packet that is written to the socket of a controller. -/
inductive ServiceOutput where
  | effect (effect : VhostEffect)
  | sent (fd : Int) (pdrs : PortDeviceRingState)

namespace VhostService

def initial (config : ConfigManager) : VhostService := ⟨VhostProcess.initial, [], none, config, 0⟩

/-- The sockets that rte_vhost serves after `start` of an object with these effects. -/
def served (serving : List String) (object : VhostObject) (effects : List VhostEffect) : List String :=
  if .ready object.address ∈ effects then object.socketPath :: serving else serving

/-- The destructor has unregistered the driver, if its flag was set. -/
def unregister (service : VhostService) (object : VhostObject) : VhostService × List VhostEffect :=
  if object.driverRegistered then
    ({ service with
        process := { service.process.update { object with driverRegistered := false } with
          rte := { service.process.rte with sockets := service.process.rte.sockets.erase object.socketPath } }
        serving := service.serving.filter fun path => path ≠ object.socketPath
        leaving := some (.unregistered object.address) },
      [.driverUnregister object.socketPath])
  else ({ service with leaving := some (.unregistered object.address) }, [])

/-- Then it cleans up the EAL when its flag is set. -/
def cleanup (service : VhostService) (object : VhostObject) : VhostService × List VhostEffect :=
  if object.ealInitialised then
    ({ service with
        process := { service.process.update { object with ealInitialised := false } with
          rte := { service.process.rte with eal := false } }
        leaving := some (.cleaned object.address) },
      [.ealCleanup])
  else ({ service with leaving := some (.cleaned object.address) }, [])

/-- At last it clears `instance_`, and the object ends. -/
def clear (service : VhostService) (object : VhostObject) : VhostService × List VhostEffect :=
  ({ service with
      process := { service.process with
        instance_ := none
        alive := service.process.alive.filter fun other => other.address ≠ object.address }
      leaving := none },
    [.instanceCleared])

/-- A callback is made on the object that `instance_` points to. -/
def dispatch (service : VhostService) (callback : Callback) :
    Option (VhostService × List ServiceOutput) :=
  (service.process.instance_).bind fun address =>
    (service.process.lookup address).bind fun object =>
      (VhostController.handle ⟨service.config, service.portCntr, object.mode⟩ callback).map fun handled =>
        ({ service with config := handled.1.config, portCntr := handled.1.portCntr },
          handled.2.map (.sent object.abstractFd))

/-- No call comes to an object whose destructor has begun. -/
def operate (service : VhostService) : ServiceInput → Option (VhostService × List ServiceOutput)
  | .construct socketPath clientFd =>
      let constructed := service.process.construct service.config socketPath clientFd
      some ({ service with process := constructed.1 }, constructed.2.map .effect)
  | .init address granted =>
      if service.leaving = none then
        (service.process.lookup address).map fun object =>
          let called := service.process.init object granted
          ({ service with process := called.1 }, called.2.map .effect)
      else none
  | .start address answers =>
      if service.leaving = none then
        (service.process.lookup address).map fun object =>
          let called := service.process.start object answers
          ({ service with process := called.1, serving := served service.serving object called.2 },
            called.2.map .effect)
      else none
  | .destroy address =>
      if service.leaving = none then
        (service.process.lookup address).map fun object =>
          ({ service with leaving := some (.unregistering object.address) }, [])
      else none
  | .unregister address =>
      if service.leaving = some (.unregistering address) then
        (service.process.lookup address).map fun object =>
          let called := service.unregister object
          (called.1, called.2.map .effect)
      else none
  | .cleanup address =>
      if service.leaving = some (.unregistered address) then
        (service.process.lookup address).map fun object =>
          let called := service.cleanup object
          (called.1, called.2.map .effect)
      else none
  | .clear address =>
      if service.leaving = some (.cleaned address) then
        (service.process.lookup address).map fun object =>
          let called := service.clear object
          (called.1, called.2.map .effect)
      else none
  | .callback socketPath callback => if socketPath ∈ service.serving then service.dispatch callback else none

/-- The steps of the lives and the callbacks interleave in any order. -/
def machine : Machine VhostService ServiceInput ServiceOutput := ⟨operate⟩

end VhostService

end Vtb

/-
This file embeds the constructor, the destructor, `init` and `start` of `vhost_controller.cpp`.
Every DPDK call is given by its answer. A call on a controller that is not alive has no result.
-/

import Vtb.Library.Machine
import Vtb.Construction.ConfigManager

namespace Vtb
open Library

/-- A fully constructed controller; `address` is what `instance_` can point to. -/
structure VhostObject where
  address : Nat
  socketPath : String
  mode : String
  abstractSockname : String
  abstractFd : Int
  ealInitialised : Bool
  driverRegistered : Bool
deriving DecidableEq

/-- What DPDK holds for the process: the registered sockets and the state of the EAL. -/
structure Rte where
  sockets : List String
  eal : Bool
deriving DecidableEq

/-- `alive` lists the controllers that are constructed and not destroyed. -/
structure VhostProcess where
  instance_ : Option Nat
  alive : List VhostObject
  rte : Rte
  nextAddress : Nat
deriving DecidableEq

/-- The answers to the three DPDK calls of `start` that can fail. -/
structure DriverAnswers where
  register : Bool
  callbackRegister : Bool
  driverStart : Bool
deriving DecidableEq

inductive VhostOperation where
  | construct (socketPath : String) (clientFd : Int)
  | init (address : Nat) (granted : Bool)
  | start (address : Nat) (answers : DriverAnswers)
  | destroy (address : Nat)
deriving DecidableEq

/-- What the operations do to DPDK and to `instance_`, and how they end. -/
inductive VhostEffect where
  | constructed (address : Nat)
  | ealInit (address : Nat)
  | driverRegister (address : Nat)
  | ready (address : Nat)
  | driverUnregister (socketPath : String)
  | ealCleanup
  | instanceCleared
  | threw (what : String)
deriving DecidableEq

namespace VhostProcess

/-- DPDK holds nothing when the process starts. -/
def initial : VhostProcess := ⟨none, [], ⟨[], false⟩, 0⟩

def onlyOneInstance : String := "Vhost Controller: Only one Vhost Controller instance allowed"

def ealInitFailed : String := "Vhost Controller: EAL init failed"

def registerFailed (socketPath : String) : String :=
  "Vhost Controller: Driver register failed: " ++ socketPath

def callbackFailed : String := "Vhost Controller: Callback register failed"

def startFailed : String := "Vhost Controller: Driver start failed"

def lookup (process : VhostProcess) (address : Nat) : Option VhostObject :=
  process.alive.find? fun object => object.address == address

/-- The members of one controller change in place. -/
def update (process : VhostProcess) (object : VhostObject) : VhostProcess :=
  { process with alive := process.alive.map fun other =>
      if other.address = object.address then object else other }

/-- The members that the constructor leaves; `clientFd` is what `create_client_socket` returns. -/
def constructed (config : ConfigManager) (address : Nat) (socketPath : String) (clientFd : Int) :
    VhostObject :=
  let mode := config.getArg "-m"
  if mode = "Loopback" ∨ mode = "Back2Back" then
    ⟨address, socketPath, mode, config.getArg "-absn", clientFd, false, false⟩
  else ⟨address, socketPath, mode, "", -1, false, false⟩

/-- The exchange of `instance_` comes first, so a rejected object claims nothing. -/
def construct (config : ConfigManager) (process : VhostProcess) (socketPath : String) (clientFd : Int) :
    VhostProcess × List VhostEffect :=
  match process.instance_ with
  | some _ => (process, [.threw onlyOneInstance])
  | none =>
      let address := process.nextAddress
      ({ process with
          instance_ := some address
          alive := constructed config address socketPath clientFd :: process.alive
          nextAddress := address + 1 },
        [.constructed address])

/-- An EAL that is initialised already cannot be initialised again. -/
def init (process : VhostProcess) (object : VhostObject) (granted : Bool) : VhostProcess × List VhostEffect :=
  if granted ∧ process.rte.eal = false then
    ({ process.update { object with ealInitialised := true } with
        rte := { process.rte with eal := true } }, [.ealInit object.address])
  else (process, [.threw ealInitFailed])

/-- A socket that is registered already cannot be registered again. -/
def start (process : VhostProcess) (object : VhostObject) (answers : DriverAnswers) :
    VhostProcess × List VhostEffect :=
  if answers.register ∧ object.socketPath ∉ process.rte.sockets then
    let registered : VhostProcess :=
      { process.update { object with driverRegistered := true } with
        rte := { process.rte with sockets := object.socketPath :: process.rte.sockets } }
    if answers.callbackRegister = false then
      (registered, [.driverRegister object.address, .threw callbackFailed])
    else if answers.driverStart = false then
      (registered, [.driverRegister object.address, .threw startFailed])
    else (registered, [.driverRegister object.address, .ready object.address])
  else (process, [.threw (registerFailed object.socketPath)])

/-- The destructor undoes what its flags record and then clears `instance_`. -/
def destroy (process : VhostProcess) (object : VhostObject) : VhostProcess × List VhostEffect :=
  let unregistered : Rte × List VhostEffect :=
    if object.driverRegistered then
      ({ process.rte with sockets := process.rte.sockets.erase object.socketPath },
        [.driverUnregister object.socketPath])
    else (process.rte, [])
  let cleaned : Rte × List VhostEffect :=
    if object.ealInitialised then ({ unregistered.1 with eal := false }, [.ealCleanup])
    else (unregistered.1, [])
  ({ process with
      instance_ := none
      alive := process.alive.filter fun other => other.address != object.address
      rte := cleaned.1 },
    unregistered.2 ++ cleaned.2 ++ [.instanceCleared])

def operate (config : ConfigManager) (process : VhostProcess) :
    VhostOperation → Option (VhostProcess × List VhostEffect)
  | .construct socketPath clientFd => some (process.construct config socketPath clientFd)
  | .init address granted => (process.lookup address).map fun object => process.init object granted
  | .start address answers => (process.lookup address).map fun object => process.start object answers
  | .destroy address => (process.lookup address).map fun object => process.destroy object

/-- The process performs the operations one after the other. -/
def machine (config : ConfigManager) : Machine VhostProcess VhostOperation VhostEffect :=
  ⟨operate config⟩

end VhostProcess

end Vtb

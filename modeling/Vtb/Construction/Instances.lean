/-
This file runs several instances of the program on one machine. Their `main` of `vtb.cpp` creates the server
of the port controller, starts its worker, constructs the vhost side and resets the port controller at the end;
a process may also exit at any other point. `-absn` gives every instance its socket name.
Only a Loopback controller has a server, and the vhost side has a client in the modes Loopback and Back2Back.
-/

import Vtb.Library.Machine
import Vtb.Construction.Main
import Vtb.Construction.Socket

namespace Vtb
open Library

namespace Kernel

/-- `listen` fails on the descriptor -1. -/
def listenOn (kernel : Kernel) (fd : Int) : Kernel := if 0 ≤ fd then kernel.listen fd.toNat else kernel

/-- A closed socket leaves its abstract name, while a file stays in the file system. -/
def release (kernel : Kernel) (fd : Int) : Kernel :=
  { kernel with
    names := fun endpoint =>
      match endpoint with
      | .abstractSocket name =>
          (kernel.names (.abstractSocket name)).filter fun node =>
            match node with
            | .socket descriptor => (descriptor : Int) ≠ fd
            | .file => true
      | .filePath path => kernel.names (.filePath path)
    listening := kernel.listening.filter fun descriptor => (descriptor : Int) ≠ fd }

/-- The connections of a socket end with its process. -/
def hangUp (kernel : Kernel) (fd : Int) : Kernel :=
  { kernel with connections := kernel.connections.filter fun connection =>
      (connection.1 : Int) ≠ fd ∧ (connection.2 : Int) ≠ fd }

end Kernel

/-- How far `main` has come. -/
inductive MainStage where
  | configured
  | serverCreated
  | dispatching
  | constructed
  | controllerReset
deriving DecidableEq

/-- `server` and `client` are the members `abstract_fd_` of the port controller and of the vhost side. -/
structure VtbInstance where
  mode : ControllerKind
  abstractSockname : List UInt8
  stage : MainStage
  server : Int
  client : Int
deriving DecidableEq

/-- The instances by the numbers of their processes. -/
structure Host where
  kernel : Kernel
  instances : Nat → Option VtbInstance

/-- The steps of the instances; the answers to `socket` and `bind` come from the environment. -/
inductive HostEvent where
  | main (pid : Nat) (mode : ControllerKind) (abstractSockname : List UInt8)
  | createServer (pid : Nat) (granted bindable : Bool)
  | monitorAndDispatchHandler (pid : Nat)
  | constructVhostController (pid : Nat) (granted : Bool)
  | resetPortController (pid : Nat)
  | exit (pid : Nat)
deriving DecidableEq

namespace Host

def empty : Host := ⟨Kernel.empty, fun _ => none⟩

/-- The instance of a process that has come to this stage. -/
def inStage (host : Host) (pid : Nat) (stage : MainStage) : Option VtbInstance :=
  (host.instances pid).filter fun entry => entry.stage = stage

def put (host : Host) (pid : Nat) (entry : VtbInstance) (kernel : Kernel) : Host :=
  ⟨kernel, Function.update host.instances pid (some entry)⟩

/-- `create_server` of the port controller. -/
def createServer (host : Host) (pid : Nat) (entry : VtbInstance) (granted bindable : Bool) : Host :=
  match entry.mode with
  | .loopback =>
      let called := PortControllerLoopback.createServer entry.abstractSockname granted bindable host.kernel
      host.put pid { entry with stage := .serverCreated, server := called.1 } called.2
  | .back2Back => host.put pid { entry with stage := .serverCreated } host.kernel
  | .emulator => host.put pid { entry with stage := .serverCreated } host.kernel

/-- `monitor_and_dispatch_handler` of the port controller. -/
def monitorAndDispatchHandler (host : Host) (pid : Nat) (entry : VtbInstance) : Host :=
  match entry.mode with
  | .loopback => host.put pid { entry with stage := .dispatching } (host.kernel.listenOn entry.server)
  | .back2Back => host.put pid { entry with stage := .dispatching } host.kernel
  | .emulator => host.put pid { entry with stage := .dispatching } host.kernel

/-- The constructor of the vhost side. -/
def constructVhostController (host : Host) (pid : Nat) (entry : VtbInstance) (granted : Bool) : Host :=
  if entry.mode = .loopback ∨ entry.mode = .back2Back then
    let called := VhostController.createClient entry.abstractSockname granted host.kernel
    host.put pid { entry with stage := .constructed, client := called.1 } called.2
  else host.put pid { entry with stage := .constructed } host.kernel

/-- The destructor of the port controller closes the server. -/
def resetPortController (host : Host) (pid : Nat) (entry : VtbInstance) : Host :=
  match entry.mode with
  | .loopback => host.put pid { entry with stage := .controllerReset } (host.kernel.release entry.server)
  | .back2Back => host.put pid { entry with stage := .controllerReset } host.kernel
  | .emulator => host.put pid { entry with stage := .controllerReset } host.kernel

/-- The end of a process closes its sockets. -/
def exit (host : Host) (pid : Nat) (entry : VtbInstance) : Host :=
  ⟨((host.kernel.release entry.server).hangUp entry.server).hangUp entry.client,
    Function.update host.instances pid none⟩

/-- The step has no result for a process that does not exist or is not at the stage. -/
def step (host : Host) : HostEvent → Option Host
  | .main pid mode abstractSockname =>
      if host.instances pid = none then
        some (host.put pid ⟨mode, abstractSockname, .configured, -1, -1⟩ host.kernel)
      else none
  | .createServer pid granted bindable =>
      (host.inStage pid .configured).map fun entry => host.createServer pid entry granted bindable
  | .monitorAndDispatchHandler pid =>
      (host.inStage pid .serverCreated).map fun entry => host.monitorAndDispatchHandler pid entry
  | .constructVhostController pid granted =>
      (host.inStage pid .dispatching).map fun entry => host.constructVhostController pid entry granted
  | .resetPortController pid =>
      (host.inStage pid .constructed).map fun entry => host.resetPortController pid entry
  | .exit pid => (host.instances pid).map fun entry => host.exit pid entry

/-- The instances take their steps in any order. -/
def machine : Machine Host HostEvent Unit := ⟨fun host event => (host.step event).map fun next => (next, [])⟩

end Host

end Vtb

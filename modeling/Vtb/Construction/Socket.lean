/-
This file embeds `create_client_socket` and `create_server_socket` of `common.cpp` over any system, which may give
every answer to their system calls, and the two callers that build the path of the abstract socket.
A path is a list of bytes, and each path of the file system is its own name.
-/

import Mathlib.Tactic

namespace Vtb

abbrev Descriptor := Nat

/-- The size of `sun_path` in `sockaddr_un`. -/
abbrev sunPathSize : Nat := 108

/-- `offsetof(struct sockaddr_un, sun_path)`. -/
abbrev sunPathOffset : Nat := 2

/-- The two arguments of `bind` and `connect` that name the endpoint. -/
structure SocketAddress where
  sunPath : Vector UInt8 sunPathSize
  length : Nat
deriving DecidableEq

/-- What an address names: an abstract socket or a path of the file system. -/
inductive Endpoint where
  | abstractSocket (name : List UInt8)
  | filePath (path : List UInt8)
deriving DecidableEq

/-- The bytes before the first NUL. -/
def cString (bytes : List UInt8) : List UInt8 := bytes.takeWhile fun byte => byte != 0

/-- The bytes at the start of a zeroed `sun_path`. -/
def sunPathOf (bytes : List UInt8) : Vector UInt8 sunPathSize :=
  Vector.ofFn fun index => bytes.getD index 0

/-- A leading NUL starts an abstract name, which ends with the length of the address. -/
def SocketAddress.endpoint (address : SocketAddress) : Endpoint :=
  match address.sunPath.toList.take (address.length - sunPathOffset) with
  | 0 :: name => .abstractSocket name
  | path => .filePath (cString path)

inductive SystemCall where
  | unlink (path : List UInt8)
  | bind (descriptor : Descriptor) (address : SocketAddress)
  | connect (descriptor : Descriptor) (address : SocketAddress)
  | close (descriptor : Descriptor)
deriving DecidableEq

/-- An entry of the name space: a bound socket, or a file that is no socket. -/
inductive Node where
  | socket (descriptor : Descriptor)
  | file
deriving DecidableEq

/-- The name space and the sockets; `trace` lists the calls in order.
A connection is a client's descriptor with the server that accepts it. -/
structure Kernel where
  names : Endpoint → Option Node
  listening : List Descriptor
  connections : List (Descriptor × Descriptor)
  nextDescriptor : Descriptor
  trace : List SystemCall

namespace Kernel

def empty : Kernel := ⟨fun _ => none, [], [], 0, []⟩

def record (kernel : Kernel) (call : SystemCall) : Kernel := { kernel with trace := kernel.trace ++ [call] }

/-- A new socket gets a descriptor that no socket had before. -/
def socket (kernel : Kernel) (granted : Bool) : Option (Descriptor × Kernel) :=
  if granted then
    some (kernel.nextDescriptor, { kernel with nextDescriptor := kernel.nextDescriptor + 1 })
  else none

def unlink (kernel : Kernel) (path : List UInt8) : Kernel :=
  { kernel.record (.unlink path) with names := Function.update kernel.names (.filePath path) none }

/-- A name that is in use cannot be bound again. -/
def bind (kernel : Kernel) (descriptor : Descriptor) (address : SocketAddress) (granted : Bool) :
    Bool × Kernel :=
  let called := kernel.record (.bind descriptor address)
  if granted ∧ kernel.names address.endpoint = none then
    (true, { called with names := Function.update kernel.names address.endpoint (some (.socket descriptor)) })
  else (false, called)

/-- A connection needs a bound socket that listens. -/
def connect (kernel : Kernel) (descriptor : Descriptor) (address : SocketAddress) : Bool × Kernel :=
  let called := kernel.record (.connect descriptor address)
  match kernel.names address.endpoint with
  | some (.socket server) =>
      if server ∈ kernel.listening then
        (true, { called with connections := (descriptor, server) :: kernel.connections })
      else (false, called)
  | _ => (false, called)

def listen (kernel : Kernel) (descriptor : Descriptor) : Kernel :=
  { kernel with listening := descriptor :: kernel.listening }

/-- The functions below close only sockets that are neither bound nor connected. -/
def close (kernel : Kernel) (descriptor : Descriptor) : Kernel := kernel.record (.close descriptor)

end Kernel

/-- The branch of a path that starts with `@`: the name follows a leading NUL. -/
def abstractAddress (path : List UInt8) : SocketAddress :=
  ⟨sunPathOf (0 :: path.tail), sunPathOffset + path.length⟩

/-- The branch of every other path: `strncpy` stops at the first NUL. -/
def unixAddress (path : List UInt8) : SocketAddress :=
  ⟨sunPathOf ((cString path).take (sunPathSize - 1)), sunPathOffset + sunPathSize⟩

/-- The byte `@`. -/
def atSign : UInt8 := 64

/-- The system calls of the two helpers; a negative answer of `socket` is `none`. -/
structure SocketSystem (State : Type) where
  socket : State → Option (Descriptor × State)
  unlink : State → List UInt8 → State
  bind : State → Descriptor → SocketAddress → Bool × State
  connect : State → Descriptor → SocketAddress → Bool × State
  close : State → Descriptor → State

namespace SocketSystem
variable {State : Type}

/-- The result of `connect` is not looked at. -/
def createClientSocket (system : SocketSystem State) (path : List UInt8) (state : State) : Int × State :=
  if path = [] then (-1, state)
  else match system.socket state with
    | none => (-1, state)
    | some (sockFd, state) =>
        if path.length ≥ sunPathSize then (-1, system.close state sockFd)
        else if path.head? = some atSign then
          (sockFd, (system.connect state sockFd (abstractAddress path)).2)
        else
          (sockFd, (system.connect (system.unlink state (cString path)) sockFd (unixAddress path)).2)

def createServerSocket (system : SocketSystem State) (path : List UInt8) (state : State) : Int × State :=
  if path = [] then (-1, state)
  else match system.socket state with
    | none => (-1, state)
    | some (sockFd, state) =>
        if path.length ≥ sunPathSize then (-1, system.close state sockFd)
        else if path.head? = some atSign then
          let (bound, state) := system.bind state sockFd (abstractAddress path)
          if bound then (sockFd, state) else (-1, system.close state sockFd)
        else
          let (bound, state) := system.bind (system.unlink state (cString path)) sockFd (unixAddress path)
          if bound then (sockFd, state) else (-1, system.close state sockFd)

end SocketSystem

/-- The kernel under the answers of its environment to `socket` and `bind`. -/
def Kernel.system (granted bindable : Bool) : SocketSystem Kernel where
  socket kernel := kernel.socket granted
  unlink := Kernel.unlink
  bind kernel descriptor address := kernel.bind descriptor address bindable
  connect := Kernel.connect
  close := Kernel.close

/-- A client binds nothing. -/
def createClientSocket (path : List UInt8) (granted : Bool) (kernel : Kernel) : Int × Kernel :=
  (Kernel.system granted false).createClientSocket path kernel

def createServerSocket (path : List UInt8) (granted bindable : Bool) (kernel : Kernel) : Int × Kernel :=
  (Kernel.system granted bindable).createServerSocket path kernel

/-- `PortControllerLoopback::create_server` puts a NUL before the abstract name. -/
def PortControllerLoopback.createServer (abstractSockname : List UInt8) (granted bindable : Bool)
    (kernel : Kernel) : Int × Kernel :=
  createServerSocket (0 :: abstractSockname) granted bindable kernel

/-- `VhostController::create_client` puts a NUL before the abstract name. -/
def VhostController.createClient (abstractSockname : List UInt8) (granted : Bool) (kernel : Kernel) :
    Int × Kernel :=
  createClientSocket (0 :: abstractSockname) granted kernel

/-- The answers that a system gives to one call of a helper. -/
structure SocketOutcomes where
  socket : Option Descriptor
  bind : Bool
  connect : Bool
deriving DecidableEq

/-- A call of a helper; `opened` is a `socket` that returned a descriptor. -/
inductive SocketCall where
  | opened (descriptor : Descriptor)
  | made (call : SystemCall)
deriving DecidableEq

/-- The system that gives these answers and lists the calls in order. -/
def SocketOutcomes.system (outcomes : SocketOutcomes) : SocketSystem (List SocketCall) where
  socket calls := outcomes.socket.map fun descriptor => (descriptor, calls ++ [.opened descriptor])
  unlink calls path := calls ++ [.made (.unlink path)]
  bind calls descriptor address := (outcomes.bind, calls ++ [.made (.bind descriptor address)])
  connect calls descriptor address := (outcomes.connect, calls ++ [.made (.connect descriptor address)])
  close calls descriptor := calls ++ [.made (.close descriptor)]

end Vtb

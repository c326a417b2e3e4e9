/-
This file embeds `port_handler.h`, `port_handler.cpp`, and `start` and the destructor of
`port_handler_loopback.cpp`.
A DPDK creation is given by its outcome: it fails when the name is in use, and otherwise
it fails with the errno that the environment chooses or it succeeds.
-/

import Vtb.Library.Machine

namespace Vtb
open Library

/-- A pointer to a DPDK object. -/
abbrev Handle := Nat

/-- A memory pool or a ring that exists under its name. -/
structure DpdkObject where
  handle : Handle
  name : String
deriving DecidableEq

/-- The objects of the process; no handle is given out twice. -/
structure Dpdk where
  objects : List DpdkObject
  nextHandle : Handle
deriving DecidableEq

namespace Dpdk

def empty : Dpdk := ⟨[], 0⟩

def inUse (dpdk : Dpdk) (name : String) : Bool := dpdk.objects.any fun object => object.name == name

/-- `EEXIST` is the errno of a creation under a used name. -/
def eexist : Int := 17

/-- `refusal` is the errno of a creation that the environment refuses. -/
def create (dpdk : Dpdk) (name : String) (refusal : Option Int) : Except Int (Handle × Dpdk) :=
  if dpdk.inUse name then .error eexist
  else match refusal with
    | some errno => .error errno
    | none => .ok (dpdk.nextHandle, ⟨⟨dpdk.nextHandle, name⟩ :: dpdk.objects, dpdk.nextHandle + 1⟩)

/-- `rte_mempool_free` and `rte_ring_free` -/
def free (dpdk : Dpdk) (handle : Handle) : Dpdk :=
  { dpdk with objects := dpdk.objects.filter fun object => object.handle != handle }

end Dpdk

/-- The environment's answers to the three creations of one `start`. -/
structure CreateOutcomes where
  txPool : Option Int
  rxPool : Option Int
  txRing : Option Int
deriving DecidableEq

/-- Every creation under an unused name succeeds. -/
def CreateOutcomes.granted : CreateOutcomes := ⟨none, none, none⟩

/-- The configuration that `start` reads; `get_arg<int>` throws on a value that is no number. -/
structure HandlerSettings where
  mode : String
  nofThreads : Except String Int

/-- The threads that a handler launches. -/
inductive Worker where
  | tx
  | rx
  | txRx
deriving DecidableEq

structure PortHandlerLoopback where
  isRunning : Bool
  vid : Int
  rxqid : Int
  txqid : Int
  txMbufPool : Option Handle
  rxMbufPool : Option Handle
  txRing : Option Handle
  rxRing : Option Handle
deriving DecidableEq

/-- What `start` reads and writes; both parts survive an exception. -/
structure StartState where
  handler : PortHandlerLoopback
  dpdk : Dpdk
deriving DecidableEq

namespace PortHandlerLoopback

def initial : PortHandlerLoopback := ⟨false, -1, -1, -1, none, none, none, none⟩

def stop (handler : PortHandlerLoopback) : PortHandlerLoopback := { handler with isRunning := false }

def setVid (handler : PortHandlerLoopback) (vid : Int) : PortHandlerLoopback := { handler with vid }

def setRxqid (handler : PortHandlerLoopback) (rxqid : Int) : PortHandlerLoopback := { handler with rxqid }

def setTxqid (handler : PortHandlerLoopback) (txqid : Int) : PortHandlerLoopback := { handler with txqid }

def objectName (family : String) (vid queue : Int) : String :=
  family ++ toString vid ++ "_" ++ toString queue

def txPoolName (handler : PortHandlerLoopback) : String :=
  objectName "TX_MBUF_POOL_" handler.vid handler.txqid

def rxPoolName (handler : PortHandlerLoopback) : String :=
  objectName "RX_MBUF_POOL_" handler.vid handler.rxqid

def txRingName (handler : PortHandlerLoopback) : String :=
  objectName "TX_RING_" handler.vid handler.txqid

/-- One creation assigns its pointer, which is null when the creation fails, and then throws. -/
def createObject (message name : String) (refusal : Option Int)
    (assign : PortHandlerLoopback → Option Handle → PortHandlerLoopback) :
    EStateM String StartState Unit := fun state =>
  match state.dpdk.create name refusal with
  | .ok (handle, dpdk) => .ok () ⟨assign state.handler (some handle), dpdk⟩
  | .error errno =>
      .error (message ++ name ++ " rte_errno:" ++ toString errno)
        { state with handler := assign state.handler none }

def createTxPool (refusal : Option Int) : EStateM String StartState Unit := fun state =>
  createObject "Cannot create TX MBUF Pool: " state.handler.txPoolName refusal
    (fun handler pool => { handler with txMbufPool := pool }) state

def createRxPool (refusal : Option Int) : EStateM String StartState Unit := fun state =>
  createObject "Cannot create RX MBUF Pool: " state.handler.rxPoolName refusal
    (fun handler pool => { handler with rxMbufPool := pool }) state

def createTxRing (refusal : Option Int) : EStateM String StartState Unit := fun state =>
  createObject "Cannot create inter-thread ring: " state.handler.txRingName refusal
    (fun handler ring => { handler with txRing := ring }) state

/-- The threads of one mode; the rx ring aliases the tx ring. -/
def launch (mode : String) (nofThreads : Int) : EStateM String StartState (List Worker) := fun state =>
  let shared := { state with handler := { state.handler with rxRing := state.handler.txRing } }
  if mode = "Loopback" then
    if nofThreads = 1 then .ok [.txRx] shared
    else if nofThreads = 2 then .ok [.tx, .rx] shared
    else .ok [] state
  else .ok [] state

/-- `start` returns the threads that it launched. -/
def start (settings : HandlerSettings) (outcomes : CreateOutcomes) :
    EStateM String StartState (List Worker) :=
  match settings.nofThreads with
  | .error what => throw what
  | .ok nofThreads => do
      createTxPool outcomes.txPool
      createRxPool outcomes.rxPool
      createTxRing outcomes.txRing
      launch settings.mode nofThreads

/-- The destructor frees a pointer that is not null and clears it. -/
def freePointer (pointer : Option Handle) (dpdk : Dpdk) : Dpdk × List Handle :=
  match pointer with
  | none => (dpdk, [])
  | some handle => (dpdk.free handle, [handle])

/-- `~PortHandlerLoopback`; `rx_ring_` is cleared only, because it aliases `tx_ring_`.
The result lists the freed objects. -/
def destroy (state : StartState) : StartState × List Handle :=
  let (dpdk, freedTxPool) := freePointer state.handler.txMbufPool state.dpdk
  let (dpdk, freedRxPool) := freePointer state.handler.rxMbufPool dpdk
  let (dpdk, freedTxRing) := freePointer state.handler.txRing dpdk
  (⟨{ state.handler with txMbufPool := none, rxMbufPool := none, txRing := none, rxRing := none }, dpdk⟩,
    freedTxPool ++ freedRxPool ++ freedTxRing)

end PortHandlerLoopback

/-- The calls that a controller makes on a handler. -/
inductive HandlerOperation where
  | setVid (vid : Int)
  | setRxqid (rxqid : Int)
  | setTxqid (txqid : Int)
  | start (outcomes : CreateOutcomes)
  | stop
deriving DecidableEq

/-- What a call brings into being. -/
inductive HandlerOutput where
  | created (handle : Handle)
  | launched (worker : Worker)
deriving DecidableEq

namespace PortHandlerLoopback

/-- DPDK hands out its handles in order. -/
def createdBetween (before after : Dpdk) : List HandlerOutput :=
  (List.range' before.nextHandle (after.nextHandle - before.nextHandle)).map .created

/-- An exception of `start` is caught, as `process_notification` does. -/
def operate (settings : HandlerSettings) (state : StartState) :
    HandlerOperation → StartState × List HandlerOutput
  | .setVid vid => ({ state with handler := state.handler.setVid vid }, [])
  | .setRxqid rxqid => ({ state with handler := state.handler.setRxqid rxqid }, [])
  | .setTxqid txqid => ({ state with handler := state.handler.setTxqid txqid }, [])
  | .start outcomes =>
      match start settings outcomes state with
      | .ok workers after => (after, createdBetween state.dpdk after.dpdk ++ workers.map .launched)
      | .error _ after => (after, createdBetween state.dpdk after.dpdk)
  | .stop => ({ state with handler := state.handler.stop }, [])

/-- The controller calls one handler. -/
def machine (settings : HandlerSettings) : Machine StartState HandlerOperation HandlerOutput :=
  ⟨fun state operation => some (operate settings state operation)⟩

end PortHandlerLoopback

end Vtb

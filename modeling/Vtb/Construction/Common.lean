/-
This file embeds the data types of `common.h`.
-/

import Vtb.Library.CheckedArray

namespace Vtb

/-- `MAX_QUEUE_PAIRS` of the source. -/
abbrev maxQueuePairs : Nat := 8

structure VhostQueuePair where
  rxqId : UInt16
  txqId : UInt16
  rxqEnabled : Bool
  txqEnabled : Bool
deriving DecidableEq

structure VhostDevice where
  vid : Int
  nofQueuePairs : Int
  qpid : Vector Int maxQueuePairs
  qp : Vector VhostQueuePair maxQueuePairs
  ready : Bool
  ctlqId : UInt16
deriving DecidableEq

structure PortQueuePair where
  rxqId : Int
  txqId : Int
deriving DecidableEq

structure PortDevice where
  qp : Vector PortQueuePair maxQueuePairs
  ctlqId : Int
deriving DecidableEq

structure PortMap where
  vd : VhostDevice
  pd : PortDevice
deriving DecidableEq

/-- `std::map::operator[]` value-initialises a missing entry. -/
def PortMap.zero : PortMap where
  vd := {
    vid := 0
    nofQueuePairs := 0
    qpid := Vector.replicate maxQueuePairs 0
    qp := Vector.replicate maxQueuePairs ⟨0, 0, false, false⟩
    ready := false
    ctlqId := 0 }
  pd := {
    qp := Vector.replicate maxQueuePairs ⟨0, 0⟩
    ctlqId := 0 }

/-- The notification packet; `metaCode` is the field `meta` of the source. -/
structure PortDeviceRingState where
  metaCode : Int
  portId : Int
  deviceId : Int
  qid : Int
  enable : Int
deriving DecidableEq

/-- The C++ remainder truncates towards zero. -/
def isEven (n : Int) : Bool := n.tmod 2 == 0

end Vtb

/-
This file embeds the critical sections of `pmap_mutex_` in `config_manager.cpp` in small steps.
Each pass of a loop is a step of its own, and so is each access to the map outside the loops.
A step has no result where an index leaves its array.
-/

import Vtb.Library.Monitor
import Vtb.Construction.ConfigManager

namespace Vtb
open Library

/-- Where a call is in its critical section, with its local variables. -/
inductive PortMapPosition where
  | entering (call : PortMapCall)
  | heading (portId vid nofPairs : Int)
  | filling (portId nofPairs : Int) (i : Nat)
  | scanning (portId : Int) (vringId : UInt16) (enable : Bool) (i : Nat)
  | pairing (portId qpIdx socketFd : Int)
  | printing (ports : List Int) (lines : List String)
  | printingRows (portId : Int) (ports : List Int) (i : Nat) (lines : List String)

namespace ConfigManager

/-- The first access of a call to the map. -/
def enterCall (config : ConfigManager) :
    PortMapCall → Option (ConfigManager × (PortMapPosition ⊕ List PortMapAnswer))
  | .operate (.initVhostDevice portId vid nofPairs) =>
      some (config.store portId ((config.pmap[portId]?).getD PortMap.zero), .inl (.heading portId vid nofPairs))
  | .operate (.setQueueState portId vringId enable) =>
      match config.pmap[portId]? with
      | none => some (config, .inr [])
      | some _ => some (config, .inl (.scanning portId vringId enable 0))
  | .operate (.assignPortDataSocket portId qpIdx socketFd) =>
      match config.pmap[portId]? with
      | none => some (config, .inr [])
      | some pm =>
          if qpIdx < maxQueuePairs then
            (readCell pm.pd.qp qpIdx).bind fun pair =>
              (writeCell pm.pd.qp qpIdx { pair with rxqId := socketFd }).map fun qp =>
                (config.store portId { pm with pd := { pm.pd with qp } }, .inl (.pairing portId qpIdx socketFd))
          else some (config, .inr [])
  | .operate (.assignPortControlSocket portId ctlFd) => some (config.assignPortControlSocket portId ctlFd, .inr [])
  | .operate (.clearDevice vid) => some (config.clearDevice vid, .inr [])
  | .getVhostQids portId qNum =>
      (config.getVhostQids portId qNum).map fun qids => (config, .inr [.qids qids.1 qids.2.1 qids.2.2])
  | .isQueueReady vid qpid => (config.isQueueReady vid qpid).map fun ready => (config, .inr [.ready ready])
  | .printPortmap => some (config, .inl (.printing (config.pmap.toList.map Prod.fst) [portmapHeader, portmapRule]))

/-- The next step of a call that has the mutex. -/
def advanceCall (position : PortMapPosition) (config : ConfigManager) :
    Option (ConfigManager × (PortMapPosition ⊕ List PortMapAnswer)) :=
  match position with
  | .entering call => config.enterCall call
  | .heading portId vid nofPairs =>
      (config.pmap[portId]?).map fun pm =>
        (config.store portId { pm with vd := { pm.vd with vid, nofQueuePairs := nofPairs, ready := true } },
          .inl (.filling portId nofPairs 0))
  | .filling portId nofPairs i =>
      if (i : Int) < nofPairs then
        (config.pmap[portId]?).bind fun pm =>
          (initPair nofPairs pm i).map fun pm => (config.store portId pm, .inl (.filling portId nofPairs (i + 1)))
      else some (config, .inr [])
  | .scanning portId vringId enable i =>
      (config.pmap[portId]?).bind fun pm =>
        if (i : Int) < pm.vd.nofQueuePairs then
          (readCell pm.vd.qp i).bind fun pair =>
            if pair.rxqId = vringId then
              (writeCell pm.vd.qp i { pair with rxqEnabled := enable }).map fun qp =>
                (config.store portId { pm with vd := { pm.vd with qp } }, .inr [])
            else if pair.txqId = vringId then
              (writeCell pm.vd.qp i { pair with txqEnabled := enable }).map fun qp =>
                (config.store portId { pm with vd := { pm.vd with qp } }, .inr [])
            else some (config, .inl (.scanning portId vringId enable (i + 1)))
        else some (config, .inr [])
  | .pairing portId qpIdx socketFd =>
      (config.pmap[portId]?).bind fun pm =>
        (readCell pm.pd.qp qpIdx).bind fun pair =>
          (writeCell pm.pd.qp qpIdx { pair with txqId := socketFd }).map fun qp =>
            (config.store portId { pm with pd := { pm.pd with qp } }, .inr [])
  | .printing [] lines => some (config, .inr [.printed lines])
  | .printing (portId :: ports) lines => some (config, .inl (.printingRows portId ports 0 lines))
  | .printingRows portId ports i lines =>
      (config.pmap[portId]?).bind fun pm =>
        if (i : Int) < pm.vd.nofQueuePairs then
          (portmapRow portId pm i).map fun row =>
            (config, .inl (.printingRows portId ports (i + 1) (lines ++ [row])))
        else some (config, .inl (.printing ports (lines ++ [portmapRule])))

/-- The calls on the port map as procedures under `pmap_mutex_`. -/
def procedures : Procedures PortMapCall PortMapPosition ConfigManager (List PortMapAnswer) :=
  ⟨.entering, advanceCall⟩

end ConfigManager

end Vtb

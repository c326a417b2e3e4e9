/-
This file embeds the port map of `config_manager.h` and `config_manager.cpp`.
Each operation runs under `pmap_mutex_`, so it is one atomic function of the map.
The result is `none` where the code would index outside an array of the entry.
-/

import Vtb.Library.Machine
import Vtb.Construction.Common
import Vtb.Construction.CmdlineParser

namespace Vtb
open Library

/-- `std::map` iterates in key order, and so does this map. -/
abbrev PortTable := Std.ExtTreeMap Int PortMap

structure ConfigManager where
  parser : CmdlineParser
  pmap : PortTable

namespace ConfigManager

/-- The constructor registers the arguments of the application. -/
def arguments : CmdlineParser :=
  ((((((CmdlineParser.empty.addArgument "--help" "-h" "Show this help menu" false "false"
    ).addArgument "--mode" "-m" "Loopback | Back2Back | Emulator" false "Loopback"
    ).addArgument "--mode-threads" "-mth" "1 | 2" false "1"
    ).addArgument "--abstract_sockname" "-absn"
      "Specify a random name. For internal use only" false "cm_to_ph_sock"
    ).addArgument "--port_data_sockname" "-pdsn"
      "Unix socket path to connect to port data plane" false "/tmp/port_data.sock"
    ).addArgument "--port_control_sockname" "-pcsn"
      "Unix socket path to connect to port control plane" false "/tmp/port_ctrl.sock"
    ).addArgument "--vhost_sockname" "-vsn"
      "Unix socket path to connect to virtual machine" false "/tmp/vhost.sock"

/-- The manager starts with an empty port map and the parsed command line. -/
def initial (parser : CmdlineParser) : ConfigManager := ⟨parser, ∅⟩

def getArg (config : ConfigManager) (name : String) : String := config.parser.get name

def getArgInt (config : ConfigManager) (name : String) : Except String Int := config.parser.getInt name

/-- After an exception of `parse` the values are not read any more. -/
def init (config : ConfigManager) (argv : List String) : Bool × ConfigManager :=
  match config.parser.parse argv with
  | .ok parser => (!parser.getBool "--help", { config with parser })
  | .error _ => (false, config)

/-- What `init` prints to the console. The usage shows no values, so it is the same after an exception. -/
def initPrints (config : ConfigManager) (argv : List String) : String :=
  match config.parser.parse argv with
  | .ok parser => if parser.getBool "--help" then parser.printUsage else ""
  | .error _ => config.parser.printUsage

/-- The loop body of `init_vhost_device` fills queue pair `i`. -/
def initPair (nofPairs : Int) (pm : PortMap) (i : Nat) : Option PortMap :=
  (writeCell pm.vd.qp i
    ⟨UInt16.ofNat (i * 2), UInt16.ofNat (i * 2 + 1), false, false⟩).bind fun qp =>
  (writeCell pm.vd.qpid i (i : Int)).bind fun qpid =>
  (writeCell pm.pd.qp i ⟨-1, -1⟩).map fun fds =>
    { vd := { pm.vd with qp, qpid, ready := true, ctlqId := UInt16.ofInt (nofPairs * 2) }
      pd := { pm.pd with qp := fds } }

/-- The entry of a port is written. -/
def store (config : ConfigManager) (portId : Int) (pm : PortMap) : ConfigManager :=
  { config with pmap := config.pmap.insert portId pm }

/-- An existing entry is overwritten in place, and only its first pairs are reset. -/
def initVhostDevice (config : ConfigManager) (portId vid nofPairs : Int) : Option ConfigManager :=
  let pm := (config.pmap[portId]?).getD PortMap.zero
  let pm := { pm with vd := { pm.vd with vid, nofQueuePairs := nofPairs, ready := true } }
  ((List.range nofPairs.toNat).foldlM (initPair nofPairs) pm).map (config.store portId)

/-- The scan of `set_queue_state` returns at the first pair that has the ring. -/
def scanPairs (vringId : UInt16) (enable : Bool) (qp : Vector VhostQueuePair maxQueuePairs) :
    List Nat → Option (Vector VhostQueuePair maxQueuePairs)
  | [] => some qp
  | i :: rest =>
      (readCell qp i).bind fun pair =>
        if pair.rxqId = vringId then writeCell qp i { pair with rxqEnabled := enable }
        else if pair.txqId = vringId then writeCell qp i { pair with txqEnabled := enable }
        else scanPairs vringId enable qp rest

def setQueueState (config : ConfigManager) (portId : Int) (vringId : UInt16) (enable : Bool) :
    Option ConfigManager :=
  match config.pmap[portId]? with
  | none => some config
  | some pm =>
      (scanPairs vringId enable pm.vd.qp (List.range pm.vd.nofQueuePairs.toNat)).map fun qp =>
        config.store portId { pm with vd := { pm.vd with qp } }

/-- The erase has no effect when no entry has this key. -/
def clearDevice (config : ConfigManager) (vid : Int) : ConfigManager :=
  { config with pmap := config.pmap.erase vid }

/-- Both directions of a queue pair get the same descriptor. -/
def assignPortDataSocket (config : ConfigManager) (portId qpIdx socketFd : Int) : Option ConfigManager :=
  match config.pmap[portId]? with
  | none => some config
  | some pm =>
      if qpIdx < maxQueuePairs then
        (writeCell pm.pd.qp qpIdx ⟨socketFd, socketFd⟩).map fun qp =>
          config.store portId { pm with pd := { pm.pd with qp } }
      else some config

def assignPortControlSocket (config : ConfigManager) (portId ctlFd : Int) : ConfigManager :=
  match config.pmap[portId]? with
  | none => config
  | some pm => config.store portId { pm with pd := { pm.pd with ctlqId := ctlFd } }

/-- The vid -1 says that the port or the queue does not exist. -/
def getVhostQids (config : ConfigManager) (portId qNum : Int) : Option (Int × UInt16 × UInt16) :=
  match config.pmap[portId]? with
  | none => some (-1, 0, 0)
  | some pm =>
      if qNum < 0 ∨ qNum ≥ pm.vd.nofQueuePairs then some (-1, 0, 0)
      else (readCell pm.vd.qp qNum).map fun pair => (pm.vd.vid, pair.rxqId, pair.txqId)

/-- The index is used as it comes. -/
def isQueueReady (config : ConfigManager) (vid qpid : Int) : Option Bool :=
  match config.pmap[vid]? with
  | none => some false
  | some pm => (readCell pm.vd.qp qpid).map fun pair => pair.rxqEnabled && pair.txqEnabled

def yesNo (flag : Bool) : String := if flag then "YES" else "NO"

/-- A queue that is not connected shows a dash. -/
def fdColumn (fd : Int) : String := if fd = -1 then "-" else toString fd

def portmapHeader : String :=
  padRight 8 "Port#" ++ padRight 6 "Vid" ++ padRight 8 "No Qs" ++ padRight 8 "QpID" ++ padRight 8 "RxqId" ++
    padRight 8 "TxqId" ++ padRight 10 "RxqId_En" ++ padRight 10 "TxqId_En" ++ padRight 8 "Ready" ++
    padRight 8 "CtrlId" ++ padRight 8 "RxqFd" ++ padRight 8 "TxqFd" ++ "CtrlFd"

def portmapRule : String := "".pushn '-' 110

/-- The row of queue pair `i`; the columns of the device are in the first row only. -/
def portmapRow (portId : Int) (pm : PortMap) (i : Nat) : Option String :=
  (readCell pm.vd.qp i).bind fun vqp =>
  (readCell pm.pd.qp i).bind fun pqp =>
  (readCell pm.vd.qpid i).map fun qpid =>
    let queues := padRight 8 (toString qpid) ++ padRight 8 (toString vqp.rxqId) ++
      padRight 8 (toString vqp.txqId) ++ padRight 10 (yesNo vqp.rxqEnabled) ++
      padRight 10 (yesNo vqp.txqEnabled)
    let descriptors := padRight 8 (fdColumn pqp.rxqId) ++ padRight 8 (fdColumn pqp.txqId)
    if i = 0 then
      padRight 8 (toString portId) ++ padRight 6 (toString pm.vd.vid) ++
        padRight 8 (toString pm.vd.nofQueuePairs) ++ queues ++ padRight 8 (yesNo pm.vd.ready) ++
        padRight 8 (toString pm.vd.ctlqId) ++ descriptors ++ toString pm.pd.ctlqId
    else padRight 22 " " ++ queues ++ padRight 8 " " ++ padRight 8 " " ++ descriptors ++ " "

/-- The rows of one port end with a rule. -/
def portmapRows (portId : Int) (pm : PortMap) : Option (List String) :=
  ((List.range pm.vd.nofQueuePairs.toNat).mapM (portmapRow portId pm)).map fun rows =>
    rows ++ [portmapRule]

/-- The lines that `print_portmap` logs. -/
def printPortmap (config : ConfigManager) : Option (List String) :=
  (config.pmap.toList.mapM fun entry => portmapRows entry.1 entry.2).map fun ports =>
    portmapHeader :: portmapRule :: ports.flatten

end ConfigManager

/-- The operations that write the port map; each holds `pmap_mutex_` from start to end. -/
inductive ConfigOperation where
  | initVhostDevice (portId vid nofPairs : Int)
  | setQueueState (portId : Int) (vringId : UInt16) (enable : Bool)
  | assignPortDataSocket (portId qpIdx socketFd : Int)
  | assignPortControlSocket (portId ctlFd : Int)
  | clearDevice (vid : Int)
deriving DecidableEq

namespace ConfigManager

def operate (config : ConfigManager) : ConfigOperation → Option ConfigManager
  | .initVhostDevice portId vid nofPairs => config.initVhostDevice portId vid nofPairs
  | .setQueueState portId vringId enable => config.setQueueState portId vringId enable
  | .assignPortDataSocket portId qpIdx socketFd => config.assignPortDataSocket portId qpIdx socketFd
  | .assignPortControlSocket portId ctlFd => some (config.assignPortControlSocket portId ctlFd)
  | .clearDevice vid => some (config.clearDevice vid)

/-- The threads operate on the port map one after the other. -/
def machine : Machine ConfigManager ConfigOperation Unit :=
  ⟨fun config operation => (config.operate operation).map fun next => (next, [])⟩

end ConfigManager

/-- The calls on the port map: the operations that write it and the queries that read it. -/
inductive PortMapCall where
  | operate (operation : ConfigOperation)
  | getVhostQids (portId qNum : Int)
  | isQueueReady (vid qpid : Int)
  | printPortmap
deriving DecidableEq

/-- What a query returns or logs. -/
inductive PortMapAnswer where
  | qids (vid : Int) (rxq txq : UInt16)
  | ready (isReady : Bool)
  | printed (lines : List String)
deriving DecidableEq

namespace ConfigManager

def call (config : ConfigManager) : PortMapCall → Option (ConfigManager × List PortMapAnswer)
  | .operate operation => (config.operate operation).map fun next => (next, [])
  | .getVhostQids portId qNum =>
      (config.getVhostQids portId qNum).map fun qids => (config, [.qids qids.1 qids.2.1 qids.2.2])
  | .isQueueReady vid qpid => (config.isQueueReady vid qpid).map fun ready => (config, [.ready ready])
  | .printPortmap => config.printPortmap.map fun lines => (config, [.printed lines])

/-- The threads operate on the port map and read it one after the other. -/
def callMachine : Machine ConfigManager PortMapCall PortMapAnswer := ⟨call⟩

end ConfigManager

end Vtb

import Vtb.Library.Epochs
import Vtb.Proof.PortMap.DirectUpdate

namespace Vtb
open Library

namespace ConfigOperation

/-- An initialisation of the port opens an epoch under its pair count, and a clear ends the port's life. -/
def deviceMark (portId : Int) : ConfigOperation → Mark Int
  | .initVhostDevice other _ nofPairs => if other = portId then .opens nofPairs else .inside
  | .clearDevice other => if other = portId then .ends else .inside
  | _ => .inside

/-- The state that an operation gives to a ring of the port. -/
def ringState (portId : Int) (ring : Nat) : ConfigOperation → Option Bool
  | .setQueueState other vringId enable =>
      if other = portId ∧ vringId.toNat = ring then some enable else none
  | _ => none

/-- The descriptor that an operation gives to a queue pair of the port. -/
def dataSocket (portId qpIdx : Int) : ConfigOperation → Option Int
  | .assignPortDataSocket other index socketFd =>
      if other = portId ∧ index = qpIdx then some socketFd else none
  | _ => none

/-- The control descriptor that an operation gives to the port. -/
def controlSocket (portId : Int) : ConfigOperation → Option Int
  | .assignPortControlSocket other ctlFd => if other = portId then some ctlFd else none
  | _ => none

end ConfigOperation

open ConfigOperation (deviceMark ringState dataSocket controlSocket)

/-- A device of a port: its pair count, and the operations until the next initialisation of the port. -/
abbrev Device := Epoch Int ConfigOperation

/-- The devices that a port had since it was last cleared, the current one first. -/
def devices (portId : Int) (history : List ConfigOperation) : List Device :=
  epochs (deviceMark portId) history

/-- The last device with this queue pair left the ring enabled. -/
def ringMemory (portId : Int) (ring : Nat) (devices : List Device) : Bool :=
  lastCovered (fun pairs => decide (((ring / 2 : Nat) : Int) < pairs)) (ringState portId ring) devices =
    some true

/-- What an entry remembers of the devices of its port. -/
structure Remembers (portId : Int) (devices : List Device) (pm : PortMap) : Prop where
  flags : ∀ ring, ring / 2 < maxQueuePairs → pm.ringFlag ring = some (ringMemory portId ring devices)
  numbered : ∀ pair (inside : pair < maxQueuePairs),
    (∃ pairs ∈ devices.map Epoch.tag, (pair : Int) < pairs) →
    pm.vd.qp[pair].txqId = UInt16.ofNat (pair * 2 + 1)
  spare : ∀ pair (inside : pair < maxQueuePairs), (∀ pairs ∈ devices.map Epoch.tag, pairs ≤ (pair : Int)) →
    pm.vd.qp[pair] = ⟨0, 0, false, false⟩ ∧ pm.vd.qpid[pair] = 0 ∧
      pm.pd.qp[pair].rxqId = (latest (dataSocket portId pair) (epochInputs devices)).getD 0
  control : pm.pd.ctlqId = (latest (controlSocket portId) (epochInputs devices)).getD 0
  controlRing : (∀ pairs ∈ devices.map Epoch.tag, pairs ≤ 0) → pm.vd.ctlqId = 0

/-- A port has an entry exactly when it has a device, and the entry remembers its devices. -/
structure Recorded (portId : Int) (devices : List Device) (entry : Option PortMap) : Prop where
  filled : FilledEntry 0 entry
  current : entry.map (fun pm => pm.vd.nofQueuePairs) = devices.head?.map Epoch.tag
  remembers : Remembers portId devices (entry.getD PortMap.zero)

/-- The value-initialised entry remembers nothing. -/
theorem remembers_zero (portId : Int) : Remembers portId [] PortMap.zero where
  flags ring inside := by
    simp [PortMap.ringFlag, PortMap.zero, VhostQueuePair.flag, ringMemory, inside]
  numbered pair inside found := by simp at found
  spare pair inside none := by simp [PortMap.zero, epochInputs]
  control := rfl
  controlRing none := rfl

section
variable {portId : Int} {devices earlier : List Device} {current : Device} {pm : PortMap}
  {operation : ConfigOperation}

/-- An operation on another port changes nothing that the entry remembers. -/
theorem Remembers.other (remembers : Remembers portId (current :: earlier) pm)
    (different : operation.port ≠ portId) :
    Remembers portId (⟨current.tag, current.inputs ++ [operation]⟩ :: earlier) pm := by
  have rings : ∀ ring, ringState portId ring operation = none := by
    intro ring
    cases operation <;> simp_all [ringState, ConfigOperation.port]
  have data : ∀ pair : Int, dataSocket portId pair operation = none := by
    intro pair
    cases operation <;> simp_all [dataSocket, ConfigOperation.port]
  have control : controlSocket portId operation = none := by
    cases operation <;> simp_all [controlSocket, ConfigOperation.port]
  constructor
  · intro ring inside
    rw [remembers.flags ring inside, ringMemory, ringMemory, lastCovered_extended_of_none (rings ring)]
  · exact remembers.numbered
  · intro pair inside uncovered
    rw [epochInputs_extended, latest_concat_of_none _ (data pair)]
    exact remembers.spare pair inside uncovered
  · rw [epochInputs_extended, latest_concat_of_none _ control]
    exact remembers.control
  · exact remembers.controlRing

/-- A recorded ring change is remembered under its ring. -/
theorem Remembers.changeRing (remembers : Remembers portId (current :: earlier) pm)
    (count : current.tag = pm.vd.nofQueuePairs) (vringId : UInt16) (enable : Bool) :
    Remembers portId
      (⟨current.tag, current.inputs ++ [.setQueueState portId vringId enable]⟩ :: earlier)
      (pm.changeRing vringId enable) := by
  have below : (vringId.toNat : Int) < 2 * pm.vd.nofQueuePairs ↔
      ((vringId.toNat / 2 : Nat) : Int) < current.tag := by omega
  constructor
  · intro ring inside
    rw [ringMemory, lastCovered_extended, pm.ringFlag_changeRing vringId enable inside, ringState]
    by_cases own : vringId.toNat = ring
    · subst own
      by_cases covered : ((vringId.toNat / 2 : Nat) : Int) < current.tag
      · rw [if_pos ⟨rfl, below.mpr covered⟩, if_pos (decide_eq_true covered), if_pos ⟨rfl, rfl⟩, Option.some_or]
        cases enable <;> rfl
      · rw [if_neg fun both => covered (below.mp both.2), remembers.flags _ inside, ringMemory]
        simp only [covered, decide_false, Bool.false_eq_true, if_false]
    · have silent : (if portId = portId ∧ vringId.toNat = ring then some enable else none) = none :=
        if_neg fun both => own both.2
      rw [if_neg fun both => own both.1, silent, Option.none_or, ite_self, remembers.flags ring inside, ringMemory]
  · intro pair inside covered
    rw [pm.changeRing_txqId vringId enable inside]
    exact remembers.numbered pair inside covered
  · intro pair inside uncovered
    have behind := uncovered current.tag (by simp)
    have apart : (vringId.toNat : Int) < 2 * pm.vd.nofQueuePairs → pair ≠ vringId.toNat / 2 := by omega
    have silent : dataSocket portId pair (.setQueueState portId vringId enable) = none := rfl
    rw [epochInputs_extended, latest_concat_of_none _ silent, pm.changeRing_pair vringId enable inside apart,
      pm.changeRing_qpid, pm.changeRing_pd]
    exact remembers.spare pair inside uncovered
  · have silent : controlSocket portId (.setQueueState portId vringId enable) = none := rfl
    rw [epochInputs_extended, latest_concat_of_none _ silent, pm.changeRing_pd]
    exact remembers.control
  · intro uncovered
    rw [pm.changeRing_ctlqId]
    exact remembers.controlRing uncovered

/-- The descriptors of a queue pair are remembered under its index. -/
theorem Remembers.setDescriptors (remembers : Remembers portId (current :: earlier) pm)
    (qpIdx socketFd : Int) :
    Remembers portId
      (⟨current.tag, current.inputs ++ [.assignPortDataSocket portId qpIdx socketFd]⟩ :: earlier)
      (pm.setDescriptors qpIdx socketFd) := by
  constructor
  · intro ring inside
    have silent : ringState portId ring (.assignPortDataSocket portId qpIdx socketFd) = none := rfl
    rw [ringMemory, lastCovered_extended_of_none silent]
    exact remembers.flags ring inside
  · exact remembers.numbered
  · intro pair inside uncovered
    obtain ⟨unused, unnumbered, stored⟩ := remembers.spare pair inside uncovered
    refine ⟨unused, unnumbered, ?_⟩
    rw [epochInputs_extended, latest_concat, dataSocket]
    simp only [PortMap.setDescriptors, Vector.getElem_ofFn]
    by_cases own : (pair : Int) = qpIdx
    · simp [own]
    · simp [own, Ne.symm own, stored]
  · have silent : controlSocket portId (.assignPortDataSocket portId qpIdx socketFd) = none := rfl
    rw [epochInputs_extended, latest_concat_of_none _ silent, ← remembers.control]
    rfl
  · exact remembers.controlRing

/-- The control descriptor is remembered. -/
theorem Remembers.setControl (remembers : Remembers portId (current :: earlier) pm) (ctlFd : Int) :
    Remembers portId
      (⟨current.tag, current.inputs ++ [.assignPortControlSocket portId ctlFd]⟩ :: earlier)
      { pm with pd := { pm.pd with ctlqId := ctlFd } } := by
  constructor
  · intro ring inside
    have silent : ringState portId ring (.assignPortControlSocket portId ctlFd) = none := rfl
    rw [ringMemory, lastCovered_extended_of_none silent]
    exact remembers.flags ring inside
  · exact remembers.numbered
  · intro pair inside uncovered
    have silent : dataSocket portId pair (.assignPortControlSocket portId ctlFd) = none := rfl
    rw [epochInputs_extended, latest_concat_of_none _ silent]
    exact remembers.spare pair inside uncovered
  · rw [epochInputs_extended, latest_concat, controlSocket]
    simp
  · exact remembers.controlRing

/-- An initialisation overwrites its own pairs and leaves the others to the earlier devices. -/
theorem Remembers.initialise {entry : Option PortMap} (vid : Int) (pairs : Nat)
    (remembers : Remembers portId devices (entry.getD PortMap.zero)) :
    Remembers portId (⟨(pairs : Int), []⟩ :: devices) (PortMap.initialised vid pairs entry) := by
  constructor
  · intro ring inside
    rw [ringMemory, lastCovered_opened]
    by_cases own : ring / 2 < pairs
    · have covered : ((ring / 2 : Nat) : Int) < pairs := by omega
      rw [if_pos (decide_eq_true covered), PortMap.ringFlag, Vector.getElem?_eq_getElem inside]
      simp [PortMap.initialised, PortMap.resetPairs, own, VhostQueuePair.flag]
    · have uncovered : ¬ ((ring / 2 : Nat) : Int) < pairs := by omega
      have kept := remembers.flags ring inside
      rw [PortMap.ringFlag, Vector.getElem?_eq_getElem inside] at kept ⊢
      rw [if_neg (by simpa using uncovered), ← ringMemory, ← kept]
      simp [PortMap.initialised, PortMap.resetPairs, own]
  · intro pair inside covered
    by_cases own : pair < pairs
    · simp [PortMap.initialised, PortMap.resetPairs, own]
    · simp only [PortMap.initialised, PortMap.resetPairs, Vector.getElem_ofFn, own, if_false]
      apply remembers.numbered pair inside
      obtain ⟨count, member, low⟩ := covered
      rcases List.mem_cons.mp member with same | older
      · exact absurd low (by rw [same]; simpa using own)
      · exact ⟨count, older, low⟩
  · intro pair inside uncovered
    have own : ¬ pair < pairs := by
      have high := uncovered pairs (by simp)
      omega
    have stored := remembers.spare pair inside fun count member => uncovered count (by simp_all)
    simpa [PortMap.initialised, PortMap.resetPairs, own, epochInputs] using stored
  · simpa [PortMap.initialised, PortMap.resetPairs, epochInputs] using remembers.control
  · intro uncovered
    have zero : pairs = 0 := by
      have high := uncovered pairs (by simp)
      omega
    have stored := remembers.controlRing fun count member => uncovered count (by simp_all)
    simpa [PortMap.initialised, PortMap.resetPairs, zero] using stored

/-- The entry that belongs to no device. -/
theorem recorded_none (portId : Int) : Recorded portId [] none where
  filled pm found := by simp at found
  current := rfl
  remembers := remembers_zero portId

/-- An operation inside a device changes an entry that exists. -/
theorem Recorded.extend {entry : Option PortMap} {past : List ConfigOperation}
    (recorded : Recorded portId (Vtb.devices portId past) entry)
    (inside : deviceMark portId operation = .inside) {change : PortMap → PortMap}
    (filled : FilledEntry 0 (entry.map change))
    (count : ∀ pm, (change pm).vd.nofQueuePairs = pm.vd.nofQueuePairs)
    (remembers : ∀ current earlier pm, current.tag = pm.vd.nofQueuePairs →
      Remembers portId (current :: earlier) pm →
      Remembers portId (⟨current.tag, current.inputs ++ [operation]⟩ :: earlier) (change pm)) :
    Recorded portId (Vtb.devices portId (past ++ [operation])) (entry.map change) := by
  rw [Vtb.devices, epochs_concat_inside inside, ← Vtb.devices]
  have kept := recorded.current
  cases known : Vtb.devices portId past with
  | nil =>
      rw [known] at kept
      obtain rfl : entry = none := Option.map_eq_none_iff.mp kept
      exact recorded_none portId
  | cons current earlier =>
      rw [known] at kept recorded
      obtain ⟨pm, rfl, tag⟩ := Option.map_eq_some_iff.mp kept
      have same : (some (change pm)).map (fun pm => pm.vd.nofQueuePairs) = some current.tag := by
        rw [Option.map_some, count, tag]
      exact ⟨filled, same, remembers current earlier pm tag.symm recorded.remembers⟩

/-- An operation on another port extends the current device. -/
theorem Recorded.other {entry : Option PortMap} {past : List ConfigOperation}
    (recorded : Recorded portId (Vtb.devices portId past) entry) (different : operation.port ≠ portId) :
    Recorded portId (Vtb.devices portId (past ++ [operation])) entry := by
  have inside : deviceMark portId operation = .inside := by
    cases operation <;> simp_all [deviceMark, ConfigOperation.port]
  have kept := recorded.extend inside (by simpa using recorded.filled) (fun _ => rfl)
    fun current earlier pm _ remembers => remembers.other different
  simpa using kept

/-- An operation on the port either opens a device, ends the port's life or extends the current device. -/
theorem Recorded.own {entry : Option PortMap} {past : List ConfigOperation}
    (recorded : Recorded portId (Vtb.devices portId past) entry) (same : operation.port = portId)
    (valid : operation.Counts 0) :
    Recorded portId (Vtb.devices portId (past ++ [operation])) (operation.update entry) := by
  have filled := ConfigOperation.filled_update (le_refl 0) operation valid recorded.filled
  subst same
  cases operation with
  | initVhostDevice port vid nofPairs =>
      obtain ⟨pairs, rfl⟩ := Int.eq_ofNat_of_zero_le valid.1
      have opens : deviceMark port (.initVhostDevice port vid pairs) = .opens (pairs : Int) := if_pos rfl
      rw [Vtb.devices, ConfigOperation.port, epochs_concat_opens opens]
      exact ⟨filled, rfl, recorded.remembers.initialise vid pairs⟩
  | clearDevice port =>
      have ends : deviceMark port (.clearDevice port) = .ends := if_pos rfl
      rw [Vtb.devices, ConfigOperation.port, epochs_concat_ends ends]
      exact recorded_none port
  | setQueueState port vringId enable =>
      apply recorded.extend rfl filled fun pm => pm.changeRing_nofQueuePairs vringId enable
      intro current earlier pm count remembers
      exact remembers.changeRing count vringId enable
  | assignPortDataSocket port qpIdx socketFd =>
      apply recorded.extend rfl filled (fun _ => rfl)
      intro current earlier pm _ remembers
      exact remembers.setDescriptors qpIdx socketFd
  | assignPortControlSocket port ctlFd =>
      apply recorded.extend rfl filled (fun _ => rfl)
      intro current earlier pm _ remembers
      exact remembers.setControl ctlFd

end

namespace ConfigManager

/-- After every run each entry remembers the devices of its port. -/
theorem recorded_run {parser : CmdlineParser} {history : List ConfigOperation} {final : ConfigManager}
    {outputs : List Unit} (ran : machine.run (initial parser) history = some (final, outputs))
    (valid : ∀ operation ∈ history, operation.Counts 0) (portId : Int) :
    Recorded portId (devices portId history) (final.pmap[portId]?) := by
  refine entries_drive.entry_history portId (fun operation => operation.Counts 0)
    (fun past entry => Recorded portId (devices portId past) entry) ?_ ?_ ?_ valid ran
  · simpa [initial, devices] using recorded_none portId
  · intro past operation entry after same allowed recorded rewritten
    rw [← ConfigOperation.update_of_rewrite (le_refl 0) allowed recorded.filled rewritten]
    exact recorded.own same allowed
  · intro past operation entry different recorded
    exact recorded.other different

end ConfigManager

end Vtb

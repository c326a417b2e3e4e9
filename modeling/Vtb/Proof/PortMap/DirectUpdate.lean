import Vtb.Proof.PortMap.Projection

namespace Vtb
open Library

/-- A ring number is stored without loss. -/
theorem toNat_ring {number : Nat} (small : number ≤ 16) : (UInt16.ofNat number).toNat = number :=
  UInt16.toNat_ofNat_of_lt (show number < 2 ^ 16 by omega)

namespace PortMap

/-- The entry that an initialisation leaves in place of an earlier one. -/
def initialised (vid : Int) (pairs : Nat) (entry : Option PortMap) : PortMap :=
  let pm := entry.getD PortMap.zero
  { pm with vd := { pm.vd with vid, nofQueuePairs := pairs, ready := true } }.resetPairs pairs pairs

/-- The direct update of the descriptors of one queue pair. -/
def setDescriptors (pm : PortMap) (qpIdx socketFd : Int) : PortMap :=
  { pm with pd := { pm.pd with qp := Vector.ofFn fun i : Fin maxQueuePairs =>
      if (i.val : Int) = qpIdx then ⟨socketFd, socketFd⟩ else pm.pd.qp.get i } }

/-- A ring change is recorded for the rings of the device and ignored for all other rings. -/
def changeRing (pm : PortMap) (vringId : UInt16) (enable : Bool) : PortMap :=
  if (vringId.toNat : Int) < 2 * pm.vd.nofQueuePairs then pm.setRing vringId.toNat enable else pm

/-- An entry with its queue numbers, its control ring and its pairs of equal descriptors. -/
structure Filled (pm : PortMap) (pairs : Nat) : Prop extends pm.Numbered pairs where
  qpid : ∀ i : Fin maxQueuePairs, i.val < pairs → pm.vd.qpid.get i = (i.val : Int)
  control : 0 < pairs → pm.vd.ctlqId = UInt16.ofNat (2 * pairs)
  descriptors : ∀ i (inside : i < maxQueuePairs), pm.pd.qp[i].rxqId = pm.pd.qp[i].txqId

end PortMap

namespace ConfigOperation

/-- The operations as direct updates of the entry that they name. -/
def update : ConfigOperation → Option PortMap → Option PortMap
  | .initVhostDevice _ vid nofPairs, entry => some (PortMap.initialised vid nofPairs.toNat entry)
  | .setQueueState _ vringId enable, entry => entry.map fun pm => pm.changeRing vringId enable
  | .assignPortDataSocket _ qpIdx socketFd, entry => entry.map fun pm => pm.setDescriptors qpIdx socketFd
  | .assignPortControlSocket _ ctlFd, entry =>
      entry.map fun pm => { pm with pd := { pm.pd with ctlqId := ctlFd } }
  | .clearDevice _, _ => none

/-- The pair counts from `fewest` up to those that an entry holds, and pair indices that are not negative. -/
def Within (fewest : Int) : ConfigOperation → Prop
  | .initVhostDevice _ _ nofPairs => fewest ≤ nofPairs ∧ nofPairs ≤ maxQueuePairs
  | .assignPortDataSocket _ qpIdx _ => 0 ≤ qpIdx
  | _ => True

instance (fewest : Int) : ∀ operation : ConfigOperation, Decidable (operation.Within fewest)
  | .initVhostDevice _ _ _ => inferInstanceAs (Decidable (_ ∧ _))
  | .assignPortDataSocket _ _ _ => inferInstanceAs (Decidable (_ ≤ _))
  | .setQueueState _ _ _ => inferInstanceAs (Decidable True)
  | .assignPortControlSocket _ _ => inferInstanceAs (Decidable True)
  | .clearDevice _ => inferInstanceAs (Decidable True)

/-- The pair counts from `fewest` up to those that an entry holds. -/
def Counts (fewest : Int) : ConfigOperation → Prop
  | .initVhostDevice _ _ nofPairs => fewest ≤ nofPairs ∧ nofPairs ≤ maxQueuePairs
  | _ => True

instance (fewest : Int) : ∀ operation : ConfigOperation, Decidable (operation.Counts fewest)
  | .initVhostDevice _ _ _ => inferInstanceAs (Decidable (_ ∧ _))
  | .assignPortDataSocket _ _ _ => inferInstanceAs (Decidable True)
  | .setQueueState _ _ _ => inferInstanceAs (Decidable True)
  | .assignPortControlSocket _ _ => inferInstanceAs (Decidable True)
  | .clearDevice _ => inferInstanceAs (Decidable True)

theorem Within.counts {fewest : Int} {operation : ConfigOperation} (valid : operation.Within fewest) :
    operation.Counts fewest := by
  cases operation with
  | initVhostDevice portId vid nofPairs => exact valid
  | _ => trivial

theorem Within.insideArrays {fewest : Int} {operation : ConfigOperation}
    (valid : operation.Within fewest) (present : Bool) : operation.InsideArrays present := by
  cases operation with
  | initVhostDevice portId vid nofPairs => exact valid.2
  | assignPortDataSocket portId qpIdx socketFd => exact fun _ => valid
  | _ => trivial

end ConfigOperation

section
variable {pm : PortMap} {pairs : Nat}

theorem PortMap.changeRing_eq (numbered : pm.Numbered pairs) (vringId : UInt16) (enable : Bool) :
    pm.changeRing vringId enable =
      if vringId.toNat < 2 * pairs then pm.setRing vringId.toNat enable else pm := by
  have count : (vringId.toNat : Int) < 2 * (pairs : Int) ↔ vringId.toNat < 2 * pairs := by omega
  simp only [changeRing, numbered.count, count]

@[simp] theorem PortMap.changeRing_nofQueuePairs (pm : PortMap) (vringId : UInt16) (enable : Bool) :
    (pm.changeRing vringId enable).vd.nofQueuePairs = pm.vd.nofQueuePairs := by
  unfold changeRing
  split <;> rfl

@[simp] theorem PortMap.changeRing_qpid (pm : PortMap) (vringId : UInt16) (enable : Bool) :
    (pm.changeRing vringId enable).vd.qpid = pm.vd.qpid := by
  unfold changeRing
  split <;> rfl

@[simp] theorem PortMap.changeRing_ctlqId (pm : PortMap) (vringId : UInt16) (enable : Bool) :
    (pm.changeRing vringId enable).vd.ctlqId = pm.vd.ctlqId := by
  unfold changeRing
  split <;> rfl

@[simp] theorem PortMap.changeRing_pd (pm : PortMap) (vringId : UInt16) (enable : Bool) :
    (pm.changeRing vringId enable).pd = pm.pd := by
  unfold changeRing
  split <;> rfl

/-- A ring change keeps the ring numbers. -/
@[simp] theorem PortMap.changeRing_txqId (pm : PortMap) (vringId : UInt16) (enable : Bool) {pair : Nat}
    (inside : pair < maxQueuePairs) :
    (pm.changeRing vringId enable).vd.qp[pair].txqId = pm.vd.qp[pair].txqId := by
  unfold changeRing
  split
  · simp only [setRing, Vector.getElem_ofFn, VhostQueuePair.setFlag]
    split_ifs <;> rfl
  · rfl

/-- A ring change keeps the pairs of other rings and the pairs behind those of the device. -/
theorem PortMap.changeRing_pair (pm : PortMap) (vringId : UInt16) (enable : Bool) {pair : Nat}
    (inside : pair < maxQueuePairs)
    (apart : (vringId.toNat : Int) < 2 * pm.vd.nofQueuePairs → pair ≠ vringId.toNat / 2) :
    (pm.changeRing vringId enable).vd.qp[pair] = pm.vd.qp[pair] := by
  unfold changeRing
  split
  · next known => simp [setRing, apart known]
  · rfl

/-- A ring change gives its state to its own ring, when the device has this ring. -/
theorem PortMap.ringFlag_changeRing (pm : PortMap) (vringId : UInt16) (enable : Bool) {ring : Nat}
    (inside : ring / 2 < maxQueuePairs) :
    (pm.changeRing vringId enable).ringFlag ring =
      if vringId.toNat = ring ∧ (vringId.toNat : Int) < 2 * pm.vd.nofQueuePairs then some enable
      else pm.ringFlag ring := by
  unfold changeRing
  split
  · next known => simp [pm.ringFlag_setRing _ _ _ inside, known, eq_comm]
  · next unknown => simp [unknown]

/-- An assignment behind the array changes nothing. -/
theorem PortMap.setDescriptors_of_le (pm : PortMap) {qpIdx : Int} (outside : maxQueuePairs ≤ qpIdx)
    (socketFd : Int) : pm.setDescriptors qpIdx socketFd = pm := by
  have same : (Vector.ofFn fun i : Fin maxQueuePairs =>
      if (i.val : Int) = qpIdx then (⟨socketFd, socketFd⟩ : PortQueuePair) else pm.pd.qp.get i) = pm.pd.qp := by
    apply Vector.ext
    intro i inside
    have other : ¬ (i : Int) = qpIdx := by omega
    simp [other]
  rw [setDescriptors, same]

/-- An initialisation fills its pairs, whatever the entry was, when the old descriptors were equal in pairs. -/
theorem PortMap.filled_initialised (vid : Int) (fits : pairs ≤ maxQueuePairs) {entry : Option PortMap}
    (descriptors : ∀ old ∈ entry, ∀ i (inside : i < maxQueuePairs), old.pd.qp[i].rxqId = old.pd.qp[i].txqId) :
    (PortMap.initialised vid pairs entry).Filled pairs where
  toNumbered := PortMap.numbered_resetPairs _ pairs fits rfl
  qpid i inside := by simp [initialised, resetPairs, inside]
  control positive := by
    have zero : pairs ≠ 0 := by omega
    have few : pairs ≤ 8 := fits
    have small : (pairs : Int) * 2 % 2 ^ 16 = ((2 * pairs : Nat) : Int) := by omega
    simp only [initialised, resetPairs, zero, if_false]
    rw [UInt16.ofInt, small, Int.toNat_natCast]
  descriptors i inside := by
    simp only [initialised, resetPairs, Vector.getElem_ofFn]
    split
    · rfl
    · cases entry with
      | none => simp [PortMap.zero]
      | some old => exact descriptors old rfl i inside

/-- A ring change keeps the numbers and the descriptors. -/
theorem PortMap.Filled.changeRing (filled : pm.Filled pairs) (vringId : UInt16) (enable : Bool) :
    (pm.changeRing vringId enable).Filled pairs := by
  unfold PortMap.changeRing
  split
  · exact {
      toNumbered := filled.toNumbered.setRing _ _
      qpid := filled.qpid
      control := filled.control
      descriptors := filled.descriptors }
  · exact filled

/-- An assignment of descriptors keeps the numbers. -/
theorem PortMap.Filled.setDescriptors (filled : pm.Filled pairs) (qpIdx socketFd : Int) :
    (pm.setDescriptors qpIdx socketFd).Filled pairs where
  count := filled.count
  fits := filled.fits
  rxq := filled.rxq
  txq := filled.txq
  qpid := filled.qpid
  control := filled.control
  descriptors i inside := by
    simp only [PortMap.setDescriptors, Vector.getElem_ofFn]
    split
    · rfl
    · exact filled.descriptors i inside

/-- An entry is filled with at least `fewest` pairs. -/
def FilledEntry (fewest : Int) (entry : Option PortMap) : Prop :=
  ∀ pm ∈ entry, ∃ pairs : Nat, fewest ≤ pairs ∧ pm.Filled pairs

/-- On a filled entry the code does the direct update. -/
theorem ConfigOperation.rewrite_eq_update {fewest : Int} (least : 0 ≤ fewest)
    (operation : ConfigOperation) (valid : operation.Within fewest) {entry : Option PortMap}
    (filled : FilledEntry fewest entry) : operation.rewrite entry = some (operation.update entry) := by
  cases operation with
  | initVhostDevice portId vid nofPairs =>
      obtain ⟨pairs, rfl⟩ := Int.eq_ofNat_of_zero_le (least.trans valid.1)
      have fits : pairs ≤ maxQueuePairs := by
        have high : (pairs : Int) ≤ (maxQueuePairs : Nat) := valid.2
        omega
      simp only [rewrite, Int.toNat_natCast, ConfigManager.initPair_loop (pairs : Int) pairs _ fits,
        Option.map_some]
      rfl
  | setQueueState portId vringId enable =>
      cases entry with
      | none => rfl
      | some pm =>
          obtain ⟨pairs, _, numbers⟩ := filled pm rfl
          have scanned := ConfigManager.scanPairs_range' vringId enable numbers.toNumbered pairs 0
            (by omega) (by omega)
          rw [← List.range_eq_range'] at scanned
          have length : pm.vd.nofQueuePairs.toNat = pairs := by
            rw [numbers.count, Int.toNat_natCast]
          simp only [rewrite, update, Option.map_some, length, scanned,
            pm.changeRing_eq numbers.toNumbered]
          split <;> rfl
  | assignPortDataSocket portId qpIdx socketFd =>
      cases entry with
      | none => rfl
      | some pm =>
          obtain ⟨index, rfl⟩ := Int.eq_ofNat_of_zero_le (show 0 ≤ qpIdx from valid)
          simp only [rewrite, update, Option.map_some]
          by_cases high : (index : Int) < maxQueuePairs
          · have cell : index < maxQueuePairs := by omega
            rw [if_pos high, writeCell_natCast _ _ cell, Option.map_some, PortMap.setDescriptors]
            congr 5
            apply Vector.ext
            intro i inside
            simp [Vector.getElem_set, eq_comm]
          · rw [if_neg high, pm.setDescriptors_of_le (by omega)]
  | assignPortControlSocket portId ctlFd => cases entry <;> rfl
  | clearDevice vid => rfl

/-- Every direct update keeps its entry filled. -/
theorem ConfigOperation.filled_update {fewest : Int} (least : 0 ≤ fewest)
    (operation : ConfigOperation) (valid : operation.Counts fewest) {entry : Option PortMap}
    (filled : FilledEntry fewest entry) : FilledEntry fewest (operation.update entry) := by
  intro pm found
  cases operation with
  | initVhostDevice portId vid nofPairs =>
      obtain rfl := Option.some.inj found
      obtain ⟨pairs, rfl⟩ := Int.eq_ofNat_of_zero_le (least.trans valid.1)
      have fits : pairs ≤ maxQueuePairs := by
        have high : (pairs : Int) ≤ (maxQueuePairs : Nat) := valid.2
        omega
      apply Exists.intro pairs
      apply And.intro valid.1
      apply PortMap.filled_initialised vid fits
      intro old there
      obtain ⟨count, _, numbers⟩ := filled old there
      exact numbers.descriptors
  | setQueueState portId vringId enable =>
      obtain ⟨old, there, rfl⟩ := Option.map_eq_some_iff.mp found
      obtain ⟨pairs, enough, numbers⟩ := filled old there
      exact ⟨pairs, enough, numbers.changeRing vringId enable⟩
  | assignPortDataSocket portId qpIdx socketFd =>
      obtain ⟨old, there, rfl⟩ := Option.map_eq_some_iff.mp found
      obtain ⟨pairs, enough, numbers⟩ := filled old there
      exact ⟨pairs, enough, numbers.setDescriptors qpIdx socketFd⟩
  | assignPortControlSocket portId ctlFd =>
      obtain ⟨old, there, rfl⟩ := Option.map_eq_some_iff.mp found
      obtain ⟨pairs, enough, numbers⟩ := filled old there
      exact ⟨pairs, enough, { numbers with }⟩
  | clearDevice vid => simp [update] at found

/-- An operation that is defined on a filled entry does the direct update. -/
theorem ConfigOperation.update_of_rewrite {fewest : Int} (least : 0 ≤ fewest) {operation : ConfigOperation}
    (valid : operation.Counts fewest) {entry after : Option PortMap} (filled : FilledEntry fewest entry)
    (rewritten : operation.rewrite entry = some after) : operation.update entry = after := by
  have direct : operation.Within fewest → operation.update entry = after := by
    intro within
    rw [rewrite_eq_update least operation within filled] at rewritten
    exact Option.some.inj rewritten
  cases operation with
  | initVhostDevice portId vid nofPairs => exact direct valid
  | setQueueState portId vringId enable => exact direct trivial
  | assignPortDataSocket portId qpIdx socketFd =>
      by_cases low : 0 ≤ qpIdx
      · exact direct low
      · cases entry with
        | none => exact Option.some.inj rewritten
        | some pm =>
            -- a present entry has no cell with this index
            have below : qpIdx < maxQueuePairs := by omega
            simp only [rewrite, if_pos below, Option.map_eq_some_iff] at rewritten
            obtain ⟨qp, stored, _⟩ := rewritten
            exact absurd (writeCell_defined.mp ⟨qp, stored⟩).1 low
  | assignPortControlSocket portId ctlFd => exact direct trivial
  | clearDevice vid => exact direct trivial

end

namespace ConfigManager

/-- An operation on a filled entry places the updated entry. -/
theorem operate_eq_place {fewest : Int} (least : 0 ≤ fewest) (config : ConfigManager)
    (operation : ConfigOperation) (valid : operation.Within fewest)
    (filled : FilledEntry fewest (config.pmap[operation.port]?)) :
    config.operate operation =
      some (config.place operation.port (operation.update (config.pmap[operation.port]?))) := by
  rw [operate_eq, ConfigOperation.rewrite_eq_update least operation valid filled, Option.map_some]

/-- Every sequence of operations with enough pairs is defined and fills every entry. -/
theorem filled_run (parser : CmdlineParser) {fewest : Int} (least : 0 ≤ fewest)
    {history : List ConfigOperation} (valid : ∀ operation ∈ history, operation.Within fewest) :
    ∃ final outputs, machine.run (initial parser) history = some (final, outputs) ∧
      ∀ portId : Int, FilledEntry fewest (final.pmap[portId]?) := by
  obtain ⟨final, outputs, ran⟩ := operations_defined parser fun operation member =>
    (valid operation member).insideArrays
  apply Exists.intro final
  apply Exists.intro outputs
  apply And.intro ran
  intro portId
  refine entries_drive.entry_history portId (fun operation => operation.Within fewest)
    (fun _ entry => FilledEntry fewest entry) ?_ ?_ ?_ valid ran
  · intro pm found
    simp [initial] at found
  · intro past operation entry after _ allowed filled rewritten
    have updated : operation.rewrite entry = some after := rewritten
    rw [ConfigOperation.rewrite_eq_update least operation allowed filled] at updated
    rw [← Option.some.inj updated]
    exact ConfigOperation.filled_update least operation allowed.counts filled
  · intro past operation entry _ filled
    exact filled

end ConfigManager

end Vtb

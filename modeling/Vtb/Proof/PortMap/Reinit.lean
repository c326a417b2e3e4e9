import Vtb.Proof.PortMap.Devices

namespace Vtb
open Library
open ConfigOperation (deviceMark dataSocket controlSocket)

/-- The fields that an initialisation with this many pairs leaves alone have their initial values. -/
structure PortMap.Blank (pm : PortMap) (pairs : Nat) : Prop where
  rings : ∀ i (inside : i < maxQueuePairs), pairs ≤ i →
    pm.vd.qp[i] = ⟨0, 0, false, false⟩ ∧ pm.vd.qpid[i] = 0 ∧ pm.pd.qp[i] = ⟨0, 0⟩
  control : pm.pd.ctlqId = 0
  controlRing : pairs = 0 → pm.vd.ctlqId = 0

/-- No device of the port since its last clear had more pairs, and the last descriptors that it got
for the control queue and for the other queue pairs are zero. -/
structure LeavesNothing (portId nofPairs : Int) (devices : List Device) : Prop where
  covered : ∀ device ∈ devices, device.tag ≤ nofPairs
  data : ∀ pair : Nat, nofPairs ≤ pair → pair < maxQueuePairs →
    (latest (dataSocket portId pair) (epochInputs devices)).getD 0 = 0
  control : (latest (controlSocket portId) (epochInputs devices)).getD 0 = 0

/-- An initialisation is the initialisation of an absent entry exactly when the spare fields are blank. -/
theorem PortMap.initialised_eq_fresh (vid : Int) (pairs : Nat) (entry : Option PortMap) :
    PortMap.initialised vid pairs entry = PortMap.initialised vid pairs none ↔
      (entry.getD PortMap.zero).Blank pairs := by
  have rings := ofFn_overwritten_eq pairs
    (fun i : Fin maxQueuePairs => VhostQueuePair.mk (UInt16.ofNat (i * 2)) (UInt16.ofNat (i * 2 + 1)) false false)
    (entry.getD PortMap.zero).vd.qp PortMap.zero.vd.qp
  have indices := ofFn_overwritten_eq pairs (fun i : Fin maxQueuePairs => (i.val : Int))
    (entry.getD PortMap.zero).vd.qpid PortMap.zero.vd.qpid
  have descriptors := ofFn_overwritten_eq pairs (fun _ : Fin maxQueuePairs => PortQueuePair.mk (-1) (-1))
    (entry.getD PortMap.zero).pd.qp PortMap.zero.pd.qp
  simp only [initialised, resetPairs, Option.getD_none, PortMap.mk.injEq, VhostDevice.mk.injEq,
    PortDevice.mk.injEq, rings, indices, descriptors, true_and]
  constructor
  · intro same
    obtain ⟨⟨indices, rings, controlRing⟩, descriptors, control⟩ := same
    constructor
    · intro i inside spare
      rw [rings i inside spare, indices i inside spare, descriptors i inside spare]
      simp [PortMap.zero]
    · exact control
    · intro zero
      rw [if_pos zero, if_pos zero] at controlRing
      exact controlRing
  · intro blank
    refine ⟨⟨?_, ?_, ?_⟩, ?_, blank.control⟩
    · intro i inside spare
      rw [(blank.rings i inside spare).2.1]
      simp [PortMap.zero]
    · intro i inside spare
      rw [(blank.rings i inside spare).1]
      simp [PortMap.zero]
    · split
      · next zero => exact blank.controlRing zero
      · rfl
    · intro i inside spare
      rw [(blank.rings i inside spare).2.2]
      simp [PortMap.zero]

/-- The devices of a port have the pair counts of its initialisations. -/
theorem device_fits {portId : Int} {history : List ConfigOperation}
    (counts : ∀ operation ∈ history, operation.Counts 0) {device : Device}
    (member : device ∈ devices portId history) : device.tag ≤ maxQueuePairs := by
  obtain ⟨operation, inside, marked⟩ := opened_of_mem member
  have count := counts operation inside
  cases operation with
  | initVhostDevice other vid nofPairs =>
      rw [deviceMark] at marked
      split at marked
      · rw [← Mark.opens.inj marked]
        exact count.2
      · simp at marked
  | clearDevice other =>
      rw [deviceMark] at marked
      split at marked <;> simp at marked
  | _ => simp [deviceMark] at marked

section
variable {portId : Int} {devices : List Device} {entry : Option PortMap}

/-- Both descriptors of a pair that no device had are the last one assigned to it. -/
theorem Recorded.spare_descriptors (recorded : Recorded portId devices entry) {pair : Nat}
    (inside : pair < maxQueuePairs) (uncovered : ∀ device ∈ devices, device.tag ≤ (pair : Int)) :
    (entry.getD PortMap.zero).pd.qp[pair] =
      ⟨(latest (dataSocket portId pair) (epochInputs devices)).getD 0,
        (latest (dataSocket portId pair) (epochInputs devices)).getD 0⟩ := by
  have equal : (entry.getD PortMap.zero).pd.qp[pair].rxqId = (entry.getD PortMap.zero).pd.qp[pair].txqId := by
    cases entry with
    | none => simp [PortMap.zero]
    | some pm =>
        obtain ⟨pairs, _, numbers⟩ := recorded.filled pm rfl
        exact numbers.descriptors pair inside
  have stored := (recorded.remembers.spare pair inside (by simpa using uncovered)).2.2
  rw [← stored, PortQueuePair.mk.injEq]
  exact ⟨rfl, equal.symm⟩

/-- The spare fields of an entry are blank exactly when the devices left nothing in them. -/
theorem Recorded.blank_iff (recorded : Recorded portId devices entry)
    (fits : ∀ device ∈ devices, device.tag ≤ maxQueuePairs) (pairs : Nat) :
    (entry.getD PortMap.zero).Blank pairs ↔ LeavesNothing portId pairs devices := by
  constructor
  · intro blank
    have covered : ∀ device ∈ devices, device.tag ≤ (pairs : Int) := by
      intro device member
      by_contra more
      have high := fits device member
      have inside : pairs < maxQueuePairs := by omega
      have few : pairs < 8 := inside
      -- the device numbered its pair, and the number of its second ring is odd
      have numbered := recorded.remembers.numbered pairs inside
        ⟨device.tag, by simpa using ⟨device, member, rfl⟩, by omega⟩
      rw [(blank.rings pairs inside (le_refl pairs)).1] at numbered
      have value := congrArg UInt16.toNat numbered
      rw [toNat_ring (by omega)] at value
      simp at value
    constructor
    · exact covered
    · intro pair behind inside
      have stored := recorded.spare_descriptors inside fun device member => (covered device member).trans behind
      rw [(blank.rings pair inside (by omega)).2.2, PortQueuePair.mk.injEq] at stored
      exact stored.1.symm
    · rw [← recorded.remembers.control, blank.control]
  · intro clean
    constructor
    · intro i inside behind
      have uncovered : ∀ device ∈ devices, device.tag ≤ (i : Int) := by
        intro device member
        have low := clean.covered device member
        omega
      obtain ⟨unused, unnumbered, _⟩ := recorded.remembers.spare i inside (by simpa using uncovered)
      refine ⟨unused, unnumbered, ?_⟩
      rw [recorded.spare_descriptors inside uncovered, clean.data i (by omega) inside]
    · rw [recorded.remembers.control, clean.control]
    · intro zero
      subst zero
      exact recorded.remembers.controlRing (by simpa using clean.covered)

end

namespace ConfigManager

/-- `init_vhost_device` with and without a clear before it is defined and gives one state. -/
def ForgetsEarlier (config : ConfigManager) (portId vid nofPairs : Int) : Prop :=
  ∃ next, config.initVhostDevice portId vid nofPairs = some next ∧
    (config.clearDevice portId).initVhostDevice portId vid nofPairs = some next

/-- An initialisation forgets exactly when the entry initialises like an absent one. -/
theorem forgetsEarlier_iff {config : ConfigManager} {portId : Int} (vid : Int) {pairs : Nat}
    (fits : pairs ≤ maxQueuePairs) (filled : FilledEntry 0 (config.pmap[portId]?)) :
    config.ForgetsEarlier portId vid pairs ↔
      PortMap.initialised vid pairs (config.pmap[portId]?) = PortMap.initialised vid pairs none := by
  have valid : (ConfigOperation.initVhostDevice portId vid pairs).Within 0 := by
    have few : pairs ≤ 8 := fits
    exact ⟨by omega, by omega⟩
  have missing : (config.clearDevice portId).pmap[portId]? = none := by
    rw [clearDevice_pmap, if_pos rfl]
  have direct := operate_eq_place (le_refl 0) config (.initVhostDevice portId vid pairs) valid filled
  have fresh := operate_eq_place (le_refl 0) (config.clearDevice portId) (.initVhostDevice portId vid pairs)
    valid (by
      intro pm found
      rw [ConfigOperation.port, missing] at found
      simp at found)
  simp only [operate, ConfigOperation.port, ConfigOperation.update, missing, Int.toNat_natCast] at direct fresh
  unfold ForgetsEarlier
  rw [direct, fresh]
  constructor
  · intro both
    obtain ⟨next, first, second⟩ := both
    have same := Option.some.inj (first.trans second.symm)
    have entry := congrArg (fun config : ConfigManager => config.pmap[portId]?) same
    simp only [place_pmap, if_true, Option.some.injEq] at entry
    exact entry
  · intro equal
    refine ⟨_, rfl, ?_⟩
    apply congrArg some
    apply ext_pmap
    · rw [parser_place, parser_place]
      rfl
    · intro key
      rw [place_pmap, place_pmap, clearDevice_pmap, equal]
      split <;> rfl

/-- In every reachable state an initialisation forgets the earlier devices of its port exactly when
they left nothing in the fields that it does not write. -/
theorem reinit_forgets_iff (parser : CmdlineParser) (history : List ConfigOperation) (final : ConfigManager)
    (outputs : List Unit) (ran : machine.run (initial parser) history = some (final, outputs))
    (counts : ∀ operation ∈ history, operation.Counts 0) (portId vid nofPairs : Int) (least : 0 ≤ nofPairs)
    (most : nofPairs ≤ maxQueuePairs) :
    final.ForgetsEarlier portId vid nofPairs ↔ LeavesNothing portId nofPairs (devices portId history) := by
  obtain ⟨pairs, rfl⟩ := Int.eq_ofNat_of_zero_le least
  have fits : pairs ≤ maxQueuePairs := by omega
  have recorded := recorded_run ran counts portId
  rw [forgetsEarlier_iff vid fits recorded.filled, PortMap.initialised_eq_fresh,
    recorded.blank_iff (fun device member => device_fits counts member)]

/-- A device with two pairs whose control queue is connected. -/
def connectedDevice : List ConfigOperation :=
  [.initVhostDevice 0 0 2, .assignPortDataSocket 0 1 50, .assignPortControlSocket 0 77]

/-- The next device of the port keeps the control descriptor. -/
theorem not_forgetsEarlier_connected :
    ¬ ∀ (history : List ConfigOperation) (final : ConfigManager) (outputs : List Unit),
      machine.run (initial arguments) history = some (final, outputs) →
      (∀ operation ∈ history, operation.Counts 0 ∧ operation.InBounds) →
      ∀ portId vid nofPairs : Int, 0 ≤ nofPairs → nofPairs ≤ maxQueuePairs →
        final.ForgetsEarlier portId vid nofPairs := by
  intro every
  have kept : ((machine.run (initial arguments) connectedDevice).bind fun result =>
      (result.1.initVhostDevice 0 1 1).bind fun next => (next.pmap[(0 : Int)]?).map fun pm => pm.pd.ctlqId) =
      some 77 := by decide
  have cleared : ((machine.run (initial arguments) connectedDevice).bind fun result =>
      ((result.1.clearDevice 0).initVhostDevice 0 1 1).bind fun next =>
        (next.pmap[(0 : Int)]?).map fun pm => pm.pd.ctlqId) = some 0 := by decide
  cases ran : machine.run (initial arguments) connectedDevice with
  | none => simp [ran] at kept
  | some result =>
      obtain ⟨next, first, second⟩ := every connectedDevice result.1 result.2 ran (by decide) 0 1 1
        (by decide) (by decide)
      rw [ran, Option.bind_some, first, Option.bind_some] at kept
      rw [ran, Option.bind_some, second, Option.bind_some, kept] at cleared
      simp at cleared

/-- A device with more pairs than one of which only a data queue was connected. -/
theorem reinit_forgets_iff_connected :
    ∃ final outputs, machine.run (initial arguments) (connectedDevice.take 2) = some (final, outputs) ∧
      final.ForgetsEarlier 0 1 3 := by
  have spare : ∀ pair : Nat, pair < maxQueuePairs → 3 ≤ (pair : Int) →
      (latest (dataSocket 0 pair) (epochInputs (devices 0 (connectedDevice.take 2)))).getD 0 = 0 := by decide
  have nothing : LeavesNothing 0 3 (devices 0 (connectedDevice.take 2)) :=
    ⟨by decide, fun pair least inside => spare pair inside least, by decide⟩
  exact ⟨_, _, rfl, (reinit_forgets_iff arguments (connectedDevice.take 2) _ _ rfl (by decide) 0 1 3 (by decide)
    (by decide)).mpr nothing⟩

end ConfigManager

end Vtb

import Vtb.Proof.PortMap.DirectUpdate

namespace Vtb
open Library

/-- The two flags of one queue pair are written in either order. -/
theorem VhostQueuePair.setFlag_comm (pair : VhostQueuePair) {ring other : Nat} (apart : ring % 2 ≠ other % 2)
    (enable otherEnable : Bool) :
    (pair.setFlag ring enable).setFlag other otherEnable =
      (pair.setFlag other otherEnable).setFlag ring enable := by
  unfold setFlag
  by_cases even : ring % 2 = 0
  · have odd : ¬ other % 2 = 0 := by omega
    simp [even, odd]
  · have otherEven : other % 2 = 0 := by omega
    simp [even, otherEven]

namespace PortMap

/-- The entry with other queue pairs. -/
def withPairs (pm : PortMap) (qp : Vector VhostQueuePair maxQueuePairs) : PortMap :=
  { pm with vd := { pm.vd with qp } }

@[simp] theorem setRing_nofQueuePairs (pm : PortMap) (ring : Nat) (enable : Bool) :
    (pm.setRing ring enable).vd.nofQueuePairs = pm.vd.nofQueuePairs := rfl

/-- The entry with one flag of one queue pair written by its index. -/
def writeFlag (pm : PortMap) (ring : Nat) (inside : ring / 2 < maxQueuePairs) (enable : Bool) : PortMap :=
  let pair := pm.vd.qp[ring / 2]
  let written : VhostQueuePair :=
    if ring % 2 = 0 then { pair with rxqEnabled := enable } else { pair with txqEnabled := enable }
  pm.withPairs (pm.vd.qp.set (ring / 2) written inside)

/-- The direct update of a ring is one write by its index. -/
theorem setRing_eq_writeFlag (pm : PortMap) {ring : Nat} (inside : ring / 2 < maxQueuePairs) (enable : Bool) :
    pm.setRing ring enable = pm.writeFlag ring inside enable := by
  apply congrArg pm.withPairs
  apply Vector.ext
  intro i bound
  rw [Vector.getElem_set, Vector.getElem_ofFn]
  by_cases own : ring / 2 = i
  · subst own
    simp [VhostQueuePair.setFlag]
  · simp [own, Ne.symm own]

/-- The updates of two different rings of one entry commute. -/
theorem setRing_comm (pm : PortMap) {ring other : Nat} (apart : ring ≠ other) (enable otherEnable : Bool) :
    (pm.setRing ring enable).setRing other otherEnable =
      (pm.setRing other otherEnable).setRing ring enable := by
  apply congrArg pm.withPairs
  apply Vector.ext
  intro i bound
  simp only [setRing, Vector.getElem_ofFn, Fin.getElem_fin]
  by_cases first : i = ring / 2
  · by_cases second : i = other / 2
    · have parity : ring % 2 ≠ other % 2 := by omega
      simp only [first, ← second, if_true]
      exact VhostQueuePair.setFlag_comm _ parity enable otherEnable
    · simp only [first, if_true]
      rw [if_neg (by omega), if_neg (by omega)]
  · simp [first]

/-- The recorded changes of two different rings of one entry commute. -/
theorem changeRing_comm (pm : PortMap) {vringId otherId : UInt16} (apart : vringId ≠ otherId)
    (enable otherEnable : Bool) :
    (pm.changeRing vringId enable).changeRing otherId otherEnable =
      (pm.changeRing otherId otherEnable).changeRing vringId enable := by
  have different : vringId.toNat ≠ otherId.toNat := fun same => apart (UInt16.toNat_inj.mp same)
  unfold changeRing
  by_cases first : (vringId.toNat : Int) < 2 * pm.vd.nofQueuePairs
  · by_cases second : (otherId.toNat : Int) < 2 * pm.vd.nofQueuePairs
    · simp only [first, second, if_true, setRing_nofQueuePairs]
      exact pm.setRing_comm different enable otherEnable
    · simp only [first, second, if_true, if_false, setRing_nofQueuePairs]
  · by_cases second : (otherId.toNat : Int) < 2 * pm.vd.nofQueuePairs
    · simp only [first, second, if_true, if_false, setRing_nofQueuePairs]
    · simp only [first, second, if_false]

end PortMap

namespace ConfigManager

/-- After the change of a ring the flag of the ring is written, when the port has the ring,
and every other field of every port is as before. -/
structure ChangesOneRing (before after : ConfigManager) (portId : Int) (vringId : UInt16) (enable : Bool) :
    Prop where
  recorded : ∀ pm : PortMap, before.pmap[portId]? = some pm →
    (vringId.toNat : Int) < 2 * pm.vd.nofQueuePairs →
    ∃ inside : vringId.toNat / 2 < maxQueuePairs,
      after = before.store portId (pm.writeFlag vringId.toNat inside enable)
  ignored : (∀ pm : PortMap, before.pmap[portId]? = some pm →
    2 * pm.vd.nofQueuePairs ≤ vringId.toNat) → after = before

section
variable {config : ConfigManager}

/-- A configuration whose entries are filled. -/
def Filled (config : ConfigManager) : Prop := ∀ portId : Int, FilledEntry 0 (config.pmap[portId]?)

/-- The scan of a filled configuration is the direct update. -/
theorem setQueueState_eq_place (filled : config.Filled) (portId : Int) (vringId : UInt16) (enable : Bool) :
    config.setQueueState portId vringId enable =
      some (config.place portId ((config.pmap[portId]?).map fun pm => pm.changeRing vringId enable)) :=
  operate_eq_place (le_refl 0) config (.setQueueState portId vringId enable) trivial (filled portId)

/-- The direct update keeps the configuration filled. -/
theorem Filled.place_changeRing (filled : config.Filled) (portId : Int) (vringId : UInt16) (enable : Bool) :
    (config.place portId ((config.pmap[portId]?).map fun pm => pm.changeRing vringId enable)).Filled := by
  intro key
  rw [place_pmap]
  split
  · exact ConfigOperation.filled_update (le_refl 0) (.setQueueState portId vringId enable) trivial
      (filled portId)
  · exact filled key

/-- A ring change of a filled configuration changes one ring. -/
theorem changesOneRing (filled : config.Filled) (portId : Int) (vringId : UInt16) (enable : Bool) :
    ∃ after, config.setQueueState portId vringId enable = some after ∧
      ChangesOneRing config after portId vringId enable := by
  refine ⟨_, setQueueState_eq_place filled portId vringId enable, ?_, ?_⟩
  · intro pm found inside
    obtain ⟨pairs, _, numbers⟩ := filled portId pm found
    have fits := numbers.fits
    have cell : vringId.toNat / 2 < maxQueuePairs := by
      rw [numbers.count] at inside
      omega
    apply Exists.intro cell
    rw [found, Option.map_some, PortMap.changeRing, if_pos inside, pm.setRing_eq_writeFlag cell]
    rfl
  · intro outside
    apply place_same
    cases found : config.pmap[portId]? with
    | none => rfl
    | some pm =>
        have beyond : ¬ (vringId.toNat : Int) < 2 * pm.vd.nofQueuePairs := not_lt.mpr (outside pm found)
        rw [Option.map_some, PortMap.changeRing, if_neg beyond]

/-- The changes of two different rings commute. -/
theorem setQueueState_comm (filled : config.Filled) {portId otherPort : Int} {vringId otherId : UInt16}
    (apart : portId = otherPort → vringId ≠ otherId) (enable otherEnable : Bool) :
    (config.setQueueState portId vringId enable).bind (fun next =>
        next.setQueueState otherPort otherId otherEnable) =
      (config.setQueueState otherPort otherId otherEnable).bind fun next =>
        next.setQueueState portId vringId enable := by
  have first := filled.place_changeRing portId vringId enable
  have second := filled.place_changeRing otherPort otherId otherEnable
  rw [setQueueState_eq_place filled, setQueueState_eq_place filled, Option.bind_some, Option.bind_some,
    setQueueState_eq_place first, setQueueState_eq_place second]
  apply congrArg some
  apply ext_pmap
  · simp only [parser_place]
  · intro key
    simp only [place_pmap]
    by_cases same : portId = otherPort
    · subst same
      by_cases hit : portId = key
      · simp only [hit, if_true]
        cases config.pmap[key]? with
        | none => rfl
        | some pm => simp [pm.changeRing_comm (apart rfl)]
      · simp [hit]
    · by_cases hit : portId = key
      · subst hit
        simp [Ne.symm same]
      · simp [hit, same]

end

/-- In every reachable state the scan for a ring changes this ring only, and changes of different
rings commute. -/
theorem ring_changes_direct (parser : CmdlineParser) (history : List ConfigOperation)
    (valid : ∀ operation ∈ history, operation.Within 0) :
    ∃ config outputs, machine.run (initial parser) history = some (config, outputs) ∧
      (∀ (portId : Int) (vringId : UInt16) (enable : Bool),
        ∃ after, config.setQueueState portId vringId enable = some after ∧
          ChangesOneRing config after portId vringId enable) ∧
      ∀ (portId otherPort : Int) (vringId otherId : UInt16) (enable otherEnable : Bool),
        (portId = otherPort → vringId ≠ otherId) →
        (config.setQueueState portId vringId enable).bind (fun next =>
            next.setQueueState otherPort otherId otherEnable) =
          (config.setQueueState otherPort otherId otherEnable).bind fun next =>
            next.setQueueState portId vringId enable := by
  obtain ⟨config, outputs, ran, filled⟩ := filled_run parser (le_refl 0) valid
  refine ⟨config, outputs, ran, changesOneRing filled, ?_⟩
  intro portId otherPort vringId otherId enable otherEnable apart
  exact setQueueState_comm filled apart enable otherEnable

/-- A port without queue pairs, and a port that is initialised again with fewer pairs. -/
def shrinkingPort : List ConfigOperation :=
  [.initVhostDevice 0 3 0, .initVhostDevice 1 4 8, .setQueueState 1 15 true, .initVhostDevice 1 5 2]

/-- The shrinking port belongs to device 5 with two pairs, and its ring changes are direct. -/
theorem ring_changes_direct_shrinking :
    ∃ config outputs pm, machine.run (initial arguments) shrinkingPort = some (config, outputs) ∧
      config.pmap[(1 : Int)]? = some pm ∧ pm.vd.vid = 5 ∧ pm.vd.nofQueuePairs = 2 ∧
      (∀ (vringId : UInt16) (enable : Bool), ∃ after, config.setQueueState 1 vringId enable = some after ∧
        ChangesOneRing config after 1 vringId enable) ∧
      ∀ (vringId otherId : UInt16) (enable otherEnable : Bool), vringId ≠ otherId →
        (config.setQueueState 1 vringId enable).bind (fun next => next.setQueueState 1 otherId otherEnable) =
          (config.setQueueState 1 otherId otherEnable).bind fun next => next.setQueueState 1 vringId enable := by
  obtain ⟨config, outputs, ran, direct, commute⟩ := ring_changes_direct arguments shrinkingPort (by decide)
  have entry : (machine.run (initial arguments) shrinkingPort).bind (fun result =>
      (result.1.pmap[(1 : Int)]?).map fun pm => (pm.vd.vid, pm.vd.nofQueuePairs)) = some (5, 2) := by decide
  rw [ran, Option.bind_some, Option.map_eq_some_iff] at entry
  obtain ⟨pm, found, values⟩ := entry
  obtain ⟨vid, count⟩ := Prod.mk.inj values
  exact ⟨config, outputs, pm, ran, found, vid, count, direct 1, fun vringId otherId enable otherEnable apart =>
    commute 1 1 vringId otherId enable otherEnable fun _ => apart⟩

end ConfigManager

end Vtb

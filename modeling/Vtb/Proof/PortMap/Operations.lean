import Vtb.Construction.ConfigManager

namespace Vtb
open Library

/-- The flag of a ring is the rx flag of its pair for even rings and the tx flag for odd ones. -/
def VhostQueuePair.flag (pair : VhostQueuePair) (ring : Nat) : Bool :=
  if ring % 2 = 0 then pair.rxqEnabled else pair.txqEnabled

def VhostQueuePair.setFlag (pair : VhostQueuePair) (ring : Nat) (enable : Bool) : VhostQueuePair :=
  if ring % 2 = 0 then { pair with rxqEnabled := enable } else { pair with txqEnabled := enable }

/-- The entry records ring `2 i` and ring `2 i + 1` in pair `i`. -/
def PortMap.ringFlag (pm : PortMap) (ring : Nat) : Option Bool :=
  (pm.vd.qp[ring / 2]?).map fun pair => pair.flag ring

/-- The direct update touches one flag of one pair. -/
def PortMap.setRing (pm : PortMap) (ring : Nat) (enable : Bool) : PortMap :=
  { pm with vd := { pm.vd with qp := Vector.ofFn fun i : Fin maxQueuePairs =>
      if i.val = ring / 2 then pm.vd.qp[i].setFlag ring enable else pm.vd.qp[i] } }

/-- The values that `init_vhost_device` gives to its first `count` pairs. -/
def PortMap.resetPairs (nofPairs : Int) (count : Nat) (pm : PortMap) : PortMap where
  vd := { pm.vd with
    qp := Vector.ofFn fun i : Fin maxQueuePairs =>
      if i.val < count then ⟨UInt16.ofNat (i * 2), UInt16.ofNat (i * 2 + 1), false, false⟩
      else pm.vd.qp[i]
    qpid := Vector.ofFn fun i : Fin maxQueuePairs => if i.val < count then (i.val : Int) else pm.vd.qpid[i]
    ready := if count = 0 then pm.vd.ready else true
    ctlqId := if count = 0 then pm.vd.ctlqId else UInt16.ofInt (nofPairs * 2) }
  pd := { pm.pd with
    qp := Vector.ofFn fun i : Fin maxQueuePairs => if i.val < count then ⟨-1, -1⟩ else pm.pd.qp[i] }

/-- The queue numbers of an entry follow the pair index. -/
structure PortMap.Numbered (pm : PortMap) (pairs : Nat) : Prop where
  count : pm.vd.nofQueuePairs = pairs
  fits : pairs ≤ maxQueuePairs
  rxq : ∀ i (inside : i < pairs), pm.vd.qp[i].rxqId = UInt16.ofNat (i * 2)
  txq : ∀ i (inside : i < pairs), pm.vd.qp[i].txqId = UInt16.ofNat (i * 2 + 1)

/-- A direct update decides the flag of its own ring and keeps the flag of every other ring. -/
theorem PortMap.ringFlag_setRing (pm : PortMap) (ring other : Nat) (enable : Bool)
    (inside : other / 2 < maxQueuePairs) :
    (pm.setRing ring enable).ringFlag other =
      if other = ring then some enable else pm.ringFlag other := by
  simp only [ringFlag, setRing, Vector.getElem?_eq_getElem inside, Vector.getElem_ofFn, Option.map_some]
  by_cases same : other = ring
  · subst same
    by_cases even : other % 2 = 0 <;> simp [VhostQueuePair.flag, VhostQueuePair.setFlag, even]
  · rw [if_neg same]
    by_cases pair : other / 2 = ring / 2
    · have parity : ¬ (other % 2 = 0 ↔ ring % 2 = 0) := by omega
      by_cases even : other % 2 = 0
      · have odd : ¬ ring % 2 = 0 := fun ringEven => parity ⟨fun _ => ringEven, fun _ => even⟩
        simp [VhostQueuePair.flag, VhostQueuePair.setFlag, pair, even, odd]
      · have ringEven : ring % 2 = 0 := by omega
        simp [VhostQueuePair.flag, VhostQueuePair.setFlag, pair, even, ringEven]
    · simp [pair]

/-- A direct update keeps the queue numbers. -/
theorem PortMap.Numbered.setRing {pm : PortMap} {pairs : Nat} (numbered : pm.Numbered pairs)
    (ring : Nat) (enable : Bool) : (pm.setRing ring enable).Numbered pairs where
  count := numbered.count
  fits := numbered.fits
  rxq i inside := by
    have stored := numbered.rxq i inside
    simp only [PortMap.setRing, Vector.getElem_ofFn, VhostQueuePair.setFlag]
    split_ifs <;> exact stored
  txq i inside := by
    have stored := numbered.txq i inside
    simp only [PortMap.setRing, Vector.getElem_ofFn, VhostQueuePair.setFlag]
    split_ifs <;> exact stored

/-- A reset numbers the first pairs. -/
theorem PortMap.numbered_resetPairs (pm : PortMap) (pairs : Nat) (fits : pairs ≤ maxQueuePairs)
    (count : pm.vd.nofQueuePairs = pairs) : (pm.resetPairs pairs pairs).Numbered pairs where
  count := count
  fits := fits
  rxq i inside := by simp [PortMap.resetPairs, inside]
  txq i inside := by simp [PortMap.resetPairs, inside]

/-- A reset disables every ring of its pairs. -/
theorem PortMap.ringFlag_resetPairs (pm : PortMap) (nofPairs : Int) {pairs ring : Nat}
    (fits : pairs ≤ maxQueuePairs) (inside : ring < 2 * pairs) :
    (pm.resetPairs nofPairs pairs).ringFlag ring = some false := by
  have pair : ring / 2 < pairs := by omega
  have cell : ring / 2 < maxQueuePairs := by omega
  simp [PortMap.ringFlag, PortMap.resetPairs, Vector.getElem?_eq_getElem cell, pair, VhostQueuePair.flag]

namespace ConfigManager

@[simp] theorem store_pmap (config : ConfigManager) (portId key : Int) (pm : PortMap) :
    (config.store portId pm).pmap[key]? = if portId = key then some pm else config.pmap[key]? := by
  simp [store, Std.ExtTreeMap.getElem?_insert]

/-- The later of two writes of an entry stays. -/
theorem store_store (config : ConfigManager) (portId : Int) (first second : PortMap) :
    (config.store portId first).store portId second = config.store portId second := by
  have maps : (config.pmap.insert portId first).insert portId second =
      config.pmap.insert portId second := by
    apply Std.ExtTreeMap.ext_getElem?
    intro key
    simp only [Std.ExtTreeMap.getElem?_insert]
    split_ifs <;> rfl
  simp only [store, maps]

@[simp] theorem clearDevice_pmap (config : ConfigManager) (vid key : Int) :
    (config.clearDevice vid).pmap[key]? = if vid = key then none else config.pmap[key]? := by
  simp [clearDevice, Std.ExtTreeMap.getElem?_erase]

/-- One iteration of the initialisation loop resets the next pair. -/
theorem initPair_resetPairs (nofPairs : Int) (count : Nat) (pm : PortMap)
    (inside : count < maxQueuePairs) :
    initPair nofPairs (pm.resetPairs nofPairs count) count =
      some (pm.resetPairs nofPairs (count + 1)) := by
  have cell {α : Type} (old new : Fin maxQueuePairs → α) :
      (Vector.ofFn fun i : Fin maxQueuePairs => if i.val < count then new i else old i).set count
        (new ⟨count, inside⟩) inside =
      Vector.ofFn fun i : Fin maxQueuePairs => if i.val < count + 1 then new i else old i := by
    apply Vector.ext
    intro i bound
    simp only [Vector.getElem_set, Vector.getElem_ofFn]
    by_cases here : count = i
    · subst here
      simp
    · simp only [here, if_false]
      by_cases below : i < count
      · simp [below, Nat.lt_succ_of_lt below]
      · rw [if_neg below, if_neg (by omega)]
  unfold initPair
  rw [writeCell_natCast _ _ inside, writeCell_natCast _ _ inside, writeCell_natCast _ _ inside]
  simp only [PortMap.resetPairs, Option.bind_some, Option.map_some, Nat.add_eq_zero_iff, one_ne_zero,
    and_false, if_false]
  congr 4
  · exact cell (fun i => pm.vd.qpid[i]) (fun i => (i.val : Int))
  · exact cell (fun i => pm.vd.qp[i])
      (fun i => ⟨UInt16.ofNat (i * 2), UInt16.ofNat (i * 2 + 1), false, false⟩)
  · exact cell (fun i => pm.pd.qp[i]) (fun _ => ⟨-1, -1⟩)

/-- The initialisation loop stays inside the arrays for at most eight pairs. -/
theorem initPair_loop (nofPairs : Int) (count : Nat) (pm : PortMap) (fits : count ≤ maxQueuePairs) :
    (List.range count).foldlM (initPair nofPairs) pm = some (pm.resetPairs nofPairs count) := by
  induction count with
  | zero => simp [PortMap.resetPairs]
  | succ count ih =>
      rw [List.range_succ, List.foldlM_append, ih (by omega)]
      simp only [Option.bind_eq_bind, Option.bind_some, List.foldlM_cons, List.foldlM_nil]
      rw [initPair_resetPairs nofPairs count pm (by omega)]
      rfl

/-- The entry that `init_vhost_device` writes for at most eight pairs. -/
def initialisedEntry (config : ConfigManager) (portId vid : Int) (pairs : Nat) : PortMap :=
  let pm := (config.pmap[portId]?).getD PortMap.zero
  { pm with vd := { pm.vd with vid, nofQueuePairs := pairs, ready := true } }.resetPairs pairs pairs

theorem initVhostDevice_eq (config : ConfigManager) (portId vid : Int) (pairs : Nat)
    (fits : pairs ≤ maxQueuePairs) :
    config.initVhostDevice portId vid pairs =
      some (config.store portId (config.initialisedEntry portId vid pairs)) := by
  simp only [initVhostDevice, Int.toNat_natCast]
  rw [initPair_loop pairs pairs _ fits]
  rfl

/-- The comparison of a stored queue number is a comparison of numbers. -/
theorem ofNat_eq_ring {number : Nat} (small : number < 2 ^ 16) (vringId : UInt16) :
    UInt16.ofNat number = vringId ↔ number = vringId.toNat := by
  rw [UInt16.ofNat_eq_iff_mod_eq_toNat, Nat.mod_eq_of_lt small]

/-- The scan finds ring `v` in pair `v / 2`, or it finds nothing. -/
theorem scanPairs_range' (vringId : UInt16) (enable : Bool) {pm : PortMap} {pairs : Nat}
    (numbered : pm.Numbered pairs) (remaining start : Nat) (within : start + remaining = pairs)
    (below : 2 * start ≤ vringId.toNat) :
    scanPairs vringId enable pm.vd.qp (List.range' start remaining) =
      some (if vringId.toNat < 2 * pairs then (pm.setRing vringId.toNat enable).vd.qp else pm.vd.qp) := by
  have fits := numbered.fits
  induction remaining generalizing start with
  | zero =>
      have outside : ¬ vringId.toNat < 2 * pairs := by omega
      simp [scanPairs, outside]
  | succ remaining ih =>
      have inside : start < pairs := by omega
      have cell : start < maxQueuePairs := by omega
      have small : start < 8 := cell
      have rxq : pm.vd.qp[start].rxqId = vringId ↔ start * 2 = vringId.toNat := by
        rw [numbered.rxq start inside, ofNat_eq_ring (by omega)]
      have txq : pm.vd.qp[start].txqId = vringId ↔ start * 2 + 1 = vringId.toNat := by
        rw [numbered.txq start inside, ofNat_eq_ring (by omega)]
      rw [List.range'_succ]
      simp only [scanPairs, readCell_natCast, Vector.getElem?_eq_getElem cell, Option.bind_some, rxq, txq]
      have store (ring : Nat) (here : start = ring / 2) :
          writeCell pm.vd.qp start (pm.vd.qp[start].setFlag ring enable) =
            some (pm.setRing ring enable).vd.qp := by
        rw [writeCell_natCast _ _ cell]
        congr 1
        apply Vector.ext
        intro i bound
        simp only [PortMap.setRing, Vector.getElem_set, Vector.getElem_ofFn]
        by_cases same : start = i
        · subst same
          simp [← here]
        · rw [if_neg same, if_neg (by omega)]
          rfl
      by_cases even : start * 2 = vringId.toNat
      · rw [if_pos even, if_pos (by omega), ← store vringId.toNat (by omega)]
        simp [VhostQueuePair.setFlag, ← even]
      · rw [if_neg even]
        by_cases odd : start * 2 + 1 = vringId.toNat
        · rw [if_pos odd, if_pos (by omega), ← store vringId.toNat (by omega)]
          simp [VhostQueuePair.setFlag, ← odd]
        · rw [if_neg odd]
          exact ih (start + 1) (by omega) (by omega)

/-- The linear scan of a numbered entry equals the direct update of one ring. -/
theorem setQueueState_eq {config : ConfigManager} {portId : Int} {pm : PortMap} {pairs : Nat}
    (present : config.pmap[portId]? = some pm) (numbered : pm.Numbered pairs) (vringId : UInt16)
    (enable : Bool) :
    config.setQueueState portId vringId enable =
      some (config.store portId
        (if vringId.toNat < 2 * pairs then pm.setRing vringId.toNat enable else pm)) := by
  have scanned := scanPairs_range' vringId enable numbered pairs 0 (by omega) (by omega)
  rw [← List.range_eq_range'] at scanned
  unfold setQueueState
  rw [present]
  dsimp only
  have length : pm.vd.nofQueuePairs.toNat = pairs := by
    rw [numbered.count, Int.toNat_natCast]
  rw [length, scanned]
  split_ifs <;> rfl

/-- A missing entry is left missing. -/
theorem setQueueState_absent {config : ConfigManager} {portId : Int}
    (absent : config.pmap[portId]? = none) (vringId : UInt16) (enable : Bool) :
    config.setQueueState portId vringId enable = some config := by
  unfold setQueueState
  rw [absent]

end ConfigManager

end Vtb

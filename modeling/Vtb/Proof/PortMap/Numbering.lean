import Vtb.Proof.PortMap.DirectUpdate

namespace Vtb
open Library

/-- The ring numbers of the pairs partition the numbers below twice their count, the control ring
comes after them, and the descriptors of both directions are equal. -/
structure PortMap.NumbersRings (pm : PortMap) (pairs : Nat) : Prop where
  count : pm.vd.nofQueuePairs = pairs
  fits : pairs ≤ maxQueuePairs
  rxq : ∀ pair : Fin maxQueuePairs, pair.val < pairs → (pm.vd.qp.get pair).rxqId.toNat = 2 * pair.val
  txq : ∀ pair : Fin maxQueuePairs, pair.val < pairs → (pm.vd.qp.get pair).txqId.toNat = 2 * pair.val + 1
  owner : ∀ ring, ring < 2 * pairs → ∃! pair : Fin maxQueuePairs, pair.val < pairs ∧
    ((pm.vd.qp.get pair).rxqId.toNat = ring ∨ (pm.vd.qp.get pair).txqId.toNat = ring)
  place : ∀ ring, ring < 2 * pairs → ∃ pair : Fin maxQueuePairs, pair.val = ring / 2 ∧ pair.val < pairs ∧
    (ring % 2 = 0 → (pm.vd.qp.get pair).rxqId.toNat = ring) ∧
    (ring % 2 = 1 → (pm.vd.qp.get pair).txqId.toNat = ring)
  qpid : ∀ pair : Fin maxQueuePairs, pair.val < pairs → pm.vd.qpid.get pair = (pair.val : Int)
  control : pm.vd.ctlqId.toNat = 2 * pairs
  controlFree : ∀ pair : Fin maxQueuePairs, pair.val < pairs →
    (pm.vd.qp.get pair).rxqId ≠ pm.vd.ctlqId ∧ (pm.vd.qp.get pair).txqId ≠ pm.vd.ctlqId
  descriptors : ∀ pair : Fin maxQueuePairs, (pm.pd.qp.get pair).rxqId = (pm.pd.qp.get pair).txqId

section
variable {pm : PortMap} {pairs : Nat}

/-- The receive ring of a pair of the device. -/
theorem PortMap.Filled.rxq_toNat (filled : pm.Filled pairs) (pair : Fin maxQueuePairs) (inside : pair.val < pairs) :
    (pm.vd.qp.get pair).rxqId.toNat = 2 * pair.val := by
  have few : pairs ≤ 8 := filled.fits
  rw [get_eq_getElem, filled.rxq pair inside, toNat_ring (by omega)]
  omega

/-- The transmit ring of a pair of the device. -/
theorem PortMap.Filled.txq_toNat (filled : pm.Filled pairs) (pair : Fin maxQueuePairs) (inside : pair.val < pairs) :
    (pm.vd.qp.get pair).txqId.toNat = 2 * pair.val + 1 := by
  have few : pairs ≤ 8 := filled.fits
  rw [get_eq_getElem, filled.txq pair inside, toNat_ring (by omega)]
  omega

/-- The control ring comes after the rings of the pairs. -/
theorem PortMap.Filled.control_toNat (filled : pm.Filled pairs) (positive : 0 < pairs) :
    pm.vd.ctlqId.toNat = 2 * pairs := by
  have few : pairs ≤ 8 := filled.fits
  rw [filled.control positive, toNat_ring (by omega)]

/-- Every ring below twice the pair count is one of the rings of exactly one pair. -/
theorem PortMap.Filled.owner (filled : pm.Filled pairs) {ring : Nat} (inside : ring < 2 * pairs) :
    ∃! pair : Fin maxQueuePairs, pair.val < pairs ∧
      ((pm.vd.qp.get pair).rxqId.toNat = ring ∨ (pm.vd.qp.get pair).txqId.toNat = ring) := by
  have fits := filled.fits
  have pair : ring / 2 < pairs := by omega
  apply ExistsUnique.intro ⟨ring / 2, by omega⟩
  · rw [filled.rxq_toNat ⟨ring / 2, by omega⟩ pair, filled.txq_toNat ⟨ring / 2, by omega⟩ pair]
    apply And.intro pair
    dsimp only
    omega
  · intro other both
    obtain ⟨within, numbered⟩ := both
    rw [filled.rxq_toNat _ within, filled.txq_toNat _ within] at numbered
    apply Fin.ext
    dsimp only
    omega

/-- The pair of a ring is half of the ring, and the parity of the ring tells its direction. -/
theorem PortMap.Filled.place (filled : pm.Filled pairs) {ring : Nat} (inside : ring < 2 * pairs) :
    ∃ pair : Fin maxQueuePairs, pair.val = ring / 2 ∧ pair.val < pairs ∧
      (ring % 2 = 0 → (pm.vd.qp.get pair).rxqId.toNat = ring) ∧
      (ring % 2 = 1 → (pm.vd.qp.get pair).txqId.toNat = ring) := by
  have fits := filled.fits
  have pair : ring / 2 < pairs := by omega
  apply Exists.intro ⟨ring / 2, by omega⟩
  rw [filled.rxq_toNat ⟨ring / 2, by omega⟩ pair, filled.txq_toNat ⟨ring / 2, by omega⟩ pair]
  apply And.intro rfl
  apply And.intro pair
  dsimp only
  omega

/-- The control ring is no ring of a pair. -/
theorem PortMap.Filled.controlFree (filled : pm.Filled pairs) (pair : Fin maxQueuePairs)
    (inside : pair.val < pairs) :
    (pm.vd.qp.get pair).rxqId ≠ pm.vd.ctlqId ∧ (pm.vd.qp.get pair).txqId ≠ pm.vd.ctlqId := by
  have rx := filled.rxq_toNat pair inside
  have tx := filled.txq_toNat pair inside
  have control := filled.control_toNat (by omega)
  constructor
  · intro same
    rw [same, control] at rx
    omega
  · intro same
    rw [same, control] at tx
    omega

/-- A filled entry with at least one pair numbers its rings. -/
theorem PortMap.Filled.numbersRings (filled : pm.Filled pairs) (positive : 0 < pairs) :
    pm.NumbersRings pairs where
  count := filled.count
  fits := filled.fits
  rxq := filled.rxq_toNat
  txq := filled.txq_toNat
  owner _ inside := filled.owner inside
  place _ inside := filled.place inside
  qpid := filled.qpid
  control := filled.control_toNat positive
  controlFree := filled.controlFree
  descriptors pair := by
    rw [get_eq_getElem]
    exact filled.descriptors pair pair.isLt

end

namespace ConfigManager

/-- The port is present and the queue is one of its queue pairs. -/
def AcceptsQueue (config : ConfigManager) (portId qNum : Int) : Prop :=
  ∃ pm : PortMap, config.pmap[portId]? = some pm ∧ 0 ≤ qNum ∧ qNum < pm.vd.nofQueuePairs

/-- `get_vhost_qids` names the rings of exactly the queue pairs that exist. -/
structure AnswersQids (config : ConfigManager) : Prop where
  accepted : ∀ (portId qNum : Int) (pm : PortMap), config.pmap[portId]? = some pm →
    0 ≤ qNum → qNum < pm.vd.nofQueuePairs →
    ∃ rxq txq : UInt16, config.getVhostQids portId qNum = some (pm.vd.vid, rxq, txq) ∧
      (rxq.toNat : Int) = 2 * qNum ∧ (txq.toNat : Int) = 2 * qNum + 1
  refused : ∀ portId qNum : Int, ¬ config.AcceptsQueue portId qNum →
    ∃ rxq txq : UInt16, config.getVhostQids portId qNum = some (-1, rxq, txq)
  exactly : ∀ (portId qNum : Int) (pm : PortMap), config.pmap[portId]? = some pm → pm.vd.vid ≠ -1 →
    ((∃ rxq txq : UInt16, config.getVhostQids portId qNum = some (pm.vd.vid, rxq, txq)) ↔
      0 ≤ qNum ∧ qNum < pm.vd.nofQueuePairs)

section
variable {config : ConfigManager} {portId qNum : Int}

/-- A queue that does not exist is refused. -/
theorem getVhostQids_refused (missing : ¬ config.AcceptsQueue portId qNum) :
    config.getVhostQids portId qNum = some (-1, 0, 0) := by
  unfold getVhostQids
  cases found : config.pmap[portId]? with
  | none => rfl
  | some pm =>
      have outside : qNum < 0 ∨ qNum ≥ pm.vd.nofQueuePairs := by
        by_contra inside
        exact missing ⟨pm, found, by omega, by omega⟩
      exact if_pos outside

/-- A queue that exists is answered with the stored numbers of its pair. -/
theorem getVhostQids_accepted {pm : PortMap} {pairs pair : Nat} (found : config.pmap[portId]? = some pm)
    (numbered : pm.Numbered pairs) (inside : pair < pairs) :
    config.getVhostQids portId pair =
      some (pm.vd.vid, UInt16.ofNat (pair * 2), UInt16.ofNat (pair * 2 + 1)) := by
  have cell : pair < maxQueuePairs := lt_of_lt_of_le inside numbered.fits
  have queue : ¬ ((pair : Int) < 0 ∨ (pair : Int) ≥ pm.vd.nofQueuePairs) := by
    rw [numbered.count]
    omega
  unfold getVhostQids
  rw [found]
  dsimp only
  rw [if_neg queue, readCell_natCast, Vector.getElem?_eq_getElem cell, Option.map_some,
    numbered.rxq pair inside, numbered.txq pair inside]

/-- Filled entries answer the queries for their rings. -/
theorem answersQids (filled : ∀ portId : Int, FilledEntry 1 (config.pmap[portId]?)) : config.AnswersQids := by
  have accepted : ∀ (portId qNum : Int) (pm : PortMap), config.pmap[portId]? = some pm →
      0 ≤ qNum → qNum < pm.vd.nofQueuePairs →
      ∃ rxq txq : UInt16, config.getVhostQids portId qNum = some (pm.vd.vid, rxq, txq) ∧
        (rxq.toNat : Int) = 2 * qNum ∧ (txq.toNat : Int) = 2 * qNum + 1 := by
    intro portId qNum pm found low high
    obtain ⟨pairs, _, numbers⟩ := filled portId pm found
    obtain ⟨pair, rfl⟩ := Int.eq_ofNat_of_zero_le low
    have few : pairs ≤ 8 := numbers.fits
    have inside : pair < pairs := by
      rw [numbers.count] at high
      omega
    have first : (UInt16.ofNat (pair * 2)).toNat = pair * 2 := toNat_ring (by omega)
    have second : (UInt16.ofNat (pair * 2 + 1)).toNat = pair * 2 + 1 := toNat_ring (by omega)
    refine ⟨_, _, getVhostQids_accepted found numbers.toNumbered inside, ?_, ?_⟩
    · rw [first]
      omega
    · rw [second]
      omega
  constructor
  · exact accepted
  · intro portId qNum missing
    exact ⟨0, 0, getVhostQids_refused missing⟩
  · intro portId qNum pm found named
    constructor
    · intro ⟨rxq, txq, answered⟩
      by_contra outside
      have missing : ¬ config.AcceptsQueue portId qNum := by
        intro ⟨other, there, inside⟩
        obtain rfl : pm = other := Option.some.inj (found.symm.trans there)
        exact outside inside
      rw [getVhostQids_refused missing, Option.some.injEq, Prod.mk.injEq] at answered
      exact named answered.1.symm
    · intro ⟨low, high⟩
      obtain ⟨rxq, txq, answered, _⟩ := accepted portId qNum pm found low high
      exact ⟨rxq, txq, answered⟩

end

/-- After every sequence of operations each entry numbers its rings, and the queries follow the numbers. -/
theorem queues_numbered (parser : CmdlineParser) (history : List ConfigOperation)
    (valid : ∀ operation ∈ history, operation.Within 1) :
    ∃ final outputs, machine.run (initial parser) history = some (final, outputs) ∧
      (∀ (portId : Int) (pm : PortMap), final.pmap[portId]? = some pm →
        ∃ pairs : Nat, 1 ≤ pairs ∧ pm.NumbersRings pairs) ∧
      final.AnswersQids := by
  obtain ⟨final, outputs, ran, filled⟩ := filled_run parser (by omega) valid
  refine ⟨final, outputs, ran, ?_, answersQids filled⟩
  intro portId pm found
  obtain ⟨pairs, positive, numbers⟩ := filled portId pm found
  exact ⟨pairs, by omega, numbers.numbersRings (by omega)⟩

/-- A port that is initialised again with fewer queue pairs, between other operations. -/
def renumbered : List ConfigOperation :=
  [.initVhostDevice 1 11 8, .assignPortDataSocket 1 9 50, .setQueueState 1 11 true,
    .initVhostDevice 1 12 6, .assignPortDataSocket 1 5 51, .assignPortControlSocket 1 101, .clearDevice 0]

/-- The renumbered port belongs to device 12, and its six pairs are numbered. -/
theorem queues_numbered_renumbered :
    ∃ final outputs pm, machine.run (initial arguments) renumbered = some (final, outputs) ∧
      final.pmap[(1 : Int)]? = some pm ∧ pm.vd.vid = 12 ∧ pm.NumbersRings 6 ∧ final.AnswersQids := by
  obtain ⟨final, outputs, ran, numbered, answers⟩ := queues_numbered arguments renumbered (by decide)
  have entry : (machine.run (initial arguments) renumbered).bind (fun result =>
      (result.1.pmap[(1 : Int)]?).map fun pm => (pm.vd.vid, pm.vd.nofQueuePairs)) = some (12, 6) := by decide
  rw [ran, Option.bind_some, Option.map_eq_some_iff] at entry
  obtain ⟨pm, found, values⟩ := entry
  obtain ⟨vid, count⟩ := Prod.mk.inj values
  obtain ⟨pairs, _, numbers⟩ := numbered 1 pm found
  obtain rfl : pairs = 6 := by
    have same := numbers.count.symm.trans count
    omega
  exact ⟨final, outputs, pm, ran, found, vid, numbers, answers⟩

/-- Queue 5 of the renumbered port has the rings 10 and 11. -/
example : ((machine.run (initial arguments) renumbered).bind fun result => result.1.getVhostQids 1 5) =
    some (12, 10, 11) := by decide

end ConfigManager

end Vtb

import Vtb.Proof.PortMap.Devices
import Vtb.Proof.PortMap.Numbering

namespace Vtb
open Library
open ConfigOperation (ringState)

/-- The last changes of both rings of the pair enabled them. -/
def LeavesEnabled (portId : Int) (pair : Nat) (device : Device) : Prop :=
  latest (ringState portId (2 * pair)) device.inputs = some true ∧
    latest (ringState portId (2 * pair + 1)) device.inputs = some true

instance (portId : Int) (pair : Nat) (device : Device) : Decidable (LeavesEnabled portId pair device) :=
  inferInstanceAs (Decidable (_ ∧ _))

/-- The last device that had the pair left both of its rings enabled. -/
def LeftEnabled (portId : Int) (pair : Nat) (devices : List Device) : Prop :=
  ∃ device ∈ devices.find? (fun device => decide ((pair : Int) < device.tag)), LeavesEnabled portId pair device

instance (portId : Int) (pair : Nat) (devices : List Device) : Decidable (LeftEnabled portId pair devices) :=
  inferInstanceAs (Decidable (∃ device ∈ _, LeavesEnabled portId pair device))

/-- The queue is an index of the arrays, and it is a queue of the current device,
or the last device that had it did not leave it enabled. -/
def NoStaleRings (portId qpid : Int) (history : List ConfigOperation) : Prop :=
  ∀ current ∈ (devices portId history).head?, 0 ≤ qpid ∧ qpid < maxQueuePairs ∧
    (qpid < current.tag ∨ ¬ LeftEnabled portId qpid.toNat (devices portId history))

instance (portId qpid : Int) (history : List ConfigOperation) : Decidable (NoStaleRings portId qpid history) :=
  inferInstanceAs (Decidable (∀ _ ∈ (devices portId history).head?, _))

namespace ConfigManager

/-- `is_queue_ready` answers, and it answers yes exactly for a queue of the port whose two rings
were enabled last since the port was initialised. -/
def TellsTruth (config : ConfigManager) (history : List ConfigOperation) (portId qpid : Int) : Prop :=
  ∃ ready, config.isQueueReady portId qpid = some ready ∧
    (ready = true ↔ config.AcceptsQueue portId qpid ∧
      ∃ current ∈ (devices portId history).head?, LeavesEnabled portId qpid.toNat current)

end ConfigManager

section
variable {portId : Int} {devices : List Device} {pm : PortMap} {pair : Nat}

/-- The memory of the two rings of a pair is the memory of the pair. -/
theorem ringMemory_pair :
    ((ringMemory portId (2 * pair) devices && ringMemory portId (2 * pair + 1) devices) = true) ↔
      LeftEnabled portId pair devices := by
  have even : 2 * pair / 2 = pair := by omega
  have odd : (2 * pair + 1) / 2 = pair := by omega
  simp only [ringMemory, lastCovered, even, odd, Bool.and_eq_true, decide_eq_true_eq, LeftEnabled]
  cases devices.find? fun device => decide ((pair : Int) < device.tag) with
  | none => simp
  | some device => simp [LeavesEnabled]

/-- The current device decides the pairs that it has. -/
theorem leftEnabled_current {current : Device} {earlier : List Device} (has : (pair : Int) < current.tag) :
    LeftEnabled portId pair (current :: earlier) ↔ LeavesEnabled portId pair current := by
  simp [LeftEnabled, has]

/-- The flags of a pair are the memory of its two rings. -/
theorem Remembers.pair_flags (remembers : Remembers portId devices pm) (inside : pair < maxQueuePairs) :
    ((pm.vd.qp[pair].rxqEnabled && pm.vd.qp[pair].txqEnabled) = true) ↔ LeftEnabled portId pair devices := by
  have even : 2 * pair / 2 = pair := by omega
  have odd : (2 * pair + 1) / 2 = pair := by omega
  have rx := remembers.flags (2 * pair) (by omega)
  have tx := remembers.flags (2 * pair + 1) (by omega)
  simp only [PortMap.ringFlag, even, odd, Vector.getElem?_eq_getElem inside, Option.map_some,
    Option.some.injEq] at rx tx
  have rxFlag : pm.vd.qp[pair].rxqEnabled = ringMemory portId (2 * pair) devices := by
    rw [← rx]
    simp [VhostQueuePair.flag]
  have txFlag : pm.vd.qp[pair].txqEnabled = ringMemory portId (2 * pair + 1) devices := by
    rw [← tx]
    simp [VhostQueuePair.flag]
  rw [rxFlag, txFlag, ringMemory_pair]

end

namespace ConfigManager

section
variable {config : ConfigManager} {history : List ConfigOperation} {portId qpid : Int}

/-- A port without a device is never ready. -/
theorem tellsTruth_absent (missing : config.pmap[portId]? = none) : config.TellsTruth history portId qpid := by
  refine ⟨false, ?_, ?_⟩
  · unfold isQueueReady
    rw [missing]
  · constructor
    · intro ready
      simp at ready
    · intro ⟨⟨pm, found, _⟩, _⟩
      rw [missing] at found
      simp at found

/-- `is_queue_ready` answers for the cells of the array, with what the port remembers of the pair. -/
theorem isQueueReady_eq_some {pm : PortMap} {devices : List Device} {ready : Bool}
    (found : config.pmap[portId]? = some pm) (remembers : Remembers portId devices pm) :
    config.isQueueReady portId qpid = some ready ↔
      0 ≤ qpid ∧ qpid < maxQueuePairs ∧ (ready = true ↔ LeftEnabled portId qpid.toNat devices) := by
  unfold isQueueReady
  rw [found]
  dsimp only
  constructor
  · intro answered
    obtain ⟨flags, read, same⟩ := Option.map_eq_some_iff.mp answered
    obtain ⟨low, high⟩ := readCell_defined.mp ⟨flags, read⟩
    apply And.intro low
    apply And.intro high
    obtain ⟨pair, rfl⟩ := Int.eq_ofNat_of_zero_le low
    have inside : pair < maxQueuePairs := by omega
    rw [readCell_natCast, Vector.getElem?_eq_getElem inside] at read
    obtain rfl := Option.some.inj read
    rw [← same, Int.toNat_natCast]
    exact remembers.pair_flags inside
  · intro ⟨low, high, truth⟩
    obtain ⟨pair, rfl⟩ := Int.eq_ofNat_of_zero_le low
    have inside : pair < maxQueuePairs := by omega
    rw [readCell_natCast, Vector.getElem?_eq_getElem inside, Option.map_some]
    apply congrArg some
    rw [Bool.eq_iff_iff, truth, Int.toNat_natCast]
    exact remembers.pair_flags inside

/-- The answer for a port with a device is right exactly when no earlier device shows through. -/
theorem tellsTruth_present {pm : PortMap} {current : Device} {earlier : List Device}
    (found : config.pmap[portId]? = some pm) (known : devices portId history = current :: earlier)
    (tag : pm.vd.nofQueuePairs = current.tag) (remembers : Remembers portId (current :: earlier) pm) :
    config.TellsTruth history portId qpid ↔
      0 ≤ qpid ∧ qpid < maxQueuePairs ∧
        (qpid < current.tag ∨ ¬ LeftEnabled portId qpid.toNat (current :: earlier)) := by
  have accepts : config.AcceptsQueue portId qpid ↔ 0 ≤ qpid ∧ qpid < current.tag := by
    simp only [AcceptsQueue, found, Option.some.injEq, exists_eq_left', tag]
  unfold TellsTruth
  simp only [known, List.head?_cons, Option.mem_some_iff, exists_eq_left', accepts,
    isQueueReady_eq_some found remembers]
  constructor
  · intro ⟨ready, ⟨low, high, left⟩, truth⟩
    apply And.intro low
    apply And.intro high
    by_cases own : qpid < current.tag
    · exact Or.inl own
    · apply Or.inr
      intro shown
      exact own (truth.mp (left.mpr shown)).1.2
  · intro ⟨low, high, fresh⟩
    apply Exists.intro (decide (LeftEnabled portId qpid.toNat (current :: earlier)))
    rw [decide_eq_true_eq]
    apply And.intro ⟨low, high, Iff.rfl⟩
    by_cases own : qpid < current.tag
    · have has : ((qpid.toNat : Nat) : Int) < current.tag := by omega
      rw [leftEnabled_current has]
      simp [low, own]
    · simp [own, fresh.resolve_left own]

/-- The answer for a port that remembers its devices is right exactly when no earlier device shows through. -/
theorem tellsTruth_iff (recorded : Recorded portId (devices portId history) (config.pmap[portId]?)) :
    config.TellsTruth history portId qpid ↔ NoStaleRings portId qpid history := by
  have count := recorded.current
  have remembers := recorded.remembers
  unfold NoStaleRings
  cases found : config.pmap[portId]? with
  | none =>
      rw [found, Option.map_none] at count
      have none : (devices portId history).head? = none := Option.map_eq_none_iff.mp count.symm
      rw [none]
      simp [tellsTruth_absent found]
  | some pm =>
      rw [found] at count remembers
      cases known : devices portId history with
      | nil => simp [known] at count
      | cons current earlier =>
          rw [known] at count remembers
          rw [tellsTruth_present found known (Option.some.inj count) remembers]
          simp only [List.head?_cons, Option.mem_some_iff, forall_eq']

end

/-- In every reachable state the answer for a queue is right exactly when the queue is inside the arrays
and no earlier device of the port shows through. -/
theorem ready_truthful_iff (parser : CmdlineParser) (history : List ConfigOperation) (final : ConfigManager)
    (outputs : List Unit) (ran : machine.run (initial parser) history = some (final, outputs))
    (counts : ∀ operation ∈ history, operation.Counts 0) (portId qpid : Int) :
    final.TellsTruth history portId qpid ↔ NoStaleRings portId qpid history :=
  tellsTruth_iff (recorded_run ran counts portId)

/-- A device with two pairs enables its second pair, and a device with one pair takes its port. -/
def replacedDevice : List ConfigOperation :=
  [.initVhostDevice 0 0 2, .setQueueState 0 2 true, .setQueueState 0 3 true, .initVhostDevice 0 0 1]

/-- The replaced device still shows through. -/
theorem not_tellsTruth_replaced :
    ¬ ∀ (history : List ConfigOperation) (final : ConfigManager) (outputs : List Unit),
      machine.run (initial arguments) history = some (final, outputs) →
      (∀ operation ∈ history, operation.Counts 0) →
      ∀ portId qpid : Int, final.TellsTruth history portId qpid := by
  intro every
  have answers : ((machine.run (initial arguments) replacedDevice).bind fun result =>
      (result.1.isQueueReady 0 1).map fun ready =>
        (ready, (result.1.pmap[(0 : Int)]?).map fun pm => pm.vd.nofQueuePairs)) =
      some (true, some 1) := by decide
  simp only [Option.bind_eq_some_iff, Option.map_eq_some_iff, Prod.mk.injEq] at answers
  obtain ⟨⟨final, outputs⟩, ran, ready, asked, rfl, pm, found, count⟩ := answers
  obtain ⟨answer, again, truth⟩ := every replacedDevice final outputs ran (by decide) 0 1
  rw [asked] at again
  obtain rfl := Option.some.inj again
  obtain ⟨other, there, _, inside⟩ := (truth.mp rfl).1
  rw [found] at there
  obtain rfl := Option.some.inj there
  omega

/-- Two devices with two pairs each; each of them enables one ring of the second pair. -/
def halfEnabled : List ConfigOperation :=
  [.initVhostDevice 0 0 2, .setQueueState 0 2 true, .initVhostDevice 0 0 2, .setQueueState 0 3 true]

/-- The second queue of the two devices is answered rightly. -/
theorem ready_truthful_iff_halfEnabled :
    ∃ final outputs, machine.run (initial arguments) halfEnabled = some (final, outputs) ∧
      final.TellsTruth halfEnabled 0 1 :=
  ⟨_, _, rfl, (ready_truthful_iff arguments halfEnabled _ _ rfl (by decide) 0 1).mpr (by decide)⟩

end ConfigManager

end Vtb

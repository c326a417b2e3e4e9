import Vtb.Proof.Handler.Resources

namespace Vtb
open Library
namespace PortHandlerLoopback

/-- The named objects and the four pointers are as they were. -/
structure Restored (before after : StartState) : Prop where
  objects : ∀ object, object ∈ after.dpdk.objects ↔ object ∈ before.dpdk.objects
  txMbufPool : after.handler.txMbufPool = before.handler.txMbufPool
  rxMbufPool : after.handler.rxMbufPool = before.handler.rxMbufPool
  txRing : after.handler.txRing = before.handler.txRing
  rxRing : after.handler.rxRing = before.handler.rxRing

/-- The handler owns no object, and the names of its three objects are unused. -/
structure OwnsNothing (state : StartState) : Prop where
  pointers : state.handler.txMbufPool = none ∧ state.handler.rxMbufPool = none ∧
    state.handler.txRing = none ∧ state.handler.rxRing = none
  txPool : state.dpdk.inUse state.handler.txPoolName = false
  rxPool : state.dpdk.inUse state.handler.rxPoolName = false
  ring : state.dpdk.inUse state.handler.txRingName = false

/-- A failed `start` leaves nothing behind, and the next one succeeds when the handler owned no object
and DPDK refuses nothing. -/
structure LeavesNoTrace (settings : HandlerSettings) (before after : StartState) : Prop where
  restored : Restored before after
  retried : OwnsNothing before → ∃ workers next, start settings .granted after = .ok workers next

section
variable {settings : HandlerSettings} {nofThreads : Int} {outcomes : CreateOutcomes}
  {before after : StartState} {what : String}

/-- A creation under an unused name adds a new object. -/
theorem not_mem_of_unused {dpdk : Dpdk} {name : String} (unused : dpdk.inUse name = false) :
    ⟨dpdk.nextHandle, name⟩ ∉ dpdk.objects := by
  intro member
  have used : dpdk.inUse name = true := List.any_eq_true.mpr ⟨_, member, by simp⟩
  rw [used] at unused
  simp at unused

/-- A `start` that was granted its first pool and then failed has left this pool behind. -/
theorem not_restored_of_granted (threads : settings.nofThreads = .ok nofThreads)
    (failed : start settings outcomes before = .error what after)
    (tx : Grants before.dpdk before.handler.txPoolName outcomes.txPool) : ¬ Restored before after := by
  have ends := start_ends threads outcomes before
  rw [failed] at ends
  intro restored
  apply not_mem_of_unused tx.2
  apply (restored.objects _).mp
  cases ends with
  | noTxPool what refused => exact absurd tx refused
  | noRxPool what tx refused => simp [added]
  | noTxRing what tx rx refused => simp [added]

/-- A `start` that was not granted its first pool only clears the pointer of this pool. -/
theorem after_of_refused (threads : settings.nofThreads = .ok nofThreads)
    (failed : start settings outcomes before = .error what after)
    (refused : ¬ Grants before.dpdk before.handler.txPoolName outcomes.txPool) :
    after = { before with handler := { before.handler with txMbufPool := none } } := by
  have ends := start_ends threads outcomes before
  rw [failed] at ends
  cases ends with
  | noTxPool what refused => rfl
  | noRxPool what tx _ => exact absurd tx refused
  | noTxRing what tx rx _ => exact absurd tx refused

end

/-- DPDK grants the three creations of a `start`. -/
def AllGranted (state : StartState) (outcomes : CreateOutcomes) : Prop :=
  outcomes = .granted ∧ state.dpdk.inUse state.handler.txPoolName = false ∧
    state.dpdk.inUse state.handler.rxPoolName = false ∧ state.dpdk.inUse state.handler.txRingName = false

instance (state : StartState) (outcomes : CreateOutcomes) : Decidable (AllGranted state outcomes) :=
  inferInstanceAs (Decidable (_ ∧ _))

/-- A failed `start` of the run leaves no trace. -/
def failsWithoutTrace (settings : HandlerSettings) (dpdk : Dpdk) (past : List HandlerOperation) :
    HandlerOperation → Prop
  | .start outcomes => ∀ before outputs what after,
      (machine settings).run ⟨initial, dpdk⟩ past = some (before, outputs) →
      start settings outcomes before = .error what after → LeavesNoTrace settings before after
  | _ => True

/-- A `start` of the run is granted its three creations, or it is refused the first one
while the pointer of the first pool is null. -/
def grantedOrRefusedFirst (settings : HandlerSettings) (dpdk : Dpdk) (past : List HandlerOperation) :
    HandlerOperation → Prop
  | .start outcomes => ∀ before outputs,
      (machine settings).run ⟨initial, dpdk⟩ past = some (before, outputs) →
      AllGranted before outcomes ∨
        (¬ Grants before.dpdk before.handler.txPoolName outcomes.txPool ∧ before.handler.txMbufPool = none)
  | _ => True

instance (settings : HandlerSettings) (dpdk : Dpdk) (past : List HandlerOperation) :
    ∀ operation, Decidable (grantedOrRefusedFirst settings dpdk past operation)
  | .start outcomes => decidable_of_iff (∀ result ∈ (machine settings).run ⟨initial, dpdk⟩ past,
      AllGranted result.1 outcomes ∨ (¬ Grants result.1.dpdk result.1.handler.txPoolName outcomes.txPool ∧
        result.1.handler.txMbufPool = none)) (by simp [grantedOrRefusedFirst])
  | .setVid _ => inferInstanceAs (Decidable True)
  | .setRxqid _ => inferInstanceAs (Decidable True)
  | .setTxqid _ => inferInstanceAs (Decidable True)
  | .stop => inferInstanceAs (Decidable True)

section
variable {settings : HandlerSettings} {nofThreads : Int} {outcomes : CreateOutcomes}
  {before after : StartState} {what : String}

/-- A `start` that fails in one of its creations leaves no trace exactly when it fails in the first one
and the pointer of the first pool was null. -/
theorem leavesNoTrace_iff (threads : settings.nofThreads = .ok nofThreads)
    (failed : start settings outcomes before = .error what after) :
    LeavesNoTrace settings before after ↔
      ¬ Grants before.dpdk before.handler.txPoolName outcomes.txPool ∧ before.handler.txMbufPool = none := by
  constructor
  · intro trace
    have refused : ¬ Grants before.dpdk before.handler.txPoolName outcomes.txPool :=
      fun tx => not_restored_of_granted threads failed tx trace.restored
    have cleared := trace.restored.txMbufPool
    rw [after_of_refused threads failed refused] at cleared
    exact ⟨refused, cleared.symm⟩
  · intro ⟨refused, null⟩
    have same : after = before := by
      rw [after_of_refused threads failed refused, ← null]
    subst same
    constructor
    · exact ⟨fun _ => Iff.rfl, rfl, rfl, rfl, rfl⟩
    · intro nothing
      exact start_granted threads _ nothing.txPool nothing.rxPool nothing.ring

/-- A `start` that is granted its three creations does not fail. -/
theorem not_failed_of_allGranted (threads : settings.nofThreads = .ok nofThreads)
    (granted : AllGranted before outcomes) : start settings outcomes before ≠ .error what after := by
  intro failed
  obtain ⟨rfl, tx, rx, ring⟩ := granted
  obtain ⟨workers, next, started⟩ := start_granted threads before tx rx ring
  rw [failed] at started
  simp at started

/-- The two rules agree on every call. -/
theorem failsWithoutTrace_iff (threads : settings.nofThreads = .ok nofThreads) (dpdk : Dpdk)
    (past : List HandlerOperation) (operation : HandlerOperation) :
    failsWithoutTrace settings dpdk past operation ↔ grantedOrRefusedFirst settings dpdk past operation := by
  cases operation with
  | start outcomes =>
      constructor
      · intro clean before outputs ran
        cases ended : start settings outcomes before with
        | ok workers next => exact Or.inl (start_unused ended)
        | error what after =>
            exact Or.inr ((leavesNoTrace_iff threads ended).mp (clean before outputs what after ran ended))
      · intro rule before outputs what after ran failed
        rcases rule before outputs ran with granted | refusedFirst
        · exact absurd failed (not_failed_of_allGranted threads granted)
        · exact (leavesNoTrace_iff threads failed).mpr refusedFirst
  | _ => exact Iff.rfl

end

/-- In a run of a handler every failed `start` leaves no trace exactly when every `start` is granted its three
creations, or is refused the first one while the pointer of the first pool is null. -/
theorem failed_starts_leave_no_trace_iff (settings : HandlerSettings) (nofThreads : Int)
    (threads : settings.nofThreads = .ok nofThreads) (dpdk : Dpdk) (history : List HandlerOperation) :
    Admits (failsWithoutTrace settings dpdk) history ↔ Admits (grantedOrRefusedFirst settings dpdk) history :=
  admits_congr fun past operation _ _ => failsWithoutTrace_iff threads dpdk past operation

/-- The first ring pair of device 0, whose rx pool is refused for want of memory. -/
def refusedRxPool : List HandlerOperation :=
  [.setVid 0, .setRxqid 0, .setTxqid 1, .start ⟨none, some 12, none⟩]

/-- The tx pool of the first `start` stays behind. -/
theorem not_failsWithoutTrace_refused_rx_pool :
    ¬ ∀ (settings : HandlerSettings) (nofThreads : Int), settings.nofThreads = .ok nofThreads →
      ∀ (dpdk : Dpdk) (history : List HandlerOperation), Admits (failsWithoutTrace settings dpdk) history := by
  intro every
  have clean := every oneThread 1 rfl .empty refusedRxPool [.setVid 0, .setRxqid 0, .setTxqid 1]
    (.start ⟨none, some 12, none⟩) [] rfl
  let bound : StartState := ⟨⟨false, 0, 0, 1, none, none, none, none⟩, .empty⟩
  have granted : Grants bound.dpdk bound.handler.txPoolName none := ⟨rfl, rfl⟩
  cases failed : start oneThread ⟨none, some 12, none⟩ bound with
  | ok workers after => exact absurd (start_unused failed).1 (by decide)
  | error what after =>
      have trace := clean bound [] what after rfl failed
      exact not_restored_of_granted rfl failed granted trace.restored

/-- A handler whose tx pool is refused once and that starts later. -/
def refusedOnce : List HandlerOperation :=
  [.setVid 0, .setRxqid 0, .setTxqid 1, .start ⟨some 12, none, none⟩, .start .granted]

/-- The failed `start` of the handler leaves no trace. -/
theorem failed_starts_leave_no_trace_iff_refused_once : Admits (failsWithoutTrace oneThread .empty) refusedOnce := by
  have refused : Admits (grantedOrRefusedFirst oneThread .empty) refusedOnce := by decide +kernel
  exact (failed_starts_leave_no_trace_iff oneThread 1 rfl .empty refusedOnce).mpr refused

end PortHandlerLoopback

end Vtb

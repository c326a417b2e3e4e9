import Vtb.Library.Latest
import Vtb.Library.PairedSwitches
import Vtb.Proof.Controller.Effect

namespace Vtb
open Library

/-- The call of `start` that an event reports. -/
def HandlerCall.startCall : HandlerCall → Option StartCall
  | .stopped _ => none
  | .started call _ => some call
  | .failed call _ => some call

/-- The value that a packet gives to one ring of a device; a destroy gives none. -/
def PortDeviceRingState.ringValue (deviceId ring : Int) (pdrs : PortDeviceRingState) : Option Int :=
  if pdrs.metaCode ≠ 1 ∧ pdrs.deviceId = deviceId ∧ pdrs.qid = ring then some pdrs.enable else none

namespace PortControllerLoopback

/-- The table of a device has the ring at one. -/
def RingEnabled (pmap : Std.ExtTreeMap Int (List Int)) (deviceId qid : Int) : Prop :=
  (pmap[deviceId]?).bind (readAt · qid) = some 1

instance (pmap : Std.ExtTreeMap Int (List Int)) (deviceId qid : Int) :
    Decidable (RingEnabled pmap deviceId qid) :=
  inferInstanceAs (Decidable (_ = _))

/-- The value that a notification gives to one ring of a device. -/
def ringView (deviceId ring : Int) (notification : Notification) : Option Int :=
  notification.pdrs.ringValue deviceId ring

/-- The rings of a device as paired switches: an odd ring starts the handler of its pair
when the even ring before it is enabled. -/
def ringWiring (deviceId : Int) : Wiring Int StartCall :=
  ⟨fun qid => if qid % 2 = 1 then some (qid - 1, pairCall deviceId (qid / 2).toNat) else none⟩

/-- The switch setting of one ring notification. -/
def ringSetting (notification : Notification) : Int × Bool :=
  (notification.pdrs.qid, decide (notification.pdrs.enable = 1))

/-- The switch table of one device. -/
def enabledRings (controller : PortControllerLoopback) (deviceId : Int) (ring : Int) : Bool :=
  decide (RingEnabled controller.pmap deviceId ring)

section
variable {settings : HandlerSettings} {controller next : PortControllerLoopback}
  {notification : Notification} {calls later : List HandlerCall}

/-- A ring notification decides its own ring and leaves every other ring as it was.
The other rings of a new device start at -1, which is not enabled either. -/
theorem ringEnabled_storeRing (sized : controller.Sized) (pdrs : PortDeviceRingState) {qid : Nat}
    (inside : qid < RingTable.ringCount) (deviceId ring : Int) :
    RingEnabled (controller.storeRing pdrs qid) deviceId ring ↔
      if pdrs.deviceId = deviceId ∧ ring = qid then pdrs.enable = 1
      else RingEnabled controller.pmap deviceId ring := by
  rw [RingEnabled, getElem?_storeRing]
  by_cases same : pdrs.deviceId = deviceId
  · subst same
    rw [if_pos rfl, Option.bind_some, readAt]
    by_cases low : 0 ≤ ring
    · have known := RingTable.getElem?_record pdrs.enable (sized pdrs.deviceId) inside
        ring.toNat
      rw [if_pos low, known]
      by_cases own : ring = qid
      · subst own
        simp
      · have apart : ring.toNat ≠ qid := by omega
        simp only [apart, own, if_false, and_false, RingEnabled]
        cases controller.pmap[pdrs.deviceId]? with
        | none => simp [List.getElem?_replicate]
        | some rings => simp [readAt, low]
    · have outside : ring ≠ qid := by omega
      simp only [outside, and_false, if_false, if_neg low, RingEnabled, reduceCtorEq, false_iff]
      cases controller.pmap[pdrs.deviceId]? <;> simp [readAt, low]
  · simp [same, RingEnabled]

/-- One notification changes the ring that it names and no other ring. -/
theorem Effect.ringEnabled (effect : Effect settings controller notification next later)
    (sized : controller.Sized) (deviceId ring : Int) :
    RingEnabled next.pmap deviceId ring ↔
      match ringView deviceId ring notification with
      | some enable => enable = 1
      | none => RingEnabled controller.pmap deviceId ring := by
  have stored : ∀ qid : Nat, notification.pdrs.metaCode ≠ 1 → notification.pdrs.qid = qid →
      qid < RingTable.ringCount →
      (RingEnabled (controller.storeRing notification.pdrs qid) deviceId ring ↔
        match ringView deviceId ring notification with
        | some enable => enable = 1
        | none => RingEnabled controller.pmap deviceId ring) := by
    intro qid present named inside
    rw [ringEnabled_storeRing sized _ inside, ringView, PortDeviceRingState.ringValue]
    by_cases own : notification.pdrs.deviceId = deviceId ∧ ring = qid
    · have hit : notification.pdrs.qid = ring := named.trans own.2.symm
      rw [if_pos own, if_pos ⟨present, own.1, hit⟩]
    · have miss : ¬ (notification.pdrs.metaCode ≠ 1 ∧ notification.pdrs.deviceId = deviceId ∧
          notification.pdrs.qid = ring) := fun hit => own ⟨hit.2.1, hit.2.2.symm.trans named⟩
      rw [if_neg own, if_neg miss]
  cases effect with
  | destroyed gone => simp [ringView, PortDeviceRingState.ringValue, gone, stopAll]
  | recorded qid ready present named inside incomplete => exact stored qid present named inside
  | bound pair inside present named complete result attempted =>
      have odd : notification.pdrs.qid = ((2 * pair + 1 : Nat) : Int) := by rw [named]; simp
      have small : 2 * pair + 1 < RingTable.ringCount := by
        show 2 * pair + 1 < 16
        omega
      exact stored (2 * pair + 1) present odd small

/-- A ring is enabled exactly when the last notification about it enabled it. -/
theorem ringEnabled_run {history : List Notification}
    (ran : (machine settings).run initial history = some (controller, calls)) (deviceId ring : Int) :
    RingEnabled controller.pmap deviceId ring ↔ latest (ringView deviceId ring) history = some 1 := by
  have both := (machine settings).run_history
    (fun past state _ => state.Sized ∧
      (RingEnabled state.pmap deviceId ring ↔ latest (ringView deviceId ring) past = some 1))
    (by
      refine ⟨sized_initial, ?_⟩
      simp [RingEnabled, initial])
    (by
      intro past state emitted input after more _ held stepped
      have effect := effect_of_step held.1 stepped
      refine ⟨effect.sized held.1, ?_⟩
      rw [effect.ringEnabled held.1, latest_concat]
      cases ringView deviceId ring input with
      | none => simpa using held.2
      | some enable => simp)
    ran
  exact both.2

/-- A ring notification flips one switch of its device. -/
theorem Effect.enabledRings_eq (effect : Effect settings controller notification next later)
    (sized : controller.Sized) (present : notification.pdrs.metaCode ≠ 1) :
    enabledRings next notification.pdrs.deviceId =
      Wiring.flip (enabledRings controller notification.pdrs.deviceId) (ringSetting notification) := by
  funext ring
  rw [Wiring.flip_apply, enabledRings, enabledRings, Bool.eq_iff_iff, decide_eq_true_eq,
    effect.ringEnabled sized, ringView, PortDeviceRingState.ringValue]
  by_cases own : ring = notification.pdrs.qid
  · have hit : notification.pdrs.metaCode ≠ 1 ∧
        notification.pdrs.deviceId = notification.pdrs.deviceId ∧ notification.pdrs.qid = ring :=
      ⟨present, rfl, own.symm⟩
    rw [if_pos hit, ringSetting, if_pos own, decide_eq_true_eq]
  · have miss : ¬ (notification.pdrs.metaCode ≠ 1 ∧
        notification.pdrs.deviceId = notification.pdrs.deviceId ∧ notification.pdrs.qid = ring) :=
      fun hit => own hit.2.2.symm
    rw [if_neg miss, ringSetting, if_neg own, decide_eq_true_eq]

/-- A guarded start reports the numbers that it was called with. -/
theorem attempt_startCall (outcomes : CreateOutcomes) (call : StartCall) (state : StartState) :
    (attempt settings outcomes call state).2.startCall = some call := by
  rw [attempt]
  split <;> rfl

/-- A ring notification calls `start` exactly when its setting raises a signal. -/
theorem Effect.startCalls_eq (effect : Effect settings controller notification next later)
    (present : notification.pdrs.metaCode ≠ 1) :
    later.filterMap HandlerCall.startCall =
      ((ringWiring notification.pdrs.deviceId).fired
        (enabledRings controller notification.pdrs.deviceId) (ringSetting notification)).toList := by
  cases effect with
  | destroyed gone => exact absurd gone present
  | recorded qid ready _ named inside incomplete =>
      have silent : (ringWiring notification.pdrs.deviceId).fired
          (enabledRings controller notification.pdrs.deviceId) (ringSetting notification) = none := by
        rw [Option.eq_none_iff_forall_ne_some]
        intro call raised
        obtain ⟨switched, guard, wired, guarded⟩ := Wiring.fired_eq_some.mp raised
        simp only [ringWiring, ringSetting, named, Option.ite_none_right_eq_some, Option.some.injEq,
          Prod.mk.injEq, decide_eq_true_eq] at switched wired
        obtain ⟨odd, rfl, _⟩ := wired
        rw [enabledRings, decide_eq_true_eq, RingEnabled, Option.bind_eq_some_iff] at guarded
        obtain ⟨rings, table, partner⟩ := guarded
        have even : (qid : Int) - 1 = ((2 * (qid / 2) : Nat) : Int) := by omega
        rw [even, readAt_natCast] at partner
        have complete := RingTable.completes_eq_some.mpr
          (show qid = 2 * (qid / 2) + 1 ∧ notification.pdrs.enable = 1 ∧
            ∃ rings, controller.pmap[notification.pdrs.deviceId]? = some rings ∧
              rings[2 * (qid / 2)]? = some 1 from ⟨by omega, switched, rings, table, partner⟩)
        simp [incomplete] at complete
      rw [silent]
      rfl
  | bound pair inside _ named complete result attempted =>
      obtain ⟨_, enabled, rings, table, partner⟩ := RingTable.completes_eq_some.mp complete
      have raised : (ringWiring notification.pdrs.deviceId).fired
          (enabledRings controller notification.pdrs.deviceId) (ringSetting notification) =
          some (pairCall notification.pdrs.deviceId pair) := by
        refine Wiring.fired_eq_some.mpr ⟨by simpa [ringSetting] using enabled, 2 * (pair : Int), ?_, ?_⟩
        · have odd : (2 * (pair : Int) + 1) % 2 = 1 := by omega
          have half : ((2 * (pair : Int) + 1) / 2).toNat = pair := by omega
          simp [ringWiring, ringSetting, named, odd, half]
        · rw [enabledRings, decide_eq_true_eq, RingEnabled, table, Option.bind_some,
            show 2 * (pair : Int) = ((2 * pair : Nat) : Int) by simp, readAt_natCast]
          exact partner
      have reported : result.2.startCall = some (pairCall notification.pdrs.deviceId pair) := by
        rw [attempted, attempt_startCall]
      rw [raised, List.filterMap_cons, reported]
      rfl

end

/-- A switch of the wiring is the odd ring of one pair. -/
theorem ringWiring_guard {deviceId qid partner : Int} {call : StartCall} :
    (ringWiring deviceId).guard qid = some (partner, call) ↔
      qid % 2 = 1 ∧ partner = qid - 1 ∧ call = pairCall deviceId (qid / 2).toNat := by
  simp only [ringWiring, Option.ite_none_right_eq_some, Option.some.injEq, Prod.mk.injEq]
  constructor
  · intro ⟨odd, same, made⟩
    exact ⟨odd, same.symm, made.symm⟩
  · intro ⟨odd, same, made⟩
    exact ⟨odd, same.symm, made.symm⟩

/-- An enabled ring is one of the sixteen rings. -/
theorem ringEnabled_inside {controller : PortControllerLoopback} (sized : controller.Sized)
    {deviceId ring : Int} (enabled : RingEnabled controller.pmap deviceId ring) :
    0 ≤ ring ∧ ring < 16 := by
  rw [RingEnabled, Option.bind_eq_some_iff] at enabled
  obtain ⟨rings, table, value⟩ := enabled
  have length : rings.length = 16 := sized deviceId rings table
  unfold readAt at value
  split at value
  · next low =>
      obtain ⟨inside, _⟩ := List.getElem?_eq_some_iff.mp value
      omega
  · simp at value

/-- A ring notification about one of the sixteen rings of a device. -/
def NamesRing (deviceId : Int) (notification : Notification) : Prop :=
  notification.pdrs.metaCode = 0 ∧ notification.pdrs.deviceId = deviceId ∧
    0 ≤ notification.pdrs.qid ∧ notification.pdrs.qid < 16

instance (deviceId : Int) (notification : Notification) : Decidable (NamesRing deviceId notification) :=
  inferInstanceAs (Decidable (_ ∧ _))

/-- A list of ring notifications about one device. -/
def AboutRings (deviceId : Int) (history : List Notification) : Prop :=
  ∀ notification ∈ history, notification.pdrs.metaCode ≠ 1 ∧ notification.pdrs.deviceId = deviceId

/-- The ring notifications of one device run the controller as paired switches. -/
theorem run_refines {settings : HandlerSettings} {controller final : PortControllerLoopback}
    (sized : controller.Sized) {deviceId : Int} {history : List Notification}
    (about : AboutRings deviceId history) {calls : List HandlerCall}
    (ran : (machine settings).run controller history = some (final, calls)) :
    calls.filterMap HandlerCall.startCall =
      (ringWiring deviceId).fires (enabledRings controller deviceId) (history.map ringSetting) := by
  obtain ⟨last, matched, _⟩ := (machine settings).run_simulates (ringWiring deviceId).machine
    (fun state on => state.Sized ∧ on = enabledRings state deviceId) ringSetting HandlerCall.startCall
    (fun notification => notification.pdrs.metaCode ≠ 1 ∧ notification.pdrs.deviceId = deviceId)
    (by
      rintro state _ notification next emitted ⟨held, rfl⟩ ⟨present, rfl⟩ stepped
      have effect := effect_of_step held stepped
      refine ⟨enabledRings next notification.pdrs.deviceId, ?_, effect.sized held, rfl⟩
      rw [effect.enabledRings_eq held present, effect.startCalls_eq present]
      rfl)
    about ⟨sized, rfl⟩ ran
  obtain ⟨other, fired⟩ := (ringWiring deviceId).machine_run (enabledRings controller deviceId)
    (history.map ringSetting)
  exact (Prod.mk.inj (Option.some.inj (matched.symm.trans fired))).2

end PortControllerLoopback

end Vtb

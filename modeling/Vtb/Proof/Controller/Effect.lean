import Vtb.Construction.PortController
import Vtb.Proof.Controller.RingTable

namespace Vtb
open Library

/-- A packet is well formed when it is a destroy or names one of the sixteen rings. -/
def PortDeviceRingState.WellFormed (pdrs : PortDeviceRingState) : Prop :=
  pdrs.metaCode ≠ 1 → 0 ≤ pdrs.qid ∧ pdrs.qid < 16

instance (pdrs : PortDeviceRingState) : Decidable pdrs.WellFormed := inferInstanceAs (Decidable (_ → _))

namespace PortControllerLoopback

/-- The call of `start` that serves a ring pair of a device. -/
def pairCall (deviceId : Int) (pair : Nat) : StartCall :=
  ⟨pair, deviceId, 2 * (pair : Int), 2 * (pair : Int) + 1⟩

/-- The state after one guarded `start`, and the event that reports its result. -/
def attempt (settings : HandlerSettings) (outcomes : CreateOutcomes) (call : StartCall)
    (state : StartState) : StartState × HandlerCall :=
  match PortHandlerLoopback.start settings outcomes state with
  | .ok workers next => (next, .started call workers)
  | .error what next => (next, .failed call what)

/-- The handler and the DPDK objects that a `start` for a ring pair finds. -/
def bindPair (controller : PortControllerLoopback) (deviceId : Int) (pair : Nat) (inside : pair < 8) :
    StartState :=
  ⟨((controller.portHandler[pair].setVid deviceId).setRxqid (2 * (pair : Int))).setTxqid
    (2 * (pair : Int) + 1), controller.dpdk⟩

/-- The table that a ring notification stores. -/
def storeRing (controller : PortControllerLoopback) (pdrs : PortDeviceRingState) (qid : Nat) :
    Std.ExtTreeMap Int (List Int) :=
  controller.pmap.insert pdrs.deviceId
    (RingTable.record controller.pmap[pdrs.deviceId]? qid pdrs.enable)

/-- Every stored table has sixteen rings. -/
def Sized (controller : PortControllerLoopback) : Prop :=
  ∀ (deviceId : Int) (rings : List Int), controller.pmap[deviceId]? = some rings →
    rings.length = RingTable.ringCount

/-- One notification stops all handlers, records a ring, or records a ring and starts one handler. -/
inductive Effect (settings : HandlerSettings) (controller : PortControllerLoopback)
    (notification : Notification) : PortControllerLoopback → List HandlerCall → Prop where
  | destroyed (gone : notification.pdrs.metaCode = 1) :
      Effect settings controller notification controller.stopAll.1 controller.stopAll.2
  | recorded (qid : Nat) (ready : Bool) (ring : notification.pdrs.metaCode ≠ 1)
      (named : notification.pdrs.qid = qid) (inside : qid < RingTable.ringCount)
      (incomplete : RingTable.completes controller.pmap[notification.pdrs.deviceId]? qid
        notification.pdrs.enable = none) :
      Effect settings controller notification
        { controller with pmap := controller.storeRing notification.pdrs qid, ready } []
  | bound (pair : Nat) (inside : pair < 8) (ring : notification.pdrs.metaCode ≠ 1)
      (named : notification.pdrs.qid = 2 * (pair : Int) + 1)
      (complete : RingTable.completes controller.pmap[notification.pdrs.deviceId]? (2 * pair + 1)
        notification.pdrs.enable = some pair)
      (result : StartState × HandlerCall)
      (attempted : result = attempt settings notification.outcomes
        (pairCall notification.pdrs.deviceId pair)
        (controller.bindPair notification.pdrs.deviceId pair inside)) :
      Effect settings controller notification
        { controller with
          pmap := controller.storeRing notification.pdrs (2 * pair + 1)
          ready := true
          portHandler := controller.portHandler.set pair result.1.handler
          dpdk := result.1.dpdk } [result.2]

section
variable {settings : HandlerSettings} {controller next : PortControllerLoopback}
  {notification : Notification} {calls : List HandlerCall}

/-- The test of two rings inside the table is the conjunction. -/
theorem bothEnabled_eq (rings : List Int) {own partner : Nat} (ownInside : own < rings.length)
    (partnerInside : partner < rings.length) :
    bothEnabled rings own partner =
      some (decide (rings[own]? = some 1 ∧ rings[partner]? = some 1)) := by
  simp only [bothEnabled, readAt_natCast, List.getElem?_eq_getElem ownInside,
    List.getElem?_eq_getElem partnerInside, Option.bind_some, Option.map_some, Option.some.injEq]
  by_cases enabled : rings[own] = 1
  · simp [enabled, beq_eq_decide]
  · simp [enabled]

/-- The odd branch binds and starts the handler of its ring pair. -/
theorem startHandler_eq (outcomes : CreateOutcomes) (deviceId : Int) {pair : Nat} (inside : pair < 8) :
    startHandler settings outcomes controller deviceId (2 * (pair : Int) + 1) =
      some ({ controller with
          portHandler := controller.portHandler.set pair
            (attempt settings outcomes (pairCall deviceId pair)
              (controller.bindPair deviceId pair inside)).1.handler
          dpdk := (attempt settings outcomes (pairCall deviceId pair)
            (controller.bindPair deviceId pair inside)).1.dpdk },
        [(attempt settings outcomes (pairCall deviceId pair)
          (controller.bindPair deviceId pair inside)).2]) := by
  have half : (2 * (pair : Int) + 1).tdiv 2 = pair := by
    rw [Int.tdiv_eq_ediv_of_nonneg (by omega)]
    omega
  have even : 2 * (pair : Int) + 1 - 1 = 2 * pair := by omega
  simp only [startHandler, attempt, half, even, readCell_natCast, Vector.getElem?_eq_getElem inside,
    Option.bind_some, writeCell_natCast _ _ inside, Option.map_some, pairCall, Int.toNat_natCast, bindPair]
  cases PortHandlerLoopback.start settings outcomes
      ⟨((controller.portHandler[pair].setVid deviceId).setRxqid (2 * (pair : Int))).setTxqid
        (2 * (pair : Int) + 1), controller.dpdk⟩ with
  | ok workers next => rfl
  | error what next => rfl

/-- A notification that completes no pair only records its ring. -/
theorem processNotification_recorded (sized : controller.Sized) {qid : Nat}
    (ring : notification.pdrs.metaCode ≠ 1) (named : notification.pdrs.qid = qid)
    (inside : qid < RingTable.ringCount)
    (incomplete : RingTable.completes controller.pmap[notification.pdrs.deviceId]? qid
      notification.pdrs.enable = none) :
    ∃ ready, processNotification settings controller notification =
      some ({ controller with pmap := controller.storeRing notification.pdrs qid, ready }, []) := by
  simp only [processNotification, if_neg ring, storeRing]
  cases table : controller.pmap[notification.pdrs.deviceId]? with
  | none =>
      refine ⟨controller.ready, ?_⟩
      simp only [announceDevice, named, resize_nil]
      rw [writeAt_natCast _ _ (by simpa using inside)]
      rfl
  | some rings =>
      have length : rings.length = 16 := sized _ _ table
      have small : qid < 16 := inside
      simp only [updateRing, named]
      rw [writeAt_natCast _ _ (by rw [length]; exact inside), Option.bind_some]
      by_cases even : qid % 2 = 0
      · have parity : isEven qid = true := by
          simp only [isEven, beq_iff_eq]
          rw [Int.tmod_eq_emod_of_nonneg (by omega)]
          omega
        have tested := bothEnabled_eq (rings.set qid notification.pdrs.enable)
          (show qid < _ by simp [length]; omega) (show qid + 1 < _ by simp [length]; omega)
        rw [if_pos parity, show ((qid : Int) + 1) = ((qid + 1 : Nat) : Int) by simp, tested]
        exact ⟨_, rfl⟩
      · have parity : ¬ isEven qid = true := by
          simp only [isEven, beq_iff_eq]
          rw [Int.tmod_eq_emod_of_nonneg (by omega)]
          omega
        have tested := bothEnabled_eq (rings.set qid notification.pdrs.enable)
          (show qid < _ by simp [length]; omega) (show qid - 1 < _ by simp [length]; omega)
        rw [if_neg parity, show ((qid : Int) - 1) = ((qid - 1 : Nat) : Int) by omega, tested]
        have apart : qid ≠ qid - 1 := by omega
        have odd : qid % 2 = 1 := by omega
        have unready : ¬ (notification.pdrs.enable = 1 ∧ rings[qid - 1]? = some 1) := by
          rintro ⟨enabled, partner⟩
          simp [table, RingTable.completes, odd, enabled, partner] at incomplete
        have closed : ¬ ((rings.set qid notification.pdrs.enable)[qid]? = some 1 ∧
            (rings.set qid notification.pdrs.enable)[qid - 1]? = some 1) := by
          simpa [length, small, apart] using unready
        refine ⟨false, ?_⟩
        simp [closed, RingTable.record]

/-- A notification that completes a pair records its ring and starts the handler of the pair. -/
theorem processNotification_bound (sized : controller.Sized) {pair : Nat} (inside : pair < 8)
    (ring : notification.pdrs.metaCode ≠ 1)
    (named : notification.pdrs.qid = 2 * (pair : Int) + 1)
    (complete : RingTable.completes controller.pmap[notification.pdrs.deviceId]? (2 * pair + 1)
      notification.pdrs.enable = some pair) :
    ∃ result, result = attempt settings notification.outcomes
        (pairCall notification.pdrs.deviceId pair)
        (controller.bindPair notification.pdrs.deviceId pair inside) ∧
      processNotification settings controller notification =
        some ({ controller with
          pmap := controller.storeRing notification.pdrs (2 * pair + 1)
          ready := true
          portHandler := controller.portHandler.set pair result.1.handler
          dpdk := result.1.dpdk }, [result.2]) := by
  obtain ⟨_, enabled, rings, table, partner⟩ := RingTable.completes_eq_some.mp complete
  have length : rings.length = 16 := sized _ _ table
  have number : notification.pdrs.qid = ((2 * pair + 1 : Nat) : Int) := by rw [named]; simp
  have parity : ¬ isEven ((2 * pair + 1 : Nat) : Int) = true := by
    simp only [isEven, beq_iff_eq]
    rw [Int.tmod_eq_emod_of_nonneg (by omega)]
    omega
  have tested := bothEnabled_eq (rings.set (2 * pair + 1) notification.pdrs.enable)
    (show 2 * pair + 1 < _ by simp [length]; omega) (show 2 * pair < _ by simp [length]; omega)
  have opened : ((rings.set (2 * pair + 1) notification.pdrs.enable)[2 * pair + 1]? = some 1 ∧
      (rings.set (2 * pair + 1) notification.pdrs.enable)[2 * pair]? = some 1) := by
    have bound : 2 * pair + 1 < 16 := by omega
    simp [length, bound, enabled, partner]
  refine ⟨_, rfl, ?_⟩
  simp only [processNotification, if_neg ring, table, updateRing, number]
  rw [writeAt_natCast _ _ (by rw [length]; omega), Option.bind_some, if_neg parity,
    show (((2 * pair + 1 : Nat) : Int) - 1) = ((2 * pair : Nat) : Int) by omega, tested]
  simp only [opened, and_self, decide_true, Option.bind_some, if_true]
  rw [show (((2 * pair + 1 : Nat) : Int)) = 2 * (pair : Int) + 1 by simp, startHandler_eq _ _ inside]
  simp only [storeRing, table, RingTable.record, Option.getD_some, bindPair]

/-- A defined ring notification names a ring of the table. -/
theorem qid_inside_of_defined (sized : controller.Sized) (ring : notification.pdrs.metaCode ≠ 1)
    (stepped : processNotification settings controller notification = some (next, calls)) :
    ∃ qid : Nat, notification.pdrs.qid = qid ∧ qid < RingTable.ringCount := by
  simp only [processNotification, if_neg ring] at stepped
  cases table : controller.pmap[notification.pdrs.deviceId]? with
  | none =>
      simp only [table, announceDevice, resize_nil, Option.map_eq_some_iff] at stepped
      obtain ⟨written, stored, _⟩ := stepped
      obtain ⟨qid, named, inside, _⟩ := writeAt_eq_some.mp stored
      exact ⟨qid, named, by simpa using inside⟩
  | some rings =>
      simp only [table, updateRing, Option.bind_eq_some_iff] at stepped
      obtain ⟨written, stored, _⟩ := stepped
      obtain ⟨qid, named, inside, _⟩ := writeAt_eq_some.mp stored
      exact ⟨qid, named, by rw [← sized _ _ table]; exact inside⟩

/-- Every defined notification has one of the three effects. -/
theorem effect_of_step (sized : controller.Sized)
    (stepped : processNotification settings controller notification = some (next, calls)) :
    Effect settings controller notification next calls := by
  by_cases gone : notification.pdrs.metaCode = 1
  · simp only [processNotification, if_pos gone, Option.some.injEq] at stepped
    obtain ⟨rfl, rfl⟩ := Prod.mk.inj stepped
    exact .destroyed gone
  · obtain ⟨qid, named, inside⟩ := qid_inside_of_defined sized gone stepped
    cases complete : RingTable.completes controller.pmap[notification.pdrs.deviceId]? qid
        notification.pdrs.enable with
    | none =>
        obtain ⟨ready, recorded⟩ := processNotification_recorded sized gone
          named inside complete
        obtain ⟨rfl, rfl⟩ := Prod.mk.inj (Option.some.inj (recorded.symm.trans stepped))
        exact .recorded qid ready gone named inside complete
    | some pair =>
        have small : qid < 16 := inside
        obtain ⟨rfl, _⟩ := RingTable.completes_eq_some.mp complete
        have number : notification.pdrs.qid = 2 * (pair : Int) + 1 := by rw [named]; simp
        obtain ⟨result, attempted, bound⟩ := processNotification_bound sized
          (show pair < 8 by omega) gone number complete
        obtain ⟨rfl, rfl⟩ := Prod.mk.inj (Option.some.inj (bound.symm.trans stepped))
        exact .bound pair (by omega) gone number complete result attempted

/-- A destroy, and a notification about one of the sixteen rings, is always defined. -/
theorem step_defined (sized : controller.Sized)
    (valid : notification.pdrs.WellFormed) :
    ∃ next calls, processNotification settings controller notification = some (next, calls) := by
  by_cases gone : notification.pdrs.metaCode = 1
  · exact ⟨_, _, by simp only [processNotification, if_pos gone]; rfl⟩
  · obtain ⟨low, high⟩ := valid gone
    have named : notification.pdrs.qid = (notification.pdrs.qid.toNat : Int) := by omega
    have inside : notification.pdrs.qid.toNat < RingTable.ringCount := by
      show _ < 16
      omega
    cases complete : RingTable.completes controller.pmap[notification.pdrs.deviceId]?
        notification.pdrs.qid.toNat notification.pdrs.enable with
    | none =>
        obtain ⟨ready, recorded⟩ := processNotification_recorded sized gone
          named inside complete
        exact ⟨_, _, recorded⟩
    | some pair =>
        obtain ⟨odd, _⟩ := RingTable.completes_eq_some.mp complete
        rw [odd] at complete
        obtain ⟨result, _, bound⟩ := processNotification_bound sized
          (show pair < 8 by omega) gone (by omega) complete
        exact ⟨_, _, bound⟩

/-- The stored table of a device after a ring notification. -/
theorem getElem?_storeRing (pdrs : PortDeviceRingState) (qid : Nat) (deviceId : Int) :
    (controller.storeRing pdrs qid)[deviceId]? =
      if pdrs.deviceId = deviceId then
        some (RingTable.record controller.pmap[pdrs.deviceId]? qid pdrs.enable)
      else controller.pmap[deviceId]? := by
  simp [storeRing, Std.ExtTreeMap.getElem?_insert]

/-- Every notification keeps the size of the tables. -/
theorem Effect.sized (effect : Effect settings controller notification next calls)
    (sized : controller.Sized) : next.Sized := by
  have stored : ∀ (qid : Nat) (deviceId : Int) (rings : List Int),
      (controller.storeRing notification.pdrs qid)[deviceId]? = some rings →
        rings.length = RingTable.ringCount := by
    intro qid deviceId rings found
    rw [getElem?_storeRing] at found
    split_ifs at found with same
    · rw [← Option.some.inj found]
      exact RingTable.length_record fun table => sized _ table
    · exact sized deviceId rings found
  cases effect with
  | destroyed gone => exact sized
  | recorded qid ready ring named inside incomplete => exact stored qid
  | bound pair inside ring named complete result attempted => exact stored (2 * pair + 1)

end

theorem sized_initial : initial.Sized := by
  intro deviceId rings found
  simp [initial] at found

section
variable {settings : HandlerSettings}

/-- Every reachable state stores tables of sixteen rings. -/
theorem sized_run {start final : PortControllerLoopback} (sized : start.Sized)
    {history : List Notification} {calls : List HandlerCall}
    (ran : (machine settings).run start history = some (final, calls)) : final.Sized :=
  (machine settings).run_invariant Sized sized
    (fun _ _ _ _ held stepped => (effect_of_step held stepped).sized held) ran

/-- Every sequence of well-formed notifications is defined. -/
theorem run_defined {start : PortControllerLoopback} (sized : start.Sized) {history : List Notification}
    (valid : ∀ notification ∈ history, notification.pdrs.WellFormed) :
    ∃ final calls, (machine settings).run start history = some (final, calls) := by
  have admitted : Admits (fun _ (notification : Notification) => notification.pdrs.WellFormed) history := by
    rintro past notification rest rfl
    exact valid notification (by simp)
  obtain ⟨final, calls, ran, _⟩ := (machine settings).run_defined (fun _ state _ => state.Sized) sized
    (by
      intro past state emitted notification _ held allowed
      obtain ⟨next, later, stepped⟩ := step_defined held allowed
      exact ⟨next, later, stepped, (effect_of_step held stepped).sized held⟩)
    admitted
  exact ⟨final, calls, ran⟩

end

end PortControllerLoopback

end Vtb

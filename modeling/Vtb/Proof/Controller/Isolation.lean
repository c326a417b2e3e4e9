import Vtb.Proof.Controller.Running

namespace Vtb
open Library
namespace PortControllerLoopback

/-- A notification leaves a device alone: its table stays, and each handler that runs for it
keeps its numbers and keeps running. -/
structure Undisturbed (controller : PortControllerLoopback) (calls : List HandlerCall)
    (next : PortControllerLoopback) (later : List HandlerCall) (deviceId : Int) : Prop where
  table : next.pmap[deviceId]? = controller.pmap[deviceId]?
  handlers : ∀ handler : Fin 8, controller.BoundTo calls deviceId handler →
    (next.portHandler.get handler).vid = (controller.portHandler.get handler).vid ∧
    (next.portHandler.get handler).rxqid = (controller.portHandler.get handler).rxqid ∧
    (next.portHandler.get handler).txqid = (controller.portHandler.get handler).txqid ∧
    Running (calls ++ later) handler

/-- The notification completes the ring pair of a handler: it enables the odd ring of a known device
whose even ring is enabled. -/
def CompletesPair (controller : PortControllerLoopback) (pdrs : PortDeviceRingState)
    (handler : Nat) : Prop :=
  pdrs.qid = 2 * (handler : Int) + 1 ∧ pdrs.enable = 1 ∧
    ∃ rings, controller.pmap[pdrs.deviceId]? = some rings ∧ rings[2 * handler]? = some 1

instance (controller : PortControllerLoopback) (pdrs : PortDeviceRingState) (handler : Nat) :
    Decidable (controller.CompletesPair pdrs handler) :=
  decidable_of_iff (pdrs.qid = 2 * (handler : Int) + 1 ∧ pdrs.enable = 1 ∧
    (controller.pmap[pdrs.deviceId]?).bind (fun rings => rings[2 * handler]?) = some 1)
    (by rw [CompletesPair, Option.bind_eq_some_iff])

/-- The condition before the step: no handler runs for the device when another device is destroyed,
and the handler of a completed pair does not run for the device. -/
def Spares (controller : PortControllerLoopback) (calls : List HandlerCall)
    (pdrs : PortDeviceRingState) (deviceId : Int) : Prop :=
  ∀ handler : Fin 8, controller.BoundTo calls deviceId handler →
    pdrs.metaCode ≠ 1 ∧ ¬ controller.CompletesPair pdrs handler

instance (controller : PortControllerLoopback) (calls : List HandlerCall) (pdrs : PortDeviceRingState)
    (deviceId : Int) : Decidable (Spares controller calls pdrs deviceId) :=
  inferInstanceAs (Decidable (∀ _ : Fin 8, _))

section
variable {settings : HandlerSettings} {controller next : PortControllerLoopback}
  {notification : Notification} {calls later : List HandlerCall}

/-- A ring notification keeps the tables of the other devices. -/
theorem storeRing_other {pdrs : PortDeviceRingState} {deviceId : Int} (different : pdrs.deviceId ≠ deviceId)
    (qid : Nat) : (controller.storeRing pdrs qid)[deviceId]? = controller.pmap[deviceId]? := by
  rw [getElem?_storeRing, if_neg different]

/-- One effect leaves another device alone exactly when it spares the handlers of that device. -/
theorem Effect.undisturbed_iff (effect : Effect settings controller notification next later)
    {deviceId : Int} (different : notification.pdrs.deviceId ≠ deviceId) :
    Undisturbed controller calls next later deviceId ↔
      Spares controller calls notification.pdrs deviceId := by
  cases effect with
  | destroyed gone =>
      constructor
      · intro undisturbed handler serving
        have kept := undisturbed.handlers handler serving
        exact absurd kept.2.2.2 (not_running_stopAll controller calls handler.isLt)
      · intro spares
        refine ⟨rfl, ?_⟩
        intro handler serving
        exact absurd gone (spares handler serving).1
  | recorded qid ready ring named inside incomplete =>
      constructor
      · intro _ handler _
        refine ⟨ring, ?_⟩
        rintro ⟨odd, enabled, rings, table, partner⟩
        have complete : RingTable.completes controller.pmap[notification.pdrs.deviceId]? qid
            notification.pdrs.enable = some handler.val :=
          RingTable.completes_eq_some.mpr ⟨by omega, enabled, rings, table, partner⟩
        simp [complete] at incomplete
      · intro _
        refine ⟨storeRing_other different qid, ?_⟩
        intro handler serving
        exact ⟨rfl, rfl, rfl, by rw [List.append_nil]; exact serving.2⟩
  | bound pair inside ring named complete result attempted =>
      obtain ⟨_, enabled, rings, table, partner⟩ := RingTable.completes_eq_some.mp complete
      have grown : PortHandlerLoopback.Grown
          (controller.bindPair notification.pdrs.deviceId pair inside) result.1 := by
        rw [attempted]
        exact attempt_grown
      constructor
      · intro undisturbed handler serving
        refine ⟨ring, ?_⟩
        rintro ⟨odd, _⟩
        have same : pair = handler.val := by omega
        have kept := (undisturbed.handlers handler serving).1
        have rebound : ((controller.portHandler.set pair result.1.handler inside).get handler).vid =
            notification.pdrs.deviceId := by
          simp only [get_set, same, if_true]
          exact grown.vid
        exact different (rebound.symm.trans (kept.trans serving.1))
      · intro spares
        refine ⟨storeRing_other different (2 * pair + 1), ?_⟩
        intro handler serving
        have apart : pair ≠ handler.val := by
          intro same
          refine (spares handler serving).2 ⟨?_, enabled, rings, table, ?_⟩
          · rw [named, same]
          · rw [← same]
            exact partner
        have silent : result.2.status handler = none := by
          rw [attempted]
          exact status_attempt_of_ne apart
        have stays : Running (calls ++ [result.2]) handler := by
          rw [Running, latest_concat_of_none calls silent]
          exact serving.2
        simp only [get_set, if_neg apart]
        exact ⟨trivial, trivial, trivial, stays⟩

end

/-- In every reachable state a notification about one device leaves another device alone
exactly when it spares the handlers that run for that device. -/
theorem isolation_iff (settings : HandlerSettings) {history : List Notification}
    {controller : PortControllerLoopback} {calls : List HandlerCall}
    (reached : (machine settings).run initial history = some (controller, calls))
    {notification : Notification} (valid : notification.pdrs.WellFormed) {deviceId : Int}
    (different : notification.pdrs.deviceId ≠ deviceId) :
    ∃ next later, processNotification settings controller notification = some (next, later) ∧
      (Undisturbed controller calls next later deviceId ↔
        Spares controller calls notification.pdrs deviceId) := by
  have sized := sized_run sized_initial reached
  obtain ⟨next, later, stepped⟩ := step_defined sized valid
  exact ⟨next, later, stepped, (effect_of_step sized stepped).undisturbed_iff different⟩

/-- A device is present from its first ring notification to its destroy. -/
def presence (deviceId : Int) (notification : Notification) : Option Bool :=
  if notification.pdrs.deviceId = deviceId then some (notification.pdrs.metaCode != 1) else none

/-- Device 0 has its first ring pair served, and device 1 has announced itself. -/
def twoDevices : List Notification :=
  [ringNotification 0 0 1, ringNotification 0 1 1, ringNotification 1 0 1]

/-- The destroy of device 1 stops the handler of device 0. -/
theorem destroy_stops_other_device :
    ¬ ∀ (settings : HandlerSettings) (history : List Notification) (controller : PortControllerLoopback)
        (calls : List HandlerCall) (notification : Notification) (deviceId : Int),
      (machine settings).run initial history = some (controller, calls) → notification.pdrs.WellFormed →
      notification.pdrs.deviceId ≠ deviceId → latest (presence deviceId) history = some true →
      ∃ next later, processNotification settings controller notification = some (next, later) ∧
        Undisturbed controller calls next later deviceId := by
  intro claimed
  obtain ⟨controller, calls, ran⟩ : ∃ controller calls,
      (machine loopbackSettings).run initial twoDevices = some (controller, calls) :=
    run_defined sized_initial (by decide)
  have served : ((machine loopbackSettings).run initial twoDevices).map
      (fun result => ((result.1.portHandler.get 0).vid, decide (Running result.2 0))) =
      some (0, true) := by decide
  rw [ran, Option.map_some, Option.some.injEq, Prod.mk.injEq, decide_eq_true_eq] at served
  obtain ⟨next, later, stepped, undisturbed⟩ := claimed loopbackSettings twoDevices controller calls
    (destroyNotification 1) 0 ran (by decide) (by decide) (by decide)
  have kept := undisturbed.handlers 0 served
  have stopped : some controller.stopAll = some (next, later) := by
    have gone : (destroyNotification 1).pdrs.metaCode = 1 := rfl
    rw [processNotification, if_pos gone] at stepped
    exact stepped
  obtain ⟨_, rfl⟩ := Prod.mk.inj (Option.some.inj stopped)
  exact not_running_stopAll controller calls (by decide) kept.2.2.2

/-- After the three notifications a ring of device 1 leaves device 0 undisturbed. -/
theorem isolation_two_devices :
    ∃ controller calls, (machine loopbackSettings).run initial twoDevices = some (controller, calls) ∧
      ∃ next later, processNotification loopbackSettings controller (ringNotification 1 2 1) =
          some (next, later) ∧ Undisturbed controller calls next later 0 := by
  have spared : ((machine loopbackSettings).run initial twoDevices).map (fun result =>
      decide (Spares result.1 result.2 (ringNotification 1 2 1).pdrs 0)) = some true := by decide
  obtain ⟨⟨controller, calls⟩, ran, spares⟩ := Option.map_eq_some_iff.mp spared
  have valid : (ringNotification 1 2 1).pdrs.WellFormed := by decide
  have different : (ringNotification 1 2 1).pdrs.deviceId ≠ 0 := by decide
  obtain ⟨next, later, stepped, exact⟩ := isolation_iff loopbackSettings ran valid different
  exact ⟨controller, calls, ran, next, later, stepped, exact.mpr (of_decide_eq_true spares)⟩

end PortControllerLoopback

end Vtb

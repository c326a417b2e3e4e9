import Vtb.Construction.LoopbackSystem
import Vtb.Construction.Main
import Vtb.Proof.Controller.Running
import Vtb.Proof.System.Forwarding

namespace Vtb
open Library

/-- A ring change names a ring that the tables of the controller hold. -/
def Callback.NamesTableRing : Callback → Prop
  | .vringStateChanged _ queueId _ => queueId.toNat < 16
  | _ => True

instance : ∀ callback : Callback, Decidable callback.NamesTableRing
  | .vringStateChanged _ _ _ => inferInstanceAs (Decidable (_ < _))
  | .newDevice _ _ => inferInstanceAs (Decidable True)
  | .destroyDevice _ => inferInstanceAs (Decidable True)

/-- The controller is defined on a sequence of notifications exactly when each of them is well formed. -/
theorem PortControllerLoopback.run_defined_iff (settings : HandlerSettings) {history : List Notification} :
    (∃ final calls, (machine settings).run initial history = some (final, calls)) ↔
      ∀ notification ∈ history, notification.pdrs.WellFormed := by
  have exact : (∃ final calls, (machine settings).run initial history = some (final, calls)) ↔
      Admits (fun _ (notification : Notification) => notification.pdrs.WellFormed) history := by
    apply (machine settings).run_defined_iff (fun _ state => state.Sized) sized_initial
    · intro past state notification next calls sized stepped
      exact (effect_of_step sized stepped).sized sized
    · intro past state notification sized
      constructor
      · intro ⟨next, calls, stepped⟩ ring
        obtain ⟨qid, named, inside⟩ := qid_inside_of_defined sized ring stepped
        have small : qid < 16 := inside
        omega
      · exact step_defined sized
  rw [exact]
  constructor
  · intro admitted notification member
    obtain ⟨past, rest, split⟩ := List.append_of_mem member
    exact admitted past notification rest split
  · rintro valid past notification rest rfl
    exact valid notification (by simp)

/-- The packets of a callback are well formed exactly when the callback names a ring of the tables. -/
theorem Callback.packets_wellFormed_iff (portCntr : Int) (callback : Callback) :
    (∀ packet ∈ callback.packets portCntr, packet.WellFormed) ↔ callback.NamesTableRing := by
  cases callback with
  | newDevice vid vringNum => simp [packets, NamesTableRing, PortDeviceRingState.WellFormed]
  | destroyDevice vid => simp [packets, NamesTableRing, PortDeviceRingState.WellFormed]
  | vringStateChanged vid queueId enable =>
      have guard : queueId ≥ 2 ↔ 2 ≤ queueId.toNat := UInt16.le_iff_toNat_le
      simp only [packets, NamesTableRing, guard]
      split
      · simp [PortDeviceRingState.WellFormed]
      · next low =>
          have small : queueId.toNat < 16 := by omega
          simp [small]

/-- Only mode Loopback gives the loopback controller. -/
theorem createController_eq_loopback (mode : String) :
    createController mode = some .loopback ↔ mode = "Loopback" := by
  unfold createController
  split_ifs <;> simp [*]

namespace VhostController

/-- A callback that goes on keeps the mode and sends its packets, whatever it leaves in the port map. -/
theorem carryOn_sent (controller : VhostController) (callback : Callback) (left : PortTable) :
    (controller.carryOn callback left).1.mode = controller.mode ∧
      (controller.carryOn callback left).2 = (controller.notified callback).2 := by
  cases handled : controller.handle callback with
  | none => simp [carryOn, handled]
  | some after =>
      obtain ⟨mode, _, packets⟩ := handle_notified handled
      rw [notified_mode] at mode
      simp only [carryOn, handled]
      exact ⟨mode, packets⟩

/-- Nothing stops the vhost side. -/
theorem overrun_defined (controller : VhostController) (inputs : List (Callback × PortTable)) :
    ∃ last sent, overrunMachine.run controller inputs = some (last, sent) := by
  induction inputs generalizing controller with
  | nil => exact ⟨controller, [], rfl⟩
  | cons input rest ih =>
      obtain ⟨last, sent, ran⟩ := ih (controller.carryOn input.1 input.2).1
      exact ⟨last, _, overrunMachine.run_cons_eq_some.mpr ⟨_, _, sent, rfl, ran, rfl⟩⟩

/-- The packets of a vhost side in mode Loopback are well formed exactly when its callbacks name rings
of the tables. -/
theorem overrun_wellFormed_iff {parser : CmdlineParser} (loopback : parser.get "-m" = "Loopback")
    {inputs : List (Callback × PortTable)} {controller : VhostController} {sent : List PortDeviceRingState}
    (ran : overrunMachine.run (create (ConfigManager.initial parser)) inputs = some (controller, sent)) :
    (∀ packet ∈ sent, packet.WellFormed) ↔ ∀ callback ∈ inputs.map Prod.fst, callback.NamesTableRing := by
  have both := overrunMachine.run_history
    (fun past state emitted => state.mode = "Loopback" ∧
      ((∀ packet ∈ emitted, packet.WellFormed) ↔ ∀ callback ∈ past.map Prod.fst, callback.NamesTableRing))
    ⟨loopback, by simp⟩
    (by
      intro past state emitted input next later _ ⟨mode, same⟩ stepped
      have carried : state.carryOn input.1 input.2 = (next, later) := Option.some.inj stepped
      obtain ⟨kept, packets⟩ : next.mode = state.mode ∧ later = input.1.packets state.portCntr := by
        have both := state.carryOn_sent input.1 input.2
        rwa [carried, notified_packets (Or.inl mode)] at both
      apply And.intro (kept.trans mode)
      rw [List.forall_mem_append, same, packets, input.1.packets_wellFormed_iff, List.map_append,
        List.forall_mem_append, List.map_singleton, List.forall_mem_singleton])
    ran
  exact both.2

end VhostController

namespace LoopbackSystem

/-- When the mode gives the loopback controller, then after every interleaving of a prefix of the callbacks
with deliveries the next delivery is defined. The vhost side goes on behind its own overruns,
whatever they leave in its port map. -/
def DeliversSafely (settings : HandlerSettings) (parser : CmdlineParser) (history : List Callback) : Prop :=
  createController (parser.get "-m") = some .loopback →
    ∀ inputs : List (Callback × PortTable), inputs.map Prod.fst = history →
      Link.DeliversSafely VhostController.overrunMachine (PortControllerLoopback.machine settings)
        Notification.mk (initial parser) inputs

/-- The controller is defined on all deliveries of some packets exactly when the packets are well formed. -/
theorem delivered_defined_iff (settings : HandlerSettings) (sent : List PortDeviceRingState) :
    (∀ delivered : List (PortDeviceRingState × CreateOutcomes), delivered.map Prod.fst = sent →
      ∃ final calls, (PortControllerLoopback.machine settings).run PortControllerLoopback.initial
        (Link.reads Notification.mk delivered) = some (final, calls)) ↔
      ∀ packet ∈ sent, packet.WellFormed := by
  simp only [PortControllerLoopback.run_defined_iff, Link.reads]
  constructor
  · intro valid packet member
    apply valid (sent.map fun packet => (packet, .granted)) (by simp [Function.comp_def])
      ⟨packet, .granted⟩
    exact List.mem_map.mpr ⟨(packet, .granted), List.mem_map_of_mem member, rfl⟩
  · rintro valid delivered rfl notification member
    obtain ⟨read, inside, rfl⟩ := List.mem_map.mp member
    exact valid read.1 (List.mem_map_of_mem inside)

/-- The controller stays inside its tables and handlers on every interleaving of the callbacks with deliveries
exactly when, in mode Loopback, no ring change names a ring behind the tables. -/
theorem delivers_safely_iff (settings : HandlerSettings) (parser : CmdlineParser) (history : List Callback) :
    DeliversSafely settings parser history ↔
      (parser.get "-m" = "Loopback" → ∀ callback ∈ history, callback.NamesTableRing) := by
  have safe (inputs : List (Callback × PortTable)) :
      Link.DeliversSafely VhostController.overrunMachine (PortControllerLoopback.machine settings)
          Notification.mk (initial parser) inputs ↔
        ∀ (past : List (Callback × PortTable)) (last : VhostController) (sent : List PortDeviceRingState),
          past <+: inputs → VhostController.overrunMachine.run (initial parser).sender past =
            some (last, sent) → ∀ packet ∈ sent, packet.WellFormed := by
    simp only [← delivered_defined_iff settings]
    have quiet : (initial parser).inFlight = [] := rfl
    exact Link.deliversSafely_iff quiet
  simp only [DeliversSafely, createController_eq_loopback, safe]
  refine imp_congr_right fun loopback => ?_
  constructor
  · intro received
    have whole : (history.map fun callback => (callback, (∅ : PortTable))).map Prod.fst = history := by
      simp [Function.comp_def]
    obtain ⟨last, sent, ran⟩ := VhostController.overrun_defined (initial parser).sender
      (history.map fun callback => (callback, ∅))
    rw [← whole]
    exact (VhostController.overrun_wellFormed_iff loopback ran).mp
      (received _ whole _ last sent (List.prefix_refl _) ran)
  · rintro inTable inputs rfl past last sent within ran
    apply (VhostController.overrun_wellFormed_iff loopback ran).mpr
    intro callback member
    exact inTable callback ((within.map Prod.fst).subset member)

/-- A device with eight pairs and one more ring reports a change of its last ring. -/
def ringBehindTable : List Callback := [.newDevice 0 17, .vringStateChanged 0 16 1]

/-- The controller writes behind the table of the device. -/
theorem not_deliversSafely_ringBehindTable :
    ¬ ∀ (settings : HandlerSettings) (parser : CmdlineParser) (history : List Callback),
      parser.get "-m" = "Loopback" → DeliversSafely settings parser history := by
  intro every
  have undefined : ((overrunMachine PortControllerLoopback.loopbackSettings).run
      (initial ConfigManager.arguments) [.send (.newDevice 0 17, ∅), .send (.vringStateChanged 0 16 1, ∅),
        .deliver .granted, .deliver .granted]).map (fun result =>
          ((overrunMachine PortControllerLoopback.loopbackSettings).step result.1 (.deliver .granted)).isNone) =
      some true := by decide
  obtain ⟨⟨final, outputs⟩, ran, none⟩ := Option.map_eq_some_iff.mp undefined
  obtain ⟨next, later, stepped⟩ := every PortControllerLoopback.loopbackSettings ConfigManager.arguments
    ringBehindTable (by decide) (by decide) [(.newDevice 0 17, ∅), (.vringStateChanged 0 16 1, ∅)] rfl
    _ final outputs (List.prefix_refl _) ran .granted
  have defined : (overrunMachine PortControllerLoopback.loopbackSettings).step final (.deliver .granted) =
    some (next, later) := stepped
  simp [defined] at none

end LoopbackSystem

end Vtb

import Vtb.Construction.LoopbackSystem
import Vtb.Proof.Controller.Running
import Vtb.Proof.System.Forwarding

namespace Vtb
open Library
open PortControllerLoopback (RingEnabled ringView ringEnabled_run sized_initial loopbackSettings)

namespace ConfigManager

/-- The port map records the ring of a device as enabled. -/
def RingEnabled (config : ConfigManager) (vid : Int) (ring : Nat) : Prop :=
  (config.pmap[vid]?).bind (fun pm => pm.ringFlag ring) = some true

instance (config : ConfigManager) (vid : Int) (ring : Nat) : Decidable (config.RingEnabled vid ring) :=
  inferInstanceAs (Decidable (_ = _))

end ConfigManager

/-- The port map enables a ring exactly when the last callback about it enabled it. -/
theorem Tracked.ringEnabled_iff {history : List Callback} {controller : VhostController}
    (tracked : Tracked history controller) {vid vringNum : Int}
    (live : vringCount history vid = some vringNum) {ring : Nat} (inside : (ring : Int) < vringNum) :
    controller.config.RingEnabled vid ring ↔
      latest (Callback.ringState vid ring) history = some true := by
  obtain ⟨pm, pairs, found, count, records⟩ := tracked.present vid vringNum live
  rw [ConfigManager.RingEnabled, found, Option.bind_some, records.flags ring (by omega)]

namespace LoopbackSystem

/-- The callbacks of a run in their order. -/
abbrev callbacks (events : List LoopbackEvent) : List Callback := LinkEvent.inputs events

/-- A report that both sides read alike. The controller hears nothing about rings 0 and 1 and keeps them enabled,
and of a higher ring it takes the value 1 for enabled, where `set_queue_state` takes every value but 0. -/
def ReadAlike (ring : Nat) (report : Option Int) : Prop :=
  ∀ enable ∈ report, if ring < 2 then enable ≠ 0 else enable = 0 ∨ enable = 1

/-- The two views of the rings of the live devices: rings 0 and 1 of the controller stay enabled,
and the views of a ring agree exactly when both sides read its last report, if there is one, alike. -/
def ViewsAgree (history : List Callback) (system : LoopbackSystem) : Prop :=
  ∀ vid vringNum, vringCount history vid = some vringNum → ∀ ring : Nat, (ring : Int) < vringNum →
    (ring < 2 → RingEnabled system.receiver.pmap vid ring) ∧
    ((RingEnabled system.receiver.pmap vid ring ↔ system.sender.config.RingEnabled vid ring) ↔
      ReadAlike ring (latest (Callback.reported vid ring) history))

/-- A quiet link has given each ring of the controller the value that was forwarded last. -/
theorem ringEnabled_of_quiet {settings : HandlerSettings} {parser : CmdlineParser}
    (loopback : parser.get "-m" = "Loopback") {events : List LoopbackEvent} {final : LoopbackSystem}
    {calls : List HandlerCall}
    (ran : (machine settings).run (initial parser) events = some (final, calls))
    (quiet : final.inFlight = []) (vid : Int) (ring : Nat) :
    RingEnabled final.receiver.pmap vid ring ↔
      latest (Callback.forwarded vid ring) (callbacks events) = some 1 := by
  obtain ⟨sent, delivered, sender, receiver, conserved⟩ := Link.ran_of_run ran
  have all : sent = delivered.map Prod.fst := by
    rw [quiet, List.append_nil] at conserved
    exact conserved
  rw [ringEnabled_run receiver, ← latest_sent loopback sender, all, latest_map, Link.reads, latest_map]
  rfl

/-- Every interleaving of the callbacks of rte_vhost with deliveries is defined, and whenever no packet
is in flight the two views agree. -/
theorem ring_views_agree (settings : HandlerSettings) (parser : CmdlineParser)
    (loopback : parser.get "-m" = "Loopback") {events : List LoopbackEvent}
    (calls : Admits rteVhostCalls (callbacks events))
    (fresh : Admits vidIsPortNumber (callbacks events))
    (rings : Admits changesOwnRing (callbacks events)) :
    ∃ final outputs, (machine settings).run (initial parser) events = some (final, outputs) ∧
      (final.inFlight = [] → ViewsAgree (callbacks events) final) := by
  obtain ⟨state, sent, handled, tracked⟩ := tracked_run parser calls fresh
  have received : ∀ delivered : List (PortDeviceRingState × CreateOutcomes),
      (∀ read ∈ delivered, read.1.WellFormed) →
      ∃ last outputs, (PortControllerLoopback.machine settings).run (initial parser).receiver
        (Link.reads Notification.mk delivered) = some (last, outputs) := by
    intro delivered valid
    apply PortControllerLoopback.run_defined sized_initial
    intro notification member
    obtain ⟨read, inside, rfl⟩ := List.mem_map.mp member
    exact valid read inside
  obtain ⟨final, outputs, ran⟩ := Link.run_defined received
    (by simp [initial]) handled (sent_wellFormed loopback calls rings handled)
  refine ⟨final, outputs, ran, ?_⟩
  intro quiet vid vringNum live ring inside
  obtain ⟨_, _, sender, _, _⟩ := Link.ran_of_run ran
  obtain ⟨same, _⟩ := Prod.mk.inj (Option.some.inj (sender.symm.trans handled))
  have controllerView := ringEnabled_of_quiet loopback ran quiet vid ring
  rw [controllerView, same, tracked.ringEnabled_iff live inside, ringState_eq_reported calls fresh live ring]
  refine ⟨fun low => forwarded_first_pair live low, ?_⟩
  by_cases low : ring < 2
  · rw [forwarded_first_pair live low]
    cases last : latest (Callback.reported vid ring) (callbacks events) with
    | none => simp [ReadAlike, low]
    | some enable => simp [ReadAlike, low]
  · rw [forwarded_eq_reported (Nat.le_of_not_lt low)]
    cases last : latest (Callback.reported vid ring) (callbacks events) with
    | none => simp [ReadAlike, low]
    | some enable =>
        have alike : ReadAlike ring (some enable) ↔ (enable = 0 ∨ enable = 1) := by simp [ReadAlike, low]
        rw [alike, Option.map_some, Option.getD_some, Option.some.injEq, Option.some.injEq, bne_iff_ne]
        omega

/-- Every quiet state has the same view of every ring from `first` on. -/
def EveryRingAgrees (first : Nat) : Prop :=
  ∀ (settings : HandlerSettings) (parser : CmdlineParser) (events : List LoopbackEvent)
    (final : LoopbackSystem) (outputs : List HandlerCall),
    parser.get "-m" = "Loopback" → Admits rteVhostCalls (callbacks events) →
    Admits vidIsPortNumber (callbacks events) → Admits changesOwnRing (callbacks events) →
    (machine settings).run (initial parser) events = some (final, outputs) → final.inFlight = [] →
    ∀ vid vringNum, vringCount (callbacks events) vid = some vringNum → ∀ ring : Nat, first ≤ ring →
      (ring : Int) < vringNum →
      (RingEnabled final.receiver.pmap vid ring ↔ final.sender.config.RingEnabled vid ring)

/-- A device is connected, its ring 0 is disabled, and both packets are delivered. -/
def disabledFirstRing : List LoopbackEvent :=
  [.send (.newDevice 0 2), .send (.vringStateChanged 0 0 0), .deliver .granted, .deliver .granted]

/-- A device is connected, its ring 2 is reported with the value 2, and all packets are delivered. -/
def oddReport : List LoopbackEvent :=
  [.send (.newDevice 0 4), .send (.vringStateChanged 0 2 2), .deliver .granted, .deliver .granted,
    .deliver .granted]

/-- The disable of ring 0 does not reach the controller, and a report that is neither 0 nor 1
counts as enabled on one side only. -/
theorem ring_views_differ : ¬ EveryRingAgrees 0 ∧ ¬ EveryRingAgrees 2 := by
  constructor
  · intro claimed
    have seen : ((machine loopbackSettings).run (initial ConfigManager.arguments) disabledFirstRing).map
        (fun result => (result.1.inFlight, decide (RingEnabled result.1.receiver.pmap 0 0),
          decide (result.1.sender.config.RingEnabled 0 0))) = some ([], true, false) := by decide
    obtain ⟨⟨final, outputs⟩, ran, values⟩ := Option.map_eq_some_iff.mp seen
    simp only [Prod.mk.injEq, decide_eq_true_eq, decide_eq_false_iff_not] at values
    obtain ⟨quiet, controllerView, configView⟩ := values
    have agree := claimed loopbackSettings ConfigManager.arguments disabledFirstRing final outputs
      (by decide) (by decide) (by decide) (by decide) ran quiet 0 2 (by decide) 0 (by decide) (by decide)
    exact configView (agree.mp controllerView)
  · intro claimed
    have seen : ((machine loopbackSettings).run (initial ConfigManager.arguments) oddReport).map
        (fun result => (result.1.inFlight, decide (RingEnabled result.1.receiver.pmap 0 2),
          decide (result.1.sender.config.RingEnabled 0 2))) = some ([], false, true) := by decide
    obtain ⟨⟨final, outputs⟩, ran, values⟩ := Option.map_eq_some_iff.mp seen
    simp only [Prod.mk.injEq, decide_eq_true_eq, decide_eq_false_iff_not] at values
    obtain ⟨quiet, controllerView, configView⟩ := values
    have agree := claimed loopbackSettings ConfigManager.arguments oddReport final outputs
      (by decide) (by decide) (by decide) (by decide) ran quiet 0 4 (by decide) 2 (by decide) (by decide)
    exact controllerView (agree.mpr configView)

/-- A device with four rings and one delivered ring change. -/
def enabledThirdRing : List LoopbackEvent :=
  [.send (.newDevice 0 4), .deliver .granted, .send (.vringStateChanged 0 2 1), .deliver .granted,
    .deliver .granted]

/-- The link is quiet after `enabledThirdRing`, and the views agree. -/
theorem ring_views_agree_third_ring :
    ∃ final outputs, (machine loopbackSettings).run (initial ConfigManager.arguments) enabledThirdRing =
        some (final, outputs) ∧
      final.inFlight = [] ∧ ViewsAgree (callbacks enabledThirdRing) final := by
  obtain ⟨final, outputs, ran, agree⟩ : ∃ final outputs,
      (machine loopbackSettings).run (initial ConfigManager.arguments) enabledThirdRing = some (final, outputs) ∧
        (final.inFlight = [] → ViewsAgree (callbacks enabledThirdRing) final) :=
    ring_views_agree loopbackSettings ConfigManager.arguments (by decide) (by decide) (by decide) (by decide)
  have drained : ((machine loopbackSettings).run (initial ConfigManager.arguments) enabledThirdRing).map
      (fun result => result.1.inFlight) = some [] := by decide
  have quiet : final.inFlight = [] := by simpa [ran] using drained
  exact ⟨final, outputs, ran, quiet, agree quiet⟩

end LoopbackSystem

end Vtb

import Vtb.Proof.System.Forwarding

namespace Vtb
open Library

/-- The callbacks that decide which devices are live while one callback sends its packets. -/
def whileSending (past : List Callback) (callback : Callback) : List Callback :=
  if callback.isNewDevice then past ++ [callback] else past

/-- `on_new_device` created the entry of a device under the counter that it found. -/
def FiledUnder (parser : CmdlineParser) (history : List Callback) (vid port : Int) : Prop :=
  ∃ before vringNum later, history = before ++ .newDevice vid vringNum :: later ∧
    (∀ callback ∈ later, callback.life vid = none) ∧
    ∃ controller sent, VhostController.machine.run
        (VhostController.create (ConfigManager.initial parser)) before = some (controller, sent) ∧
      port = controller.portCntr

/-- The packets that a callback sends about live devices carry the ports of these devices. -/
def NamesPorts (parser : CmdlineParser) (past : List Callback) (callback : Callback) : Prop :=
  ∀ controller sent next packets,
    VhostController.machine.run (VhostController.create (ConfigManager.initial parser)) past =
      some (controller, sent) →
    VhostController.machine.step controller callback = some (next, packets) →
    ∀ packet ∈ packets, (vringCount (whileSending past callback) packet.deviceId).isSome →
      FiledUnder parser (whileSending past callback) packet.deviceId packet.portId

/-- The callback sends no packet about a device that was connected before it. -/
def sendsNothingLater (past : List Callback) : Callback → Prop
  | .newDevice _ _ => True
  | .destroyDevice vid => vringCount past vid = none
  | .vringStateChanged vid queueId _ => vringCount past vid = none ∨ queueId < 2

instance (past : List Callback) : ∀ callback, Decidable (sendsNothingLater past callback)
  | .newDevice _ _ => inferInstanceAs (Decidable True)
  | .destroyDevice _ => inferInstanceAs (Decidable (_ = _))
  | .vringStateChanged _ _ _ => inferInstanceAs (Decidable (_ ∨ _))

/-- A new device is not live under its vid. -/
def vidsDistinct (past : List Callback) : Callback → Prop
  | .newDevice vid _ => vringCount past vid = none
  | _ => True

instance (past : List Callback) : ∀ callback, Decidable (vidsDistinct past callback)
  | .newDevice _ _ => inferInstanceAs (Decidable (_ = _))
  | .destroyDevice _ => inferInstanceAs (Decidable True)
  | .vringStateChanged _ _ _ => inferInstanceAs (Decidable True)

section
variable {parser : CmdlineParser} {history past : List Callback} {controller next : VhostController}
  {sent : List PortDeviceRingState}

/-- The modes in which the vhost controller sends packets. -/
def Sends (parser : CmdlineParser) : Prop :=
  parser.get "-m" = "Loopback" ∨ parser.get "-m" = "Back2Back"

/-- The counter is the number of devices announced so far. -/
theorem portCntr_eq (sends : Sends parser)
    (ran : VhostController.machine.run (VhostController.create (ConfigManager.initial parser)) history =
      some (controller, sent)) :
    controller.mode = parser.get "-m" ∧ controller.portCntr = announcements history := by
  apply VhostController.machine.run_history
    (fun past state _ => state.mode = parser.get "-m" ∧ state.portCntr = announcements past)
    ⟨rfl, rfl⟩ _ ran
  intro past state emitted callback next later _ held stepped
  have speaks : state.mode = "Loopback" ∨ state.mode = "Back2Back" := by
    rw [held.1]
    exact sends
  obtain ⟨mode, counter, _⟩ := handle_sent speaks stepped
  refine ⟨mode.trans held.1, ?_⟩
  rw [counter, held.2, announcements_concat]
  push_cast
  rfl

/-- The counter has moved past the port of every device that is already filed. -/
theorem FiledUnder.lt_announcements (sends : Sends parser) {vid port : Int}
    (filed : FiledUnder parser history vid port) : port < announcements history := by
  obtain ⟨before, vringNum, later, rfl, _, controller, sent, ran, rfl⟩ := filed
  rw [(portCntr_eq sends ran).2]
  simp [announcements, List.countP_append, List.countP_cons, Callback.isNewDevice]

/-- The packets of one step are those of its callback under the counter. -/
theorem namesPorts_iff_packets (sends : Sends parser) {callback : Callback}
    (ran : VhostController.machine.run (VhostController.create (ConfigManager.initial parser)) past =
      some (controller, sent)) {packets : List PortDeviceRingState}
    (stepped : VhostController.machine.step controller callback = some (next, packets)) :
    NamesPorts parser past callback ↔ ∀ packet ∈ callback.packets controller.portCntr,
      (vringCount (whileSending past callback) packet.deviceId).isSome →
        FiledUnder parser (whileSending past callback) packet.deviceId packet.portId := by
  have speaks : controller.mode = "Loopback" ∨ controller.mode = "Back2Back" := by
    rw [(portCntr_eq sends ran).1]
    exact sends
  obtain ⟨_, _, rfl⟩ := handle_sent speaks stepped
  constructor
  · intro names
    exact names controller sent next _ ran stepped
  · intro right state emitted after produced ranAgain steppedAgain
    obtain ⟨rfl, rfl⟩ := Prod.mk.inj (Option.some.inj (ran.symm.trans ranAgain))
    obtain ⟨rfl, rfl⟩ := Prod.mk.inj (Option.some.inj (stepped.symm.trans steppedAgain))
    exact right

/-- The packets of a callback name the ports of live devices exactly when the callback sends nothing
about a device that was connected before it. -/
theorem namesPorts_iff (sends : Sends parser) {callback : Callback}
    (ran : VhostController.machine.run (VhostController.create (ConfigManager.initial parser)) past =
      some (controller, sent)) {packets : List PortDeviceRingState}
    (stepped : VhostController.machine.step controller callback = some (next, packets)) :
    NamesPorts parser past callback ↔ sendsNothingLater past callback := by
  rw [namesPorts_iff_packets sends ran stepped]
  have moved : ∀ vid, ¬ FiledUnder parser past vid controller.portCntr := by
    intro vid filed
    have below := filed.lt_announcements sends
    rw [(portCntr_eq sends ran).2] at below
    exact lt_irrefl _ below
  cases callback with
  | newDevice vid vringNum =>
      have filed : FiledUnder parser (past ++ [.newDevice vid vringNum]) vid controller.portCntr :=
        ⟨past, vringNum, [], rfl, by simp, controller, sent, ran, rfl⟩
      simpa [Callback.packets, whileSending, Callback.isNewDevice, sendsNothingLater] using
        fun _ => filed
  | destroyDevice vid =>
      simp [Callback.packets, whileSending, Callback.isNewDevice, sendsNothingLater, moved]
  | vringStateChanged vid queueId enable =>
      by_cases high : queueId ≥ 2
      · have notLow : ¬ queueId < 2 := UInt16.not_lt.mpr high
        simp [Callback.packets, whileSending, Callback.isNewDevice, sendsNothingLater, moved, high, notLow]
      · have low : queueId < 2 := UInt16.not_le.mp high
        simp [Callback.packets, sendsNothingLater, high, low]

end

/-- Every packet of a run that is about a live device carries the port of the device exactly when
no callback sends a packet about a device that was connected before it. -/
theorem packets_name_ports_iff (parser : CmdlineParser) (sends : Sends parser) (history : List Callback)
    {final : VhostController} {sent : List PortDeviceRingState}
    (ran : VhostController.machine.run (VhostController.create (ConfigManager.initial parser)) history =
      some (final, sent)) :
    Admits (NamesPorts parser) history ↔ Admits sendsNothingLater history := by
  apply admits_congr
  rintro past callback rest rfl
  obtain ⟨controller, emitted, _, before, continued, _⟩ := VhostController.machine.run_append_eq_some.mp ran
  obtain ⟨next, packets, _, stepped, _, _⟩ := VhostController.machine.run_cons_eq_some.mp continued
  exact namesPorts_iff sends before stepped

/-- One device connects and disconnects. -/
def connectDisconnect : List Callback := [.newDevice 0 2, .destroyDevice 0]

/-- The packet about the disconnect carries port 1, although device 0 was filed under port 0. -/
theorem destroy_names_next_port :
    ¬ ∀ (parser : CmdlineParser) (history : List Callback), Sends parser → Admits vidsDistinct history →
      Admits (NamesPorts parser) history := by
  intro claimed
  have sends : Sends ConfigManager.arguments := Or.inl (by decide)
  have names := claimed ConfigManager.arguments connectDisconnect sends (by decide)
    [.newDevice 0 2] (.destroyDevice 0) [] rfl
  obtain ⟨controller, sent, ran⟩ : ∃ controller sent, VhostController.machine.run
      (VhostController.create (ConfigManager.initial ConfigManager.arguments)) [.newDevice 0 2] =
        some (controller, sent) := ⟨_, _, rfl⟩
  have never := (namesPorts_iff sends ran rfl).mp names
  exact absurd never (by decide)

/-- Two devices connect, and a ring of the first pair changes. -/
def connectTwice : List Callback := [.newDevice 0 2, .newDevice 5 4, .vringStateChanged 0 1 0]

/-- The packets of two connects carry ports 0 and 1. -/
theorem packets_name_ports_two_connects :
    Sends ConfigManager.arguments ∧ Admits (NamesPorts ConfigManager.arguments) connectTwice := by
  have sends : Sends ConfigManager.arguments := Or.inl (by decide)
  obtain ⟨controller, sent, ran⟩ : ∃ controller sent, VhostController.machine.run
      (VhostController.create (ConfigManager.initial ConfigManager.arguments)) connectTwice =
        some (controller, sent) := ⟨_, _, rfl⟩
  exact ⟨sends, (packets_name_ports_iff ConfigManager.arguments sends connectTwice ran).mpr (by decide)⟩

end Vtb

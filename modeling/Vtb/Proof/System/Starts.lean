import Vtb.Proof.Controller.LastWrite
import Vtb.Proof.Controller.Restart
import Vtb.Proof.System.Forwarding
import Vtb.Proof.System.IndexBounds

namespace Vtb
open Library

namespace PortControllerLoopback
section
variable {settings : HandlerSettings} {controller next final : PortControllerLoopback}
  {notification : Notification} {calls later : List HandlerCall} {history : List Notification}

/-- The history holds an enable of both rings of the pair that the call serves. -/
def EnabledIn (history : List Notification) (call : StartCall) : Prop :=
  ∃ pair < 8, call = pairCall call.vid pair ∧
    (∃ even ∈ history, ringView call.vid (2 * (pair : Int)) even = some 1) ∧
    ∃ odd ∈ history, ringView call.vid (2 * (pair : Int) + 1) odd = some 1

/-- A longer history holds the same enables. -/
theorem EnabledIn.concat {call : StartCall} (enabled : EnabledIn history call) (notification : Notification) :
    EnabledIn (history ++ [notification]) call := by
  obtain ⟨pair, inside, own, ⟨even, evenMember, evenOn⟩, odd, oddMember, oddOn⟩ := enabled
  exact ⟨pair, inside, own, ⟨even, List.mem_append_left _ evenMember, evenOn⟩, odd,
    List.mem_append_left _ oddMember, oddOn⟩

/-- A ring that is enabled in the table was enabled by a notification. -/
theorem exists_enable (ran : (machine settings).run initial history = some (final, calls)) {deviceId : Int}
    {rings : List Int} {ring : Nat} (table : final.pmap[deviceId]? = some rings) (on : rings[ring]? = some 1) :
    ∃ notification ∈ history, ringView deviceId ring notification = some 1 := by
  have enabled : RingEnabled final.pmap deviceId ring := by
    rw [RingEnabled, table, Option.bind_some, readAt_natCast, on]
  obtain ⟨before, notification, after, rfl, own, _⟩ := exists_of_latest ((ringEnabled_run ran _ _).mp enabled)
  exact ⟨notification, by simp, own⟩

/-- Every call of `start` in a run follows an enable of both rings of its pair. -/
theorem enabledIn_run (ran : (machine settings).run initial history = some (final, calls)) :
    ∀ call ∈ calls.filterMap HandlerCall.startCall, EnabledIn history call := by
  have kept := (machine settings).run_history
    (fun past state emitted => state.Sized ∧
      ∀ call ∈ emitted.filterMap HandlerCall.startCall, EnabledIn past call)
    ⟨sized_initial, by simp⟩
    (by
      intro past state emitted input after more reached held stepped
      obtain ⟨sized, earlier⟩ := held
      have effect := effect_of_step sized stepped
      apply And.intro (effect.sized sized)
      intro call made
      rw [List.filterMap_append, List.mem_append] at made
      rcases made with before | now
      · exact (earlier call before).concat input
      · have sound := effect.soundStart sized now
        obtain ⟨rings, table, even, odd⟩ := sound.enabled
        rw [← sound.vid] at table
        have whole := (machine settings).run_concat_of_step reached stepped
        have evenOn := exists_enable whole table even
        have oddOn := exists_enable whole table odd
        push_cast at evenOn oddOn
        refine ⟨call.handler, sound.handler, ?_, evenOn, oddOn⟩
        obtain ⟨handler, vid, rxqid, txqid⟩ := call
        rw [pairCall, StartCall.mk.injEq]
        exact ⟨rfl, rfl, sound.rxqid, sound.txqid⟩)
    ran
  exact kept.2

end
end PortControllerLoopback

section
variable {controller : VhostController} {history : List Callback} {sent : List PortDeviceRingState}

/-- A packet of a callback enables only a ring that the callback forwards as enabled. -/
theorem forwarded_of_mem_packets {callback : Callback} {portCntr vid : Int} {ring : Nat}
    {packet : PortDeviceRingState} (member : packet ∈ callback.packets portCntr)
    (on : packet.ringValue vid ring = some 1) : callback.forwarded vid ring = some 1 := by
  cases callback with
  | newDevice other vringNum =>
      simp only [Callback.packets, List.mem_cons, List.not_mem_nil, or_false] at member
      rcases member with rfl | rfl
      · simp only [PortDeviceRingState.ringValue, Option.ite_none_right_eq_some] at on
        have low : ring = 0 := by omega
        simp [Callback.forwarded, on.1.2.1, low]
      · simp only [PortDeviceRingState.ringValue, Option.ite_none_right_eq_some] at on
        have low : ring = 1 := by omega
        simp [Callback.forwarded, on.1.2.1, low]
  | destroyDevice other =>
      rw [List.mem_singleton.mp member] at on
      simp [PortDeviceRingState.ringValue] at on
  | vringStateChanged other queueId enable =>
      rw [Callback.packets] at member
      split at member
      · next high =>
          have above : 2 ≤ queueId.toNat := UInt16.le_iff_toNat_le.mp high
          rw [List.mem_singleton.mp member] at on
          simp only [PortDeviceRingState.ringValue, Option.ite_none_right_eq_some] at on
          have own : queueId.toNat = ring := by omega
          have aimed : 2 ≤ ring := by omega
          have value : enable = 1 := Option.some.inj on.2
          simp [Callback.forwarded, on.1.2.1, own, aimed, value]
      · simp at member

/-- Every packet of a run is a packet of one of its callbacks. -/
theorem exists_callback {config : ConfigManager}
    (ran : VhostController.machine.run (VhostController.create config) history = some (controller, sent)) :
    ∀ packet ∈ sent, ∃ callback ∈ history, ∃ portCntr, packet ∈ callback.packets portCntr := by
  apply VhostController.machine.run_history
    (fun past _ emitted => ∀ packet ∈ emitted, ∃ callback ∈ past, ∃ portCntr, packet ∈ callback.packets portCntr)
    (by simp)
    _ ran
  intro past state emitted callback after more _ held stepped packet member
  rcases List.mem_append.mp member with before | now
  · obtain ⟨earlier, inside, portCntr, own⟩ := held packet before
    exact ⟨earlier, List.mem_append_left _ inside, portCntr, own⟩
  · by_cases sends : state.mode = "Loopback" ∨ state.mode = "Back2Back"
    · obtain ⟨_, _, rfl⟩ := handle_sent sends stepped
      exact ⟨callback, by simp, state.portCntr, now⟩
    · -- in the other modes the callback sends nothing
      obtain ⟨_, _, rfl⟩ := handle_notified stepped
      simp [notified_silent sends] at now

end

namespace LoopbackSystem
open PortControllerLoopback (EnabledIn enabledIn_run refusedAfter_run loopbackSettings pairCall ringView)

/-- The callbacks enabled both rings of the pair that a call of `start` serves.
A new device stands for its rings 0 and 1, and every other ring needs its own change. -/
def Caused (callbacks : List Callback) (call : StartCall) : Prop :=
  ∃ pair < 8, call = pairCall call.vid pair ∧
    (∃ even ∈ callbacks, even.forwarded call.vid (2 * pair) = some 1) ∧
    ∃ odd ∈ callbacks, odd.forwarded call.vid (2 * pair + 1) = some 1

section
variable {settings : HandlerSettings} {parser : CmdlineParser} {events : List LoopbackEvent}
  {final : LoopbackSystem} {calls : List HandlerCall}

/-- A notification of a run that enables a ring comes from a callback that forwards the enable. -/
theorem exists_forwarded {sender : VhostController} {sent rest : List PortDeviceRingState}
    {delivered : List (PortDeviceRingState × CreateOutcomes)}
    (sends : VhostController.machine.run (initial parser).sender (LinkEvent.inputs events) = some (sender, sent))
    (conserved : (initial parser).inFlight ++ sent = delivered.map Prod.fst ++ rest) {vid : Int} {ring : Nat}
    {notification : Notification} (member : notification ∈ Link.reads Notification.mk delivered)
    (on : ringView vid ring notification = some 1) :
    ∃ callback ∈ LinkEvent.inputs events, callback.forwarded vid ring = some 1 := by
  obtain ⟨read, inside, rfl⟩ := List.mem_map.mp member
  have packet : read.1 ∈ sent := by
    rw [show sent = delivered.map Prod.fst ++ rest from conserved]
    exact List.mem_append_left _ (List.mem_map_of_mem inside)
  obtain ⟨callback, called, portCntr, own⟩ := exists_callback sends read.1 packet
  exact ⟨callback, called, forwarded_of_mem_packets own on⟩

/-- Both pairs of a device are enabled, the second one from its odd ring on. -/
def enabledPairs : List LoopbackEvent :=
  [.send (.newDevice 0 4), .send (.vringStateChanged 0 2 1), .deliver .granted, .deliver .granted,
    .send (.vringStateChanged 0 3 1), .deliver .granted, .deliver .granted]

/-- In every interleaving of callbacks and deliveries, a handler is started at most once for each ring pair
of each vid. Every later start for the pair is refused, also after the rings were disabled or the device
was destroyed and connected again, because its transmit pool is never freed. -/
theorem pairs_start_once (settings : HandlerSettings) (parser : CmdlineParser)
    (ran : (machine settings).run (initial parser) events = some (final, calls)) :
    calls.Pairwise HandlerCall.RefusedAfter := by
  obtain ⟨_, _, _, receives, _⟩ := Link.ran_of_run ran
  exact refusedAfter_run receives

/-- A device is connected, destroyed and connected again under its vid. -/
def reconnected : List LoopbackEvent :=
  [.send (.newDevice 0 2), .deliver .granted, .deliver .granted, .send (.destroyDevice 0), .deliver .granted,
    .send (.newDevice 0 2), .deliver .granted, .deliver .granted]

/-- The second start of the reconnected device is refused. -/
theorem pairs_start_once_reconnected :
    ∃ final calls, (machine loopbackSettings).run (initial ConfigManager.arguments) reconnected =
        some (final, calls) ∧
      calls = .started (pairCall 0 0) [.txRx] :: (List.range 8).map HandlerCall.stopped ++
        [.failed (pairCall 0 0) (PortHandlerLoopback.poolExists 0 1)] ∧
      calls.Pairwise HandlerCall.RefusedAfter := by
  have outcome : ((machine loopbackSettings).run (initial ConfigManager.arguments) reconnected).map Prod.snd =
      some (.started (pairCall 0 0) [.txRx] :: (List.range 8).map HandlerCall.stopped ++
        [.failed (pairCall 0 0) (PortHandlerLoopback.poolExists 0 1)]) := by decide +kernel
  obtain ⟨⟨final, calls⟩, ran, made⟩ := Option.map_eq_some_iff.mp outcome
  exact ⟨final, calls, ran, made, pairs_start_once _ _ ran⟩

end

end LoopbackSystem

end Vtb

import Vtb.Construction.CallbackSteps
import Vtb.Proof.PortMap.Projection

namespace Vtb
open Library

namespace VhostController

/-- The statements of a callback one after the other are the callback. -/
theorem script_run (controller : VhostController) (callback : Callback) :
    statements.run controller callback.script = controller.handle callback := by
  cases callback with
  | newDevice vid vringNum =>
      simp only [Callback.script, handle, onNewDevice, Machine.run, statements, perform]
      cases created : controller.config.initVhostDevice controller.portCntr vid (vringNum.tdiv 2) with
      | none => rfl
      | some filed =>
          cases first : filed.setQueueState vid 0 true with
          | none => simp [first]
          | some even =>
              cases second : even.setQueueState vid 1 true with
              | none => simp [first, second]
              | some odd => simp [first, second, notifyPortController]
  | destroyDevice vid =>
      simp [Callback.script, handle, onDestroyDevice, Machine.run, statements, perform]
  | vringStateChanged vid queueId enable =>
      simp only [Callback.script, handle, onVringStateChanged, Machine.run, statements, perform]
      cases changed : controller.config.setQueueState vid queueId (enable != 0) with
      | none => rfl
      | some config =>
          by_cases high : queueId ≥ 2
          · simp [high, Machine.run, perform, notifyPortController]
          · simp [high]

/-- No statement changes the arguments of the command line. -/
theorem perform_arguments {controller next : VhostController} {statement : CallbackStatement}
    {sent : List PortDeviceRingState} (performed : controller.perform statement = some (next, sent)) :
    next.config.parser = controller.config.parser := by
  cases statement with
  | initVhostDevice vid nofPairs =>
      obtain ⟨config, created, same⟩ := Option.map_eq_some_iff.mp performed
      obtain ⟨rfl, _⟩ := Prod.mk.inj same
      have operated : controller.config.operate (.initVhostDevice _ _ _) = some config := created
      exact ConfigManager.operate_arguments operated
  | setQueueState vid queueId enable =>
      obtain ⟨config, changed, same⟩ := Option.map_eq_some_iff.mp performed
      obtain ⟨rfl, _⟩ := Prod.mk.inj same
      have operated : controller.config.operate (.setQueueState _ _ _) = some config := changed
      exact ConfigManager.operate_arguments operated
  | clearDevice vid =>
      obtain ⟨rfl, _⟩ := Prod.mk.inj (Option.some.inj performed)
      rfl
  | notifyPortController metaCode vid queueId enable =>
      obtain ⟨rfl, _⟩ := Prod.mk.inj (Option.some.inj performed)
      rfl
  | countPort =>
      obtain ⟨rfl, _⟩ := Prod.mk.inj (Option.some.inj performed)
      rfl

end VhostController

namespace CallbackSystem

/-- The callbacks that rte_vhost began, in their order. -/
def callbacks (events : List CallbackEvent) : List Callback :=
  events.filterMap fun event =>
    match event with
    | .call callback => some callback
    | _ => none

/-- The answers of DPDK to the packets that the epoll worker processed, in their order. -/
def answers (events : List CallbackEvent) : List CreateOutcomes :=
  events.filterMap fun event =>
    match event with
    | .process outcomes => some outcomes
    | _ => none

/-- The threads so far, as one thread after the other: behind its remaining statements the vhost side has run
the callbacks, and the epoll worker has processed the first packets of that run. -/
structure Serial (parser : CmdlineParser) (past : List CallbackEvent) (system : CallbackSystem)
    (calls : List HandlerCall) (sent delivered : List PortDeviceRingState) : Prop where
  parsers : system.controller.config.parser = parser
  sender : ∀ last more, VhostController.statements.run system.controller system.remaining = some (last, more) →
    VhostController.machine.run (VhostController.create (ConfigManager.initial parser)) (callbacks past) =
      some (last, sent ++ more)
  conserved : sent = delivered ++ system.inFlight
  answered : delivered.length = (answers past).length
  receiver : (PortControllerLoopback.machine (ConfigManager.initial parser).handlerSettings).run
    PortControllerLoopback.initial (List.zipWith Notification.mk delivered (answers past)) =
      some (system.receiver, calls)

section
variable {parser : CmdlineParser} {past : List CallbackEvent} {system next : CallbackSystem}
  {calls later : List HandlerCall} {sent delivered : List PortDeviceRingState}

theorem serial_initial (parser : CmdlineParser) : Serial parser [] (initial parser) [] [] [] where
  parsers := rfl
  sender _ _ ran := ran
  conserved := rfl
  answered := rfl
  receiver := rfl

/-- A callback begins with all of its statements before it. -/
theorem Serial.call (serial : Serial parser past system calls sent delivered) (callback : Callback)
    (between : system.remaining = []) :
    Serial parser (past ++ [.call callback]) { system with remaining := callback.script } calls sent delivered where
  parsers := serial.parsers
  sender last more ran := by
    have before := serial.sender system.controller [] (by rw [between]; rfl)
    rw [List.append_nil] at before
    have split : callbacks (past ++ [.call callback]) = callbacks past ++ [callback] := by simp [callbacks]
    rw [split]
    rw [VhostController.script_run] at ran
    exact VhostController.machine.run_concat_of_step before ran
  conserved := serial.conserved
  answered := by simpa [answers] using serial.answered
  receiver := by simpa [answers] using serial.receiver

/-- A statement adds its packets to what was sent. -/
theorem Serial.advance (serial : Serial parser past system calls sent delivered) {statement : CallbackStatement}
    {rest : List CallbackStatement} {controller : VhostController} {packets : List PortDeviceRingState}
    (first : system.remaining = statement :: rest)
    (performed : system.controller.perform statement = some (controller, packets)) :
    Serial parser (past ++ [.advance])
      { system with controller := controller, remaining := rest, inFlight := system.inFlight ++ packets }
      calls (sent ++ packets) delivered where
  parsers := (VhostController.perform_arguments performed).trans serial.parsers
  sender last more ran := by
    have whole : VhostController.statements.run system.controller system.remaining = some (last, packets ++ more) := by
      rw [first]
      exact VhostController.statements.run_cons_eq_some.mpr ⟨controller, packets, more, performed, ran, rfl⟩
    simpa [callbacks] using serial.sender last (packets ++ more) whole
  conserved := by rw [serial.conserved, List.append_assoc]
  answered := by simpa [answers] using serial.answered
  receiver := by simpa [answers] using serial.receiver

/-- The epoll worker takes the oldest packet, and reads the settings that the process started with. -/
theorem Serial.process (serial : Serial parser past system calls sent delivered) {packet : PortDeviceRingState}
    {rest : List PortDeviceRingState} {outcomes : CreateOutcomes} {receiver : PortControllerLoopback}
    (oldest : system.inFlight = packet :: rest)
    (processed : system.receiver.processNotification system.controller.config.handlerSettings
      ⟨packet, outcomes⟩ = some (receiver, later)) :
    Serial parser (past ++ [.process outcomes]) { system with inFlight := rest, receiver := receiver }
      (calls ++ later) sent (delivered ++ [packet]) where
  parsers := serial.parsers
  sender last more ran := by simpa [callbacks] using serial.sender last more ran
  conserved := by rw [serial.conserved, oldest, List.append_assoc, List.singleton_append]
  answered := by simp [answers, serial.answered]
  receiver := by
    have settings : system.controller.config.handlerSettings = (ConfigManager.initial parser).handlerSettings := by
      rw [← serial.parsers]
      rfl
    have split : List.zipWith Notification.mk (delivered ++ [packet]) (answers (past ++ [.process outcomes])) =
        List.zipWith Notification.mk delivered (answers past) ++ [⟨packet, outcomes⟩] := by
      have more : answers (past ++ [.process outcomes]) = answers past ++ [outcomes] := by simp [answers]
      rw [more, List.zipWith_append serial.answered, List.zipWith_cons_cons, List.zipWith_nil_left]
    rw [split]
    rw [settings] at processed
    exact (PortControllerLoopback.machine _).run_concat_of_step serial.receiver processed

/-- Every step keeps the account of one thread after the other. -/
theorem Serial.step (serial : Serial parser past system calls sent delivered) {event : CallbackEvent}
    (stepped : system.step event = some (next, later)) :
    ∃ sent delivered, Serial parser (past ++ [event]) next (calls ++ later) sent delivered := by
  cases event with
  | call callback =>
      simp only [CallbackSystem.step, Option.ite_none_right_eq_some, Option.some.injEq, Prod.mk.injEq] at stepped
      obtain ⟨between, rfl, rfl⟩ := stepped
      rw [List.append_nil]
      exact ⟨sent, delivered, serial.call callback between⟩
  | advance =>
      cases first : system.remaining with
      | nil => simp [CallbackSystem.step, first] at stepped
      | cons statement rest =>
          simp only [CallbackSystem.step, first, Option.map_eq_some_iff, Prod.mk.injEq] at stepped
          obtain ⟨⟨controller, packets⟩, performed, rfl, rfl⟩ := stepped
          rw [List.append_nil]
          exact ⟨_, _, serial.advance first performed⟩
  | process outcomes =>
      cases oldest : system.inFlight with
      | nil => simp [CallbackSystem.step, oldest] at stepped
      | cons packet rest =>
          simp only [CallbackSystem.step, oldest, Option.ite_none_right_eq_some, Option.map_eq_some_iff,
            Prod.mk.injEq] at stepped
          obtain ⟨_, ⟨receiver, made⟩, processed, rfl, rfl⟩ := stepped
          exact ⟨_, _, serial.process oldest processed⟩

end

section
variable {parser : CmdlineParser} {events : List CallbackEvent} {final : CallbackSystem} {calls : List HandlerCall}

/-- However the statements of the callbacks and the packets that the epoll worker processes interleave, when the
last callback has returned and no packet is left, the vhost side is as after its callbacks one after the other,
and the controller is as after processing their packets behind that, with the same calls. -/
theorem callbacks_are_atomic (ran : machine.run (initial parser) events = some (final, calls))
    (returned : final.remaining = []) (drained : final.inFlight = []) :
    ∃ sent, VhostController.machine.run (VhostController.create (ConfigManager.initial parser)) (callbacks events) =
        some (final.controller, sent) ∧
      sent.length = (answers events).length ∧
      (PortControllerLoopback.machine (ConfigManager.initial parser).handlerSettings).run
        PortControllerLoopback.initial (List.zipWith Notification.mk sent (answers events)) =
          some (final.receiver, calls) := by
  obtain ⟨sent, delivered, serial⟩ := machine.run_history
    (fun past system emitted => ∃ sent delivered, Serial parser past system emitted sent delivered)
    ⟨[], [], serial_initial parser⟩
    (fun _ _ _ _ _ _ _ held stepped =>
      let ⟨_, _, serial⟩ := held
      serial.step stepped) ran
  have whole := serial.sender final.controller [] (by rw [returned]; rfl)
  have all : sent = delivered := by rw [serial.conserved, drained, List.append_nil]
  rw [List.append_nil] at whole
  exact ⟨sent, whole, all ▸ serial.answered, all ▸ serial.receiver⟩

end

/-- The handler of a new device starts before `on_new_device` has counted the port, and the device goes again. -/
def startedInside : List CallbackEvent :=
  [.call (.newDevice 0 2), .advance, .advance, .advance, .advance, .process .granted, .advance, .process .granted,
    .advance, .call (.destroyDevice 0), .advance, .process .granted, .advance]

/-- The interleaving `startedInside` ends as the two callbacks and then the three packets do. -/
theorem callbacks_are_atomic_started_inside :
    ∃ final calls, machine.run (initial ConfigManager.arguments) startedInside = some (final, calls) ∧
      calls = .started ⟨0, 0, 0, 1⟩ [.txRx] :: (List.range 8).map .stopped ∧
      ∃ sent, VhostController.machine.run
          (VhostController.create (ConfigManager.initial ConfigManager.arguments))
          [.newDevice 0 2, .destroyDevice 0] = some (final.controller, sent) ∧
        sent.length = 3 ∧
        (PortControllerLoopback.machine (ConfigManager.initial ConfigManager.arguments).handlerSettings).run
          PortControllerLoopback.initial (List.zipWith Notification.mk sent (List.replicate 3 .granted)) =
            some (final.receiver, calls) := by
  have outcome : (machine.run (initial ConfigManager.arguments) startedInside).map
      (fun result => (result.1.remaining, result.1.inFlight, result.2)) =
      some ([], [], .started ⟨0, 0, 0, 1⟩ [.txRx] :: (List.range 8).map .stopped) := by decide +kernel
  obtain ⟨⟨final, calls⟩, ran, same⟩ := Option.map_eq_some_iff.mp outcome
  simp only [Prod.mk.injEq] at same
  obtain ⟨returned, drained, made⟩ := same
  exact ⟨final, calls, ran, made, callbacks_are_atomic ran returned drained⟩

end CallbackSystem

end Vtb

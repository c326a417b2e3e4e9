import Vtb.Library.Latest
import Vtb.Proof.Controller.Effect
import Vtb.Proof.Controller.Start

namespace Vtb
open Library

/-- A successful start sets a handler running, and a stop ends it; a failed start changes nothing. -/
def HandlerCall.status (handler : Nat) : HandlerCall → Option Bool
  | .stopped other => if other = handler then some false else none
  | .started call _ => if call.handler = handler then some true else none
  | .failed _ _ => none

/-- A handler runs when it was started successfully and was not stopped since. -/
def Running (calls : List HandlerCall) (handler : Nat) : Prop :=
  latest (HandlerCall.status handler) calls = some true

instance (calls : List HandlerCall) (handler : Nat) : Decidable (Running calls handler) :=
  inferInstanceAs (Decidable (_ = _))

namespace PortControllerLoopback

/-- A handler that runs for a device. -/
def BoundTo (controller : PortControllerLoopback) (calls : List HandlerCall) (deviceId : Int)
    (handler : Fin 8) : Prop :=
  (controller.portHandler.get handler).vid = deviceId ∧ Running calls handler

instance (controller : PortControllerLoopback) (calls : List HandlerCall) (deviceId : Int) (handler : Fin 8) :
    Decidable (controller.BoundTo calls deviceId handler) :=
  inferInstanceAs (Decidable (_ ∧ _))

section
variable {settings : HandlerSettings} {outcomes : CreateOutcomes} {call : StartCall} {state : StartState}

/-- A guarded start reports its own call. -/
theorem attempt_event (settings : HandlerSettings) (outcomes : CreateOutcomes) (call : StartCall)
    (state : StartState) :
    (∃ workers, (attempt settings outcomes call state).2 = .started call workers) ∨
      ∃ what, (attempt settings outcomes call state).2 = .failed call what := by
  unfold attempt
  cases PortHandlerLoopback.start settings outcomes state with
  | ok workers next => exact .inl ⟨workers, rfl⟩
  | error what next => exact .inr ⟨what, rfl⟩

/-- A guarded start keeps the numbers of its handler. -/
theorem attempt_grown :
    PortHandlerLoopback.Grown state (attempt settings outcomes call state).1 := by
  have grown := PortHandlerLoopback.start_grown settings outcomes state
  unfold attempt
  cases result : PortHandlerLoopback.start settings outcomes state with
  | ok workers next =>
      rw [result] at grown
      exact grown
  | error what next =>
      rw [result] at grown
      exact grown

/-- A guarded start of one handler says nothing about another handler. -/
theorem status_attempt_of_ne {handler : Nat} (different : call.handler ≠ handler) :
    (attempt settings outcomes call state).2.status handler = none := by
  rcases attempt_event settings outcomes call state with ⟨workers, reported⟩ | ⟨what, reported⟩
  · simp [reported, HandlerCall.status, different]
  · simp [reported, HandlerCall.status]

end

/-- The destroy branch leaves no handler running. -/
theorem not_running_stopAll (controller : PortControllerLoopback) (calls : List HandlerCall)
    {handler : Nat} (inside : handler < 8) : ¬ Running (calls ++ controller.stopAll.2) handler := by
  have stopped : latest (HandlerCall.status handler) controller.stopAll.2 = some false := by
    unfold stopAll
    interval_cases handler <;> rfl
  rw [Running, latest_append, stopped]
  simp

/-- The one-thread loopback configuration. -/
def loopbackSettings : HandlerSettings := ⟨"Loopback", .ok 1⟩

/-- A ring notification that DPDK does not refuse. -/
def ringNotification (deviceId qid enable : Int) : Notification :=
  ⟨⟨0, 0, deviceId, qid, enable⟩, .granted⟩

def destroyNotification (deviceId : Int) : Notification := ⟨⟨1, 0, deviceId, 0, 0⟩, .granted⟩

end PortControllerLoopback

end Vtb

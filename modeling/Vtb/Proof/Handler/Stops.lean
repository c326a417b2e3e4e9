import Vtb.Library.Latest
import Vtb.Construction.WorkerThreads
import Vtb.Proof.Handler.Resources

namespace Vtb
open Library
namespace HandlerThreads

/-- A call of `start` asks the handler to run, and a call of `stop` asks it not to. -/
def asksToRun : HandlerEvent → Option Bool
  | .call (.start _) => some true
  | .call .stop => some false
  | _ => none

/-- The latest of the start and stop calls was `stop`. -/
def Stopped (past : List HandlerEvent) : Prop := latest asksToRun past = some false

instance (past : List HandlerEvent) : Decidable (Stopped past) := inferInstanceAs (Decidable (_ = _))

/-- No worker loses the stop: the flag is down, and every worker that tests it leaves its loop. -/
structure StopHeld (settings : HandlerSettings) (system : HandlerThreads) : Prop where
  lowered : system.state.handler.isRunning = false
  leaves : ∀ index next later, step settings system (.move index .test) = some (next, later) →
    (next.threads[index]?).map Thread.phase = some .leaving

/-- A worker enters its loop only while the handler was not stopped. -/
def entersUnstopped (past : List HandlerEvent) : HandlerEvent → Prop
  | .move _ .enter => ¬ Stopped past
  | _ => True

instance (past : List HandlerEvent) : ∀ event, Decidable (entersUnstopped past event)
  | .move _ .enter => inferInstanceAs (Decidable (¬ _))
  | .move _ .test => inferInstanceAs (Decidable True)
  | .move _ .exit => inferInstanceAs (Decidable True)
  | .call _ => inferInstanceAs (Decidable True)

section
variable {settings : HandlerSettings} {system next : HandlerThreads} {later : List HandlerOutput}
  {past : List HandlerEvent}

/-- A move of a worker is a move of its thread under the flag of the handler. -/
theorem step_move {index : Nat} {move : ThreadMove} :
    step settings system (.move index move) = some (next, later) ↔
      ∃ thread raised phase, system.threads[index]? = some thread ∧
        move.run system.state.handler.isRunning thread.phase = some (raised, phase) ∧
        next = ⟨{ system.state with handler := { system.state.handler with isRunning := raised } },
          reach system.threads index phase⟩ ∧ later = [] := by
  simp only [step, PortHandlerLoopback.work, Option.bind_eq_some_iff, Option.map_eq_some_iff]
  constructor
  · rintro ⟨thread, found, _, ⟨⟨raised, phase⟩, moved, rfl⟩, same⟩
    obtain ⟨rfl, rfl⟩ := Prod.mk.inj same
    exact ⟨thread, raised, phase, found, moved, rfl, rfl⟩
  · rintro ⟨thread, raised, phase, found, moved, rfl, rfl⟩
    exact ⟨thread, found, _, ⟨(raised, phase), moved, rfl⟩, rfl⟩

/-- Only `stop` lowers the flag, and only an entering worker raises it. -/
def flagAfter (flag : Bool) : HandlerEvent → Bool
  | .call .stop => false
  | .move _ .enter => true
  | _ => flag

theorem step_flag {event : HandlerEvent} (stepped : step settings system event = some (next, later)) :
    next.state.handler.isRunning = flagAfter system.state.handler.isRunning event := by
  cases event with
  | call operation =>
      obtain ⟨rfl, _⟩ := Prod.mk.inj (Option.some.inj stepped)
      cases operation with
      | setVid vid => rfl
      | setRxqid rxqid => rfl
      | setTxqid txqid => rfl
      | stop => rfl
      | start outcomes =>
          obtain ⟨workers, called⟩ := PortHandlerLoopback.operate_start settings outcomes system.state
          rw [called]
          exact PortHandlerLoopback.start_isRunning settings outcomes system.state
  | move index move =>
      obtain ⟨thread, raised, phase, _, moved, rfl, _⟩ := step_move.mp stepped
      rw [run_flag moved]
      cases move <;> simp [flagAfter]

/-- A lowered flag is all that a stop needs. -/
theorem stopHeld_iff : StopHeld settings system ↔ system.state.handler.isRunning = false := by
  refine ⟨StopHeld.lowered, ?_⟩
  intro lowered
  refine ⟨lowered, ?_⟩
  intro index next later stepped
  obtain ⟨thread, raised, phase, found, moved, rfl, _⟩ := step_move.mp stepped
  rw [lowered] at moved
  simp [reach, found, run_test_lowered moved]

/-- A step keeps the stop exactly when it is not a worker that enters behind the stop. -/
theorem stopHeld_step {event : HandlerEvent} (held : Stopped past → StopHeld settings system)
    (stepped : step settings system event = some (next, later)) :
    (Stopped (past ++ [event]) → StopHeld settings next) ↔ entersUnstopped past event := by
  rw [stopHeld_iff, step_flag stepped]
  rw [stopHeld_iff] at held
  cases event with
  | call operation =>
      cases operation with
      | start outcomes => simp [Stopped, latest_concat, asksToRun, entersUnstopped]
      | stop => simp [flagAfter, entersUnstopped]
      | setVid vid => simpa [Stopped, latest_concat, asksToRun, flagAfter, entersUnstopped] using held
      | setRxqid rxqid => simpa [Stopped, latest_concat, asksToRun, flagAfter, entersUnstopped] using held
      | setTxqid txqid => simpa [Stopped, latest_concat, asksToRun, flagAfter, entersUnstopped] using held
  | move index move =>
      cases move with
      | enter => simp [Stopped, latest_concat, asksToRun, flagAfter, entersUnstopped]
      | test => simpa [Stopped, latest_concat, asksToRun, flagAfter, entersUnstopped] using held
      | exit => simpa [Stopped, latest_concat, asksToRun, flagAfter, entersUnstopped] using held

end

/-- The stop holds in every state of a run whose latest call is `stop`, exactly when no worker enters
its loop behind a stop. -/
theorem stop_holds_iff (settings : HandlerSettings) (dpdk : Dpdk) {history : List HandlerEvent}
    {final : HandlerThreads} {outputs : List HandlerOutput}
    (ran : (machine settings).run (initial dpdk) history = some (final, outputs)) :
    (∀ past, past <+: history → ∀ system emitted,
      (machine settings).run (initial dpdk) past = some (system, emitted) →
      Stopped past → StopHeld settings system) ↔ Admits entersUnstopped history :=
  (machine settings).run_every_iff ran (fun past system => Stopped past → StopHeld settings system)
    (by simp [Stopped])
    (fun _ _ _ _ _ _ _ held stepped => stopHeld_step held stepped)

/-- A call of `start` returns without an exception. -/
def startSucceeds (settings : HandlerSettings) (dpdk : Dpdk) (past : List HandlerEvent) :
    HandlerEvent → Prop
  | .call (.start outcomes) => ((machine settings).run (initial dpdk) past).all (fun reached =>
      match PortHandlerLoopback.start settings outcomes reached.1.state with
      | .ok _ _ => true
      | .error _ _ => false) = true
  | _ => True

instance (settings : HandlerSettings) (dpdk : Dpdk) (past : List HandlerEvent) :
    ∀ event, Decidable (startSucceeds settings dpdk past event)
  | .call (.start _) => inferInstanceAs (Decidable (_ = true))
  | .call .stop => inferInstanceAs (Decidable True)
  | .call (.setVid _) => inferInstanceAs (Decidable True)
  | .call (.setRxqid _) => inferInstanceAs (Decidable True)
  | .call (.setTxqid _) => inferInstanceAs (Decidable True)
  | .move _ _ => inferInstanceAs (Decidable True)

/-- The handler is stopped before its worker has run. -/
def stopBeforeEntry : List HandlerEvent := [.call (.start .granted), .call .stop, .move 0 .enter]

/-- The worker that enters behind the stop raises the flag again. -/
theorem stop_is_lost :
    ¬ ∀ (settings : HandlerSettings) (dpdk : Dpdk) (history : List HandlerEvent) (system : HandlerThreads)
        (outputs : List HandlerOutput),
      (machine settings).run (initial dpdk) history = some (system, outputs) →
      Admits (startSucceeds settings dpdk) history → Stopped history → StopHeld settings system := by
  intro claimed
  obtain ⟨⟨system, outputs⟩, ran⟩ := Option.isSome_iff_exists.mp (show ((machine
    PortHandlerLoopback.oneThread).run (initial .empty) stopBeforeEntry).isSome = true by decide)
  have held := claimed PortHandlerLoopback.oneThread .empty stopBeforeEntry system outputs ran
    (by decide) (by decide)
  have raised : ((machine PortHandlerLoopback.oneThread).run (initial .empty) stopBeforeEntry).map
      (fun result => result.1.state.handler.isRunning) = some true := by decide
  rw [ran, Option.map_some, held.lowered] at raised
  simp at raised

/-- The worker enters, the handler is stopped, and the worker leaves and returns. -/
def stopAfterEntry : List HandlerEvent :=
  [.call (.start .granted), .move 0 .enter, .move 0 .test, .call .stop, .move 0 .test, .move 0 .exit]

/-- The stop holds when the worker has entered before it. -/
theorem stop_holds_after_entry :
    Admits entersUnstopped stopAfterEntry ∧ ∀ past, past <+: stopAfterEntry → ∀ system emitted,
      (machine PortHandlerLoopback.oneThread).run (initial .empty) past = some (system, emitted) →
      Stopped past → StopHeld PortHandlerLoopback.oneThread system := by
  obtain ⟨⟨system, outputs⟩, ran⟩ := Option.isSome_iff_exists.mp (show ((machine
    PortHandlerLoopback.oneThread).run (initial .empty) stopAfterEntry).isSome = true by decide)
  have admitted : Admits entersUnstopped stopAfterEntry := by decide
  exact ⟨admitted, (stop_holds_iff PortHandlerLoopback.oneThread .empty ran).mpr admitted⟩

end HandlerThreads

end Vtb

import Vtb.Proof.Main.Moves
import Vtb.Proof.Vhost.Lifecycle

namespace Vtb
open Library

namespace MainProgram
variable {argv : List String} {terminal : Option Termios} {program next final : MainProgram}
  {events : List MainEvent} {event : MainEvent} {effects later : List MainEffect}

/-- The configuration that `main` gets. -/
def parsedConfig (argv : List String) : ConfigManager := (ConfigManager.getInstance.init argv).2

/-- The configuration at a point. -/
def configAt (argv : List String) (point : MainPoint) : ConfigManager :=
  match point with
  | .entered => ConfigManager.getInstance
  | .echoDisabled => ConfigManager.getInstance
  | .interruptHandled => ConfigManager.getInstance
  | .signalsHandled => ConfigManager.getInstance
  | _ => parsedConfig argv

/-- Messages and exceptions change nothing outside of the process. -/
def isAction : MainEffect → Bool
  | .said _ => false
  | .controllerStarted _ => true
  | .controllerDestroyed => true
  | .vhost effect => !effect.isThrow

def actions (effects : List MainEffect) : List MainEffect := effects.filter isAction

/-- Everything that a process does which returns 0. -/
def script (kind : ControllerKind) (path : String) : List MainEffect :=
  [.controllerStarted kind, .vhost (.constructed 0), .vhost (.ealInit 0), .vhost (.driverRegister 0),
    .vhost (.ready 0), .controllerDestroyed, .vhost (.driverUnregister path), .vhost .ealCleanup,
    .vhost .instanceCleared]

/-- How much of the script is done at a point. -/
def scriptDone : MainPoint → Nat
  | .controllerStarted => 1
  | .backendConstructed => 2
  | .backendInitialised => 3
  | .backendStarted => 5
  | .launched => 5
  | .waited => 5
  | .controllerReset => 6
  | .echoRestored => 6
  | _ => 0

/-- What the flags of the backend record at a point, when it exists there. -/
def flagsAt : MainPoint → Option (Bool × Bool)
  | .backendConstructed => some (false, false)
  | .backendInitialised => some (true, false)
  | .backendStarted => some (true, true)
  | .launched => some (true, true)
  | .waited => some (true, true)
  | .controllerReset => some (true, true)
  | .echoRestored => some (true, true)
  | _ => none

/-- The backend exists from its construction on, and its flags are those of the point. -/
inductive Backed (path : String) (program : MainProgram) : Prop where
  | before (here : flagsAt program.point = none) (idle : program.vhost = VhostProcess.idle 0)
  | alive (object : VhostObject) (here : flagsAt program.point =
        some (object.ealInitialised, object.driverRegistered)) (address : object.address = 0)
      (socket : object.socketPath = path) (pointed : program.backend = some 0)
      (held : program.vhost = VhostProcess.holding object 1)

/-- DPDK after the first actions of the script. -/
def rteAfter (path : String) (count : Nat) : Rte := ⟨if 4 ≤ count then [path] else [], decide (3 ≤ count)⟩

/-- The process follows the script until it ends, at its return or before. -/
inductive Progress (argv : List String) (kind : ControllerKind) (program : MainProgram)
    (effects : List MainEffect) : Prop where
  | running (alive : program.ending = none) (config : program.config = configAt argv program.point)
      (pointer : program.point = .controllerCreated → program.portController = some kind)
      (backed : Backed ((parsedConfig argv).getArg "-vsn") program)
      (done : actions effects = (script kind ((parsedConfig argv).getArg "-vsn")).take (scriptDone program.point))
  | stopped (ending : MainEnding) (ended : program.ending = some ending) (early : ending ≠ .returned 0)
      (count : Nat) (few : count ≤ 6)
      (done : actions effects = (script kind ((parsedConfig argv).getArg "-vsn")).take count)
      (left : program.vhost.rte = rteAfter ((parsedConfig argv).getArg "-vsn") count)
  | returned (ended : program.ending = some (.returned 0))
      (done : actions effects = script kind ((parsedConfig argv).getArg "-vsn"))
      (left : program.vhost = VhostProcess.idle 1)

theorem actions_append (first second : List MainEffect) : actions (first ++ second) = actions first ++ actions second :=
  List.filter_append first second

/-- At each point DPDK holds what the script has done. -/
theorem Backed.rte {path : String} (backed : Backed path program) :
    program.vhost.rte = rteAfter path (scriptDone program.point) := by
  cases backed with
  | before here idle =>
      rw [idle]
      cases point : program.point <;> simp [flagsAt, point] at here <;>
        simp [VhostProcess.idle, rteAfter, scriptDone]
  | alive object here address socket pointed held =>
      rw [held]
      cases point : program.point <;> simp [flagsAt, point] at here <;>
        simp [VhostProcess.holding, rteAfter, scriptDone, socket, here.1, here.2]

/-- `main` finds its backend at the points where it exists. -/
theorem Backed.found {path : String} (backed : Backed path program) {object : VhostObject}
    (found : program.backendObject = some object) (begun : flagsAt program.point ≠ none) :
    flagsAt program.point = some (object.ealInitialised, object.driverRegistered) ∧ object.address = 0 ∧
      object.socketPath = path ∧ program.backend = some 0 ∧ program.vhost = VhostProcess.holding object 1 := by
  cases backed with
  | before here idle => exact absurd here begun
  | alive other here address socket pointed held =>
      rw [backendObject, pointed, held, Option.bind_some, VhostProcess.lookup_holding, if_pos address] at found
      cases found
      exact ⟨here, address, socket, pointed, held⟩

/-- The script goes on behind what is done. -/
theorem script_goes_on {kind : ControllerKind} {path : String} {count : Nat} (more : Nat)
    (done : actions effects = (script kind path).take count)
    (new : actions later = ((script kind path).drop count).take more) :
    actions (effects ++ later) = (script kind path).take (count + more) := by
  rw [actions_append, done, new, List.take_add]

variable {kind : ControllerKind}

/-- Nothing outside of the process changes when it ends before its return. -/
theorem Progress.ends {path : String} (known : path = (parsedConfig argv).getArg "-vsn") (backed : Backed path program)
    (done : actions effects = (script kind path).take (scriptDone program.point)) (quiet : actions later = [])
    (same : next.vhost = program.vhost) {ending : MainEnding} (ended : next.ending = some ending)
    (early : ending ≠ .returned 0) : Progress argv kind next (effects ++ later) := by
  subst known
  apply Progress.stopped ending ended early (scriptDone program.point)
  · cases program.point <;> simp [scriptDone]
  · rw [actions_append, quiet, List.append_nil, done]
  · rw [same, backed.rte]

/-- A statement that leaves the backend alone follows the script. -/
theorem Progress.goes {path : String} (known : path = (parsedConfig argv).getArg "-vsn") (backed : Backed path program)
    (done : actions effects = (script kind path).take (scriptDone program.point))
    (alive : next.ending = none) (same : next.vhost = program.vhost) (pointed : next.backend = program.backend)
    (flags : flagsAt next.point = flagsAt program.point) (config : next.config = configAt argv next.point)
    (pointer : next.point = .controllerCreated → next.portController = some kind) (more : Nat)
    (further : scriptDone next.point = scriptDone program.point + more)
    (new : actions later = ((script kind path).drop (scriptDone program.point)).take more) :
    Progress argv kind next (effects ++ later) := by
  subst known
  apply Progress.running alive config pointer
  · cases backed with
    | before here idle => exact .before (flags.trans here) (same.trans idle)
    | alive object here address socket point held =>
        exact .alive object (flags.trans here) address socket (pointed.trans point) (same.trans held)
  · rw [further]
    exact script_goes_on more done new

/-- A call of the backend follows the script when it returns, and ends the process when it throws. -/
theorem Progress.called {called : VhostProcess × List VhostEffect} {point : MainPoint}
    (finished : program.backendCalled called point = (next, later)) (alive : program.ending = none)
    (config : program.config = configAt argv point) (pointed : program.backend = some 0)
    (other : point ≠ .controllerCreated) (object : VhostObject) (address : object.address = 0)
    (socket : object.socketPath = (parsedConfig argv).getArg "-vsn")
    (returns : called.2.any VhostEffect.isThrow = false →
      called.1 = VhostProcess.holding object 1 ∧
        flagsAt point = some (object.ealInitialised, object.driverRegistered) ∧
        actions (effects ++ called.2.map .vhost) =
          (script kind ((parsedConfig argv).getArg "-vsn")).take (scriptDone point))
    (throws : called.2.any VhostEffect.isThrow = true → ∃ count ≤ 6,
      called.1.rte = rteAfter ((parsedConfig argv).getArg "-vsn") count ∧
        actions (effects ++ called.2.map .vhost) =
          (script kind ((parsedConfig argv).getArg "-vsn")).take count) :
    Progress argv kind next (effects ++ later) := by
  rcases backendCalled_cases finished with ⟨quiet, rfl, rfl⟩ | ⟨threw, rfl, rfl⟩
  · obtain ⟨held, flags, done⟩ := returns quiet
    exact .running alive config (fun created => absurd created other)
      (.alive object flags address socket pointed held) done
  · obtain ⟨count, few, left, done⟩ := throws threw
    apply Progress.stopped (.exited 1) rfl (by simp) count few _ left
    rw [← List.append_assoc, actions_append, done]
    simp [actions, isAction]

/-- The constructor of the backend succeeds, since no other one exists. -/
theorem Progress.constructs {clientFd : Int} (alive : program.ending = none)
    (config : program.config = parsedConfig argv) (idle : program.vhost = VhostProcess.idle 0)
    (done : actions effects = (script kind ((parsedConfig argv).getArg "-vsn")).take 1)
    (called : { program with backend := some program.vhost.nextAddress }.backendCalled
      (program.vhost.construct program.config (program.config.getArg "-vsn") clientFd) .backendConstructed =
        (next, later)) : Progress argv kind next (effects ++ later) := by
  rw [idle, config, VhostProcess.construct_idle] at called
  obtain ⟨address, eal, driver⟩ :=
    VhostProcess.constructed_flags (parsedConfig argv) 0 ((parsedConfig argv).getArg "-vsn") clientFd
  have socket : (VhostProcess.constructed (parsedConfig argv) 0 ((parsedConfig argv).getArg "-vsn")
      clientFd).socketPath = (parsedConfig argv).getArg "-vsn" := by
    unfold VhostProcess.constructed
    dsimp only
    split <;> rfl
  apply Progress.called called alive rfl rfl (by simp) _ address socket
  · intro _
    exact ⟨rfl, by simp [flagsAt, eal, driver], script_goes_on 1 done rfl⟩
  · intro threw
    simp [VhostEffect.isThrow] at threw

section
variable {object : VhostObject}

/-- `init` of the backend follows the script, or nothing happens before the exception. -/
theorem Progress.inits {granted : Bool} (alive : program.ending = none) (config : program.config = parsedConfig argv)
    (pointed : program.backend = some 0) (flags : (object.ealInitialised, object.driverRegistered) = (false, false))
    (address : object.address = 0) (socket : object.socketPath = (parsedConfig argv).getArg "-vsn")
    (held : program.vhost = VhostProcess.holding object 1)
    (done : actions effects = (script kind ((parsedConfig argv).getArg "-vsn")).take 2)
    (called : program.backendCalled (program.vhost.init object granted) .backendInitialised = (next, later)) :
    Progress argv kind next (effects ++ later) := by
  obtain ⟨eal, driver⟩ := Prod.mk.inj flags
  rw [held, VhostProcess.init_holding] at called
  cases granted with
  | true =>
      rw [if_pos (by simp [eal])] at called
      apply Progress.called called alive config pointed (by simp) { object with ealInitialised := true } address
        socket
      · intro _
        exact ⟨rfl, by simp [flagsAt, driver], script_goes_on 1 done (by rw [address]; rfl)⟩
      · intro threw
        simp [VhostEffect.isThrow] at threw
  | false =>
      rw [if_neg (by simp)] at called
      apply Progress.called called alive config pointed (by simp) object address socket
      · intro quiet
        simp [VhostEffect.isThrow] at quiet
      · intro _
        refine ⟨2, by simp, ?_, script_goes_on 0 done rfl⟩
        simp [VhostProcess.holding, rteAfter, eal, driver]

/-- `start` of the backend follows the script; an exception may come behind the registration. -/
theorem Progress.starts {answers : DriverAnswers} (alive : program.ending = none)
    (config : program.config = parsedConfig argv) (pointed : program.backend = some 0)
    (flags : (object.ealInitialised, object.driverRegistered) = (true, false))
    (address : object.address = 0) (socket : object.socketPath = (parsedConfig argv).getArg "-vsn")
    (held : program.vhost = VhostProcess.holding object 1)
    (done : actions effects = (script kind ((parsedConfig argv).getArg "-vsn")).take 3)
    (called : program.backendCalled (program.vhost.start object answers) .backendStarted = (next, later)) :
    Progress argv kind next (effects ++ later) := by
  obtain ⟨eal, driver⟩ := Prod.mk.inj flags
  rw [held, VhostProcess.start_holding] at called
  split at called
  · apply Progress.called called alive config pointed (by simp) { object with driverRegistered := true } address
      socket
    · intro quiet
      refine ⟨rfl, by simp [flagsAt, eal], script_goes_on 2 done ?_⟩
      simp only [VhostProcess.startEnd] at quiet ⊢
      split_ifs at quiet ⊢ <;> simp_all [VhostEffect.isThrow, actions, isAction, script]
    · intro threw
      refine ⟨4, by simp, ?_, script_goes_on 1 done ?_⟩
      · simp [VhostProcess.holding, rteAfter, eal, socket]
      · simp only [VhostProcess.startEnd] at threw ⊢
        split_ifs at threw ⊢ <;> simp_all [VhostEffect.isThrow, actions, isAction, script]
  · apply Progress.called called alive config pointed (by simp) object address socket
    · intro quiet
      simp [VhostEffect.isThrow] at quiet
    · intro _
      refine ⟨3, by simp, ?_, script_goes_on 0 done rfl⟩
      simp [VhostProcess.holding, rteAfter, eal, driver]

/-- The return does what is left of the script. -/
theorem Progress.returns (flags : (object.ealInitialised, object.driverRegistered) = (true, true))
    (socket : object.socketPath = (parsedConfig argv).getArg "-vsn")
    (held : program.vhost = VhostProcess.holding object 1)
    (done : actions effects = (script kind ((parsedConfig argv).getArg "-vsn")).take 6) :
    Progress argv kind
      { program with
        vhost := (program.vhost.destroy object).1, backend := none, ending := some (.returned 0) }
      (effects ++ .said (.info "Test Done. Starting cleanup...") :: (program.vhost.destroy object).2.map .vhost) := by
  obtain ⟨eal, driver⟩ := Prod.mk.inj flags
  rw [held, VhostProcess.destroy_holding]
  apply Progress.returned rfl _ rfl
  apply script_goes_on 3 done
  simp [VhostProcess.teardown, eal, driver, socket, actions, isAction, script, VhostEffect.isThrow]

end

/-- A process that has not ended follows the script with each of its steps. -/
theorem Progress.moves (known : createController ((parsedConfig argv).getArg "-m") = some kind)
    (alive : program.ending = none) (progress : Progress argv kind program effects)
    (moved : Moves argv program event next later) : Progress argv kind next (effects ++ later) := by
  cases progress with
  | stopped ending ended early count few done left => simp [alive] at ended
  | returned ended done left => simp [alive] at ended
  | running _ config pointer backed done =>
      cases moved with
      | disable here =>
          rw [here] at config
          unfold disableEchoctl
          split
          · exact .goes rfl backed done alive rfl rfl (by simp [flagsAt, here]) config (by simp) 0
              (by simp [scriptDone, here]) rfl
          · exact .goes rfl backed done alive rfl rfl (by simp [flagsAt, here]) config (by simp) 0
              (by simp [scriptDone, here]) rfl
      | handleInterrupt here | handleTermination here | launch here accepted | wait here returned =>
          rw [here] at config
          exact .goes rfl backed done alive rfl rfl (by simp [flagsAt, here]) config (by simp) 0
            (by simp [scriptDone, here]) rfl
      | configure here accepted =>
          rw [here] at config
          have parsed : (program.config.init argv).2 = parsedConfig argv := by
            rw [config]
            rfl
          exact .goes rfl backed done alive rfl rfl (by simp [flagsAt, here]) parsed (by simp) 0
            (by simp [scriptDone, here]) rfl
      | reject here => exact .ends rfl backed done rfl rfl rfl (by simp)
      | create here =>
          rw [here] at config
          have created : createController (program.config.getArg "-m") = some kind := by
            rw [config]
            exact known
          exact .goes rfl backed done alive rfl rfl (by simp [flagsAt, here]) config (fun _ => created) 0
            (by simp [scriptDone, here]) rfl
      | startController here other found =>
          rw [here] at config
          cases found.symm.trans (pointer here)
          exact .goes rfl backed done alive rfl rfl (by simp [flagsAt, here]) config (by simp) 1
            (by simp [scriptDone, here]) (by rw [here]; rfl)
      | constructBackend here clientFd called =>
          rw [here] at config done
          cases backed with
          | before _ idle => exact .constructs alive config idle done called
          | alive object flags => simp [flagsAt, here] at flags
      | initBackend here object found granted called =>
          obtain ⟨flags, address, socket, pointed, held⟩ := backed.found found (by simp [flagsAt, here])
          rw [here] at config done flags
          exact .inits alive config pointed (Option.some.inj flags).symm address socket held done called
      | startBackend here object found answers called =>
          obtain ⟨flags, address, socket, pointed, held⟩ := backed.found found (by simp [flagsAt, here])
          rw [here] at config done flags
          exact .starts alive config pointed (Option.some.inj flags).symm address socket held done called
      | reset here =>
          rw [here] at config
          exact .goes rfl backed done alive rfl rfl (by simp [flagsAt, here]) config (by simp) 1
            (by simp [scriptDone, here]) (by rw [here]; rfl)
      | restore here =>
          rw [here] at config
          unfold restoreEchoctl
          split
          · exact .goes rfl backed done alive rfl rfl (by simp [flagsAt, here]) config (by simp) 0
              (by simp [scriptDone, here]) rfl
          · exact .goes rfl backed done alive rfl rfl (by simp [flagsAt, here]) config (by simp) 0
              (by simp [scriptDone, here]) rfl
      | finish here object found =>
          obtain ⟨flags, _, socket, _, held⟩ := backed.found found (by simp [flagsAt, here])
          rw [here] at done flags
          exact .returns (Option.some.inj flags).symm socket held done
      | keepAlive running | caught interrupt handled =>
          exact .goes rfl backed done alive rfl rfl rfl config pointer 0 rfl rfl
      | killed interrupt unhandled | refuseThread here => exact .ends rfl backed done rfl rfl rfl (by simp)

theorem progress_run (known : createController ((parsedConfig argv).getArg "-m") = some kind)
    (ran : (machine argv).run (start terminal) events = some (program, effects)) :
    Progress argv kind program effects := by
  apply (machine argv).run_history (fun _ state emitted => Progress argv kind state emitted) _ _ ran
  · exact .running rfl rfl (by simp [start]) (.before rfl rfl) rfl
  · intro _ state _ _ _ _ _ progress stepped
    obtain ⟨alive, moved⟩ := moves_of_step stepped
    exact progress.moves known alive moved

/-- An action of the script is done when the first actions reach behind it. -/
theorem mem_script_take (kind : ControllerKind) (path : String) (count : Nat) :
    .vhost (.ealInit 0) ∈ (script kind path).take count ↔ 3 ≤ count := by
  match count with
  | 0 => simp
  | 1 => simp [script]
  | 2 => simp [script]
  | more + 3 => simp [script]

/-- Before its last three actions the script cleans nothing up. -/
theorem cleanup_notMem_script_take (kind : ControllerKind) (path other : String) {count : Nat} (few : count ≤ 6) :
    .vhost (.driverUnregister other) ∉ (script kind path).take count ∧
      .vhost .ealCleanup ∉ (script kind path).take count := by
  have within : (script kind path).take count <+: (script kind path).take 6 := List.take_prefix_take_left few
  constructor <;> exact fun member => by simpa [script] using within.subset member

/-- Actions of the process are those effects that are no messages and no exceptions. -/
theorem mem_actions {effect : MainEffect} (acts : isAction effect = true) :
    effect ∈ actions effects ↔ effect ∈ effects := by
  simp [actions, acts]

/-- In every run the process does the actions of one fixed script from its start, and it does all of them exactly
when `main` returns 0. At every other end it has cleaned nothing up, and the EAL is left initialised exactly when
`rte_eal_init` has succeeded. -/
theorem main_follows_script (known : createController ((parsedConfig argv).getArg "-m") = some kind)
    (ran : (machine argv).run (start terminal) events = some (program, effects)) :
    actions effects <+: script kind ((parsedConfig argv).getArg "-vsn") ∧
      (program.ending = some (.returned 0) ↔ actions effects = script kind ((parsedConfig argv).getArg "-vsn")) ∧
      ∀ ending, program.ending = some ending →
        (program.vhost.rte = ⟨[], false⟩ ↔ ending = .returned 0 ∨ .vhost (.ealInit 0) ∉ effects) ∧
        (ending ≠ .returned 0 → (program.vhost.rte.eal = true ↔ .vhost (.ealInit 0) ∈ effects) ∧
          (∀ path, .vhost (.driverUnregister path) ∉ effects) ∧ .vhost .ealCleanup ∉ effects) := by
  have few : ∀ {count}, actions effects = (script kind ((parsedConfig argv).getArg "-vsn")).take count →
      count ≤ 6 → actions effects ≠ script kind ((parsedConfig argv).getArg "-vsn") := by
    intro count done small whole
    have shorter := congrArg List.length (done.symm.trans whole)
    simp [script] at shorter
    omega
  cases progress_run known ran with
  | running alive config pointer backed done =>
      refine ⟨done ▸ List.take_prefix _ _, ?_, by simp [alive]⟩
      have small : scriptDone program.point ≤ 6 := by cases program.point <;> simp [scriptDone]
      simp [alive, few done small]
  | stopped ending ended early count small done left =>
      refine ⟨done ▸ List.take_prefix _ _, by simp [ended, early, few done small], ?_⟩
      intro other same
      cases Option.some.inj (ended.symm.trans same)
      have initialised : .vhost (.ealInit 0) ∈ effects ↔ 3 ≤ count := by
        rw [← mem_actions rfl, done, mem_script_take]
      have uncleaned := fun path =>
        cleanup_notMem_script_take kind ((parsedConfig argv).getArg "-vsn") path small
      simp only [← done, mem_actions (show isAction (.vhost (.driverUnregister _)) = true from rfl),
        mem_actions (show isAction (.vhost .ealCleanup) = true from rfl)] at uncleaned
      rw [initialised, left]
      refine ⟨?_, fun _ => ⟨by simp [rteAfter], fun path => (uncleaned path).1, (uncleaned "").2⟩⟩
      by_cases begun : 3 ≤ count <;> simp [rteAfter, early, begun]
      omega
  | returned ended done left =>
      refine ⟨done ▸ List.prefix_rfl, by simp [ended, done], ?_⟩
      intro other same
      cases Option.some.inj (ended.symm.trans same)
      simp [left, VhostProcess.idle]

/-- A command line in mode Loopback. -/
def loopbackArgv : List String := ["vtb", "-l", "0-2", "--", "-m", "Loopback"]

/-- The steps of a process up to the launch of `keep_alive`. -/
def startedEvents : List MainEvent :=
  List.replicate 5 .proceed ++ [.startController true, .constructBackend 7, .initBackend true, .startBackend ⟨true, true, true⟩,
    .remoteLaunch true]

/-- A process that is interrupted while it waits does the whole script, and one whose driver is refused exits with
the EAL initialised. -/
theorem main_follows_script_interrupted :
    (∃ program effects, (machine loopbackArgv).run (start none)
      (startedEvents ++ [.signal true, .keepAlive] ++ List.replicate 4 .proceed) = some (program, effects) ∧
        actions effects = script .loopback ((parsedConfig loopbackArgv).getArg "-vsn") ∧
        program.vhost.rte = ⟨[], false⟩) ∧
      ∃ program effects, (machine loopbackArgv).run (start none)
        (startedEvents.take 8 ++ [.startBackend ⟨false, true, true⟩]) = some (program, effects) ∧
          program.ending = some (.exited 1) ∧ program.vhost.rte.eal = true ∧ .vhost .ealCleanup ∉ effects := by
  have known : createController ((parsedConfig loopbackArgv).getArg "-m") = some .loopback := by decide
  constructor
  · have seen : ((machine loopbackArgv).run (start none)
        (startedEvents ++ [.signal true, .keepAlive] ++ List.replicate 4 .proceed)).map
          (fun result => result.1.ending) = some (some (.returned 0)) := by
      decide +kernel
    obtain ⟨⟨program, effects⟩, ran, ended⟩ := Option.map_eq_some_iff.mp seen
    obtain ⟨_, returned, left⟩ := main_follows_script known ran
    exact ⟨program, effects, ran, returned.mp ended, (left _ ended).1.mpr (Or.inl rfl)⟩
  · have seen : ((machine loopbackArgv).run (start none)
        (startedEvents.take 8 ++ [.startBackend ⟨false, true, true⟩])).map
          (fun result => (result.1.ending, decide (.vhost (.ealInit 0) ∈ result.2))) =
            some (some (.exited 1), true) := by
      decide +kernel
    obtain ⟨⟨program, effects⟩, ran, both⟩ := Option.map_eq_some_iff.mp seen
    obtain ⟨ended, initialised⟩ := Prod.mk.inj both
    obtain ⟨eal, _, uncleaned⟩ := ((main_follows_script known ran).2.2 _ ended).2 (by simp)
    exact ⟨program, effects, ran, ended, eal.mpr (of_decide_eq_true initialised), uncleaned⟩

end MainProgram

end Vtb

import Vtb.Construction.MainProgram

namespace Vtb
open Library

namespace MainProgram
variable {argv : List String} {terminal : Option Termios} {program next final : MainProgram}
  {events : List MainEvent} {event : MainEvent} {effects later : List MainEffect}

/-- What one step of the process can do. -/
inductive Moves (argv : List String) (program : MainProgram) :
    MainEvent → MainProgram → List MainEffect → Prop where
  | disable (here : program.point = .entered) :
      Moves argv program .proceed { program.disableEchoctl with point := .echoDisabled } []
  | handleInterrupt (here : program.point = .echoDisabled) :
      Moves argv program .proceed { program with point := .interruptHandled } []
  | handleTermination (here : program.point = .interruptHandled) :
      Moves argv program .proceed { program with point := .signalsHandled } []
  | configure (here : program.point = .signalsHandled) (accepted : (program.config.init argv).1 = true) :
      Moves argv program .proceed
        { program with config := (program.config.init argv).2, point := .configured } []
  | reject (here : program.point = .signalsHandled) :
      Moves argv program .proceed
        { program with config := (program.config.init argv).2, ending := some (.returned (-1)) }
        [.said (.error "Config.Init failed")]
  | create (here : program.point = .configured) :
      Moves argv program .proceed
        { program with
          portController := createController (program.config.getArg "-m"), point := .controllerCreated } []
  | startController (here : program.point = .controllerCreated) (kind : ControllerKind)
      (pointer : program.portController = some kind) :
      Moves argv program (.startController true)
        { program with point := .controllerStarted } [.controllerStarted kind]
  | refuseThread (here : program.point = .controllerCreated) :
      Moves argv program (.startController false) { program with ending := some (.exited 1) } [.said fatalError]
  | constructBackend (here : program.point = .controllerStarted) (clientFd : Int)
      {next : MainProgram} {later : List MainEffect}
      (called : { program with backend := some program.vhost.nextAddress }.backendCalled
        (program.vhost.construct program.config (program.config.getArg "-vsn") clientFd) .backendConstructed =
          (next, later)) :
      Moves argv program (.constructBackend clientFd) next later
  | initBackend (here : program.point = .backendConstructed) (object : VhostObject)
      (found : program.backendObject = some object) (granted : Bool) {next : MainProgram}
      {later : List MainEffect}
      (called : program.backendCalled (program.vhost.init object granted) .backendInitialised = (next, later)) :
      Moves argv program (.initBackend granted) next later
  | startBackend (here : program.point = .backendInitialised) (object : VhostObject)
      (found : program.backendObject = some object) (answers : DriverAnswers) {next : MainProgram}
      {later : List MainEffect}
      (called : program.backendCalled (program.vhost.start object answers) .backendStarted = (next, later)) :
      Moves argv program (.startBackend answers) next later
  | launch (here : program.point = .backendStarted) (accepted : Bool) :
      Moves argv program (.remoteLaunch accepted)
        { program with lcoreRunning := accepted, point := .launched } []
  | wait (here : program.point = .launched) (returned : program.lcoreRunning = false) :
      Moves argv program .proceed { program with point := .waited } []
  | reset (here : program.point = .waited) :
      Moves argv program .proceed
        { program with portController := none, point := .controllerReset } [.controllerDestroyed]
  | restore (here : program.point = .controllerReset) :
      Moves argv program .proceed { program.restoreEchoctl with point := .echoRestored } []
  | finish (here : program.point = .echoRestored) (object : VhostObject)
      (found : program.backendObject = some object) :
      Moves argv program .proceed
        { program with
          vhost := (program.vhost.destroy object).1, backend := none, ending := some (.returned 0) }
        (.said (.info "Test Done. Starting cleanup...") :: (program.vhost.destroy object).2.map .vhost)
  | keepAlive (running : program.lcoreRunning = true) :
      Moves argv program .keepAlive { program with lcoreRunning := !program.stopBlocking } []
  | caught (interrupt : Bool) (handled : program.point.handles interrupt = true) :
      Moves argv program (.signal interrupt) { program with stopBlocking := true }
        [.said (.info "<User Pressed Ctrl+C>")]
  | killed (interrupt : Bool) (unhandled : program.point.handles interrupt = false) :
      Moves argv program (.signal interrupt) { program with ending := some .killed } []

/-- A statement of `main` that needs no answer. -/
theorem moves_of_proceed (moved : program.proceed argv = some (next, later)) :
    Moves argv program .proceed next later := by
  unfold proceed at moved
  split at moved
  case h_1 here => cases moved; exact .disable here
  case h_2 here => cases moved; exact .handleInterrupt here
  case h_3 here => cases moved; exact .handleTermination here
  case h_4 here =>
      dsimp only at moved
      split at moved
      · next accepted => cases moved; exact .configure here accepted
      · cases moved; exact .reject here
  case h_5 here => cases moved; exact .create here
  case h_6 here =>
      split at moved
      · cases moved
      · next returned =>
          cases moved
          exact .wait here (by simpa using returned)
  case h_7 here => cases moved; exact .reset here
  case h_8 here => cases moved; exact .restore here
  case h_9 here =>
      obtain ⟨object, found, same⟩ := Option.map_eq_some_iff.mp moved
      cases same
      exact .finish here object found
  all_goals cases moved

/-- Each step is one of the moves of a process that has not ended. -/
theorem moves_of_step (stepped : (machine argv).step program event = some (next, later)) :
    program.ending = none ∧ Moves argv program event next later := by
  obtain ⟨alive, moved⟩ := Option.ite_none_right_eq_some.mp stepped
  apply And.intro alive
  cases event with
  | proceed => exact moves_of_proceed moved
  | startController threadCreated =>
      obtain ⟨here, started⟩ := Option.ite_none_right_eq_some.mp moved
      obtain ⟨kind, pointer, same⟩ := Option.map_eq_some_iff.mp started
      cases threadCreated with
      | true => cases same; exact .startController here kind pointer
      | false => cases same; exact .refuseThread here
  | constructBackend clientFd =>
      obtain ⟨here, same⟩ := Option.ite_none_right_eq_some.mp moved
      exact .constructBackend here clientFd (Option.some.inj same)
  | initBackend granted =>
      obtain ⟨here, called⟩ := Option.ite_none_right_eq_some.mp moved
      obtain ⟨object, found, same⟩ := Option.map_eq_some_iff.mp called
      exact .initBackend here object found granted same
  | startBackend answers =>
      obtain ⟨here, called⟩ := Option.ite_none_right_eq_some.mp moved
      obtain ⟨object, found, same⟩ := Option.map_eq_some_iff.mp called
      exact .startBackend here object found answers same
  | remoteLaunch accepted =>
      obtain ⟨here, same⟩ := Option.ite_none_right_eq_some.mp moved
      cases same
      exact .launch here accepted
  | keepAlive =>
      obtain ⟨running, same⟩ := Option.ite_none_right_eq_some.mp moved
      cases same
      exact .keepAlive running
  | signal interrupt =>
      simp only [operate] at moved
      split at moved
      · next handled => cases moved; exact .caught interrupt handled
      · next unhandled =>
          cases moved
          exact .killed interrupt (by simpa using unhandled)

/-- A call of the backend returns, or its exception ends the process. -/
theorem backendCalled_cases {called : VhostProcess × List VhostEffect} {point : MainPoint}
    (done : program.backendCalled called point = (next, later)) :
    (called.2.any VhostEffect.isThrow = false ∧ next = { program with vhost := called.1, point := point } ∧
        later = called.2.map .vhost) ∨
      (called.2.any VhostEffect.isThrow = true ∧
        next = { program with vhost := called.1, ending := some (.exited 1) } ∧
        later = called.2.map .vhost ++ [.said fatalError]) := by
  unfold backendCalled at done
  split at done
  · next threw =>
      cases done
      exact Or.inr ⟨threw, rfl, rfl⟩
  · next quiet =>
      cases done
      exact Or.inl ⟨by simpa using quiet, rfl, rfl⟩

/-- Where `main` returns. -/
def ReturnsAt (program : MainProgram) : Prop :=
  ∀ code, program.ending = some (.returned code) →
    (code = 0 ∧ program.point = .echoRestored) ∨ (code = -1 ∧ program.point = .signalsHandled)

theorem returnsAt_moves (alive : program.ending = none) (moved : Moves argv program event next later) :
    ReturnsAt next := by
  intro code returned
  cases moved with
  | finish here object found => exact Or.inl ⟨by simpa using returned.symm, here⟩
  | reject here => exact Or.inr ⟨by simpa using returned.symm, here⟩
  | constructBackend here clientFd called | initBackend here object found granted called
  | startBackend here object found answers called =>
      rcases backendCalled_cases called with ⟨_, rfl, _⟩ | ⟨_, rfl, _⟩ <;> simp [alive] at returned
  | disable here => unfold disableEchoctl at returned; split at returned <;> simp [alive] at returned
  | restore here => unfold restoreEchoctl at returned; split at returned <;> simp [alive] at returned
  | killed interrupt unhandled => simp at returned
  | refuseThread here => simp at returned
  | _ => simp [alive] at returned

theorem returnsAt_run (ran : (machine argv).run (start terminal) events = some (program, effects)) :
    ReturnsAt program :=
  (machine argv).run_invariant ReturnsAt (by simp [ReturnsAt, start])
    (fun _ _ _ _ _ stepped => returnsAt_moves (moves_of_step stepped).1 (moves_of_step stepped).2) ran

end MainProgram

end Vtb

import Vtb.Proof.Main.Moves

namespace Vtb
open Library

namespace MainProgram
variable {argv : List String} {terminal : Option Termios} {program next final : MainProgram}
  {events : List MainEvent} {event : MainEvent} {effects later : List MainEffect}

/-- What the terminal shows while `main` is at a point. -/
def terminalAt (point : MainPoint) (terminal : Option Termios) : Option Termios :=
  match point with
  | .entered => terminal
  | .echoRestored => terminal
  | _ => terminal.map Termios.hideControl

/-- The terminal shows what the point says, and `old_t` has the settings to restore. -/
structure TerminalKept (terminal : Option Termios) (program : MainProgram) : Prop where
  shown : program.terminal = terminalAt program.point terminal
  saved : program.point ≠ .entered → ∀ settings ∈ terminal, program.oldT = settings

/-- A step that touches no terminal keeps it. -/
theorem TerminalKept.untouched (kept : TerminalKept terminal program) (terminals : next.terminal = program.terminal)
    (saves : next.oldT = program.oldT) (points : terminalAt next.point terminal = terminalAt program.point terminal)
    (begun : next.point ≠ .entered → program.point ≠ .entered) : TerminalKept terminal next := by
  constructor
  · rw [terminals, kept.shown, points]
  · intro further
    rw [saves]
    exact kept.saved (begun further)

/-- A call of the backend touches no terminal. -/
theorem TerminalKept.called {called : VhostProcess × List VhostEffect} {point : MainPoint}
    (kept : TerminalKept terminal program) (done : program.backendCalled called point = (next, later))
    (points : terminalAt point terminal = terminalAt program.point terminal) (begun : program.point ≠ .entered) :
    TerminalKept terminal next := by
  rcases backendCalled_cases done with ⟨_, rfl, _⟩ | ⟨_, rfl, _⟩
  · exact kept.untouched rfl rfl points fun _ => begun
  · exact kept.untouched rfl rfl rfl fun _ => begun

theorem TerminalKept.moves (kept : TerminalKept terminal program) (moved : Moves argv program event next later) :
    TerminalKept terminal next := by
  cases moved with
  | disable here =>
      have shown : program.terminal = terminal := by simpa [terminalAt, here] using kept.shown
      cases terminal with
      | none => exact ⟨by simp [disableEchoctl, shown, terminalAt], by simp⟩
      | some settings =>
          constructor
          · simp [disableEchoctl, shown, terminalAt]
          · intro _ other same
            cases Option.some.inj same
            simp [disableEchoctl, shown]
  | restore here =>
      have shown : program.terminal = terminal.map Termios.hideControl := by
        simpa [terminalAt, here] using kept.shown
      have saved := kept.saved (by simp [here])
      cases terminal with
      | none => exact ⟨by simp [restoreEchoctl, shown, terminalAt], by simp⟩
      | some settings =>
          have old : program.oldT = settings := saved settings rfl
          constructor
          · simp [restoreEchoctl, shown, terminalAt, old]
          · intro _ other same
            cases Option.some.inj same
            simp [restoreEchoctl, shown, old]
  | constructBackend here clientFd called =>
      have assigned : TerminalKept terminal { program with backend := some program.vhost.nextAddress } :=
        kept.untouched rfl rfl rfl id
      exact assigned.called called (by simp [terminalAt, here]) (by simp [here])
  | initBackend here object found granted called =>
      exact kept.called called (by simp [terminalAt, here]) (by simp [here])
  | startBackend here object found answers called =>
      exact kept.called called (by simp [terminalAt, here]) (by simp [here])
  | handleInterrupt here | handleTermination here | configure here accepted | create here
  | startController here kind pointer | launch here accepted | wait here returned | reset here =>
      exact kept.untouched rfl rfl (by simp [terminalAt, here]) (by simp [here])
  | reject here | finish here object found | keepAlive running | caught interrupt handled
  | killed interrupt unhandled | refuseThread here => exact kept.untouched rfl rfl rfl id

theorem terminalKept_run (ran : (machine argv).run (start terminal) events = some (program, effects)) :
    TerminalKept terminal program :=
  (machine argv).run_invariant (TerminalKept terminal) ⟨rfl, fun further => absurd rfl further⟩
    (fun _ _ _ _ kept stepped => kept.moves (moves_of_step stepped).2) ran

/-- A terminal that `main` finds is as before when `main` returns 0, and shows no control characters when the
configuration fails. At every other end it is as before only when nothing was disabled or all was restored. -/
theorem terminal_at_end (ran : (machine argv).run (start terminal) events = some (program, effects))
    {ending : MainEnding} (ended : program.ending = some ending) :
    (ending = .returned 0 → program.terminal = terminal) ∧
      (ending = .returned (-1) → program.terminal = terminal.map Termios.hideControl) ∧
      (program.terminal = terminal ↔ program.point = .entered ∨ program.point = .echoRestored ∨
        terminal.map Termios.hideControl = terminal) := by
  have shown := (terminalKept_run ran).shown
  have returns := returnsAt_run ran
  refine ⟨?_, ?_, ?_⟩
  · rintro rfl
    rcases returns 0 ended with ⟨_, here⟩ | ⟨impossible, _⟩
    · rw [shown, here]
      rfl
    · cases impossible
  · rintro rfl
    rcases returns (-1) ended with ⟨impossible, _⟩ | ⟨_, here⟩
    · cases impossible
    · rw [shown, here]
      rfl
  · rw [shown]
    cases program.point <;> simp [terminalAt]

/-- A terminal that shows control characters. -/
def shownTerminal : Termios := ⟨0x500, 5, 0xbf, 0x8a3b⟩

/-- A command line that asks for the help. -/
def helpArgv : List String := ["vtb", "--", "--help", "true"]

/-- The help leaves the terminal without control characters. -/
theorem terminal_at_end_help :
    ∃ program effects, (machine helpArgv).run (start (some shownTerminal)) (List.replicate 4 .proceed) =
      some (program, effects) ∧ program.terminal = some shownTerminal.hideControl ∧
        program.terminal ≠ some shownTerminal := by
  have seen : ((machine helpArgv).run (start (some shownTerminal)) (List.replicate 4 .proceed)).map
      (fun result => (result.1.ending, result.1.point)) = some (some (.returned (-1)), .signalsHandled) := by
    decide +kernel
  obtain ⟨⟨program, effects⟩, ran, same⟩ := Option.map_eq_some_iff.mp seen
  obtain ⟨ended, point⟩ := Prod.mk.inj same
  obtain ⟨_, rejected, restored⟩ := terminal_at_end ran ended
  refine ⟨program, effects, ran, rejected rfl, ?_⟩
  rw [Ne, restored, point]
  decide

end MainProgram

end Vtb

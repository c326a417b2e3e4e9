import Vtb.Proof.Main.Script

namespace Vtb
open Library

namespace MainProgram
variable {argv : List String} {terminal : Option Termios} {program next final : MainProgram}
  {events : List MainEvent} {event : MainEvent} {effects later : List MainEffect}

/-- The message of the signal handler. -/
def pressed : MainEffect := .said (.info "<User Pressed Ctrl+C>")

/-- `main` is behind the launch of `keep_alive`. -/
def hasLaunched : MainPoint → Bool
  | .launched => true
  | .waited => true
  | .controllerReset => true
  | .echoRestored => true
  | _ => false

/-- `keep_alive` runs from an accepted launch until it sees the flag of the signal handler. -/
structure Waits (events : List MainEvent) (program : MainProgram) (effects : List MainEffect) : Prop where
  stop : program.stopBlocking = true ↔ pressed ∈ effects
  early : hasLaunched program.point = false →
    program.lcoreRunning = false ∧ ∀ accepted, .remoteLaunch accepted ∉ events
  refused : .remoteLaunch false ∈ events → program.lcoreRunning = false
  finished : hasLaunched program.point = true → program.lcoreRunning = false →
    pressed ∈ effects ∨ .remoteLaunch false ∈ events
  past : hasLaunched program.point = true → program.point ≠ .launched → program.lcoreRunning = false

/-- A step that neither launches nor signals changes nothing of this. -/
theorem Waits.goes (waits : Waits events program effects) (silent : pressed ∉ later)
    (other : ∀ accepted, event ≠ .remoteLaunch accepted) (stops : next.stopBlocking = program.stopBlocking)
    (lcore : next.lcoreRunning = program.lcoreRunning) (launched : hasLaunched next.point = hasLaunched program.point)
    (further : next.point ≠ program.point → next.point ≠ .launched → program.lcoreRunning = false) :
    Waits (events ++ [event]) next (effects ++ later) := by
  have same : ∀ accepted, .remoteLaunch accepted ∈ events ++ [event] ↔ .remoteLaunch accepted ∈ events := by
    intro accepted
    simp [(other accepted).symm]
  have heard : pressed ∈ effects ++ later ↔ pressed ∈ effects := by simp [silent]
  constructor
  · rw [stops, heard, waits.stop]
  · rw [launched, lcore]
    simpa only [same] using waits.early
  · rw [same, lcore]
    exact waits.refused
  · rw [launched, lcore, same, heard]
    exact waits.finished
  · rw [launched, lcore]
    intro behind there
    by_cases stayed : next.point = program.point
    · exact waits.past behind (stayed ▸ there)
    · exact further stayed there

/-- The backend calls neither launch nor signal. -/
theorem Waits.called {called : VhostProcess × List VhostEffect} {point : MainPoint}
    (waits : Waits events program effects) (done : program.backendCalled called point = (next, later))
    (other : ∀ accepted, event ≠ .remoteLaunch accepted) (before : hasLaunched program.point = false)
    (after : hasLaunched point = false) : Waits (events ++ [event]) next (effects ++ later) := by
  rcases backendCalled_cases done with ⟨_, rfl, rfl⟩ | ⟨_, rfl, rfl⟩
  · exact waits.goes (by simp [pressed]) other rfl rfl (after.trans before.symm) fun _ _ => (waits.early before).1
  · exact waits.goes (by simp [pressed, fatalError, LogStream.error, LogStream.info]) other rfl rfl rfl
      fun moved => absurd rfl moved

theorem Waits.moves (waits : Waits events program effects) (moved : Moves argv program event next later) :
    Waits (events ++ [event]) next (effects ++ later) := by
  have early := waits.early
  cases moved with
  | disable here =>
      rw [here] at early
      unfold disableEchoctl
      split
      · exact waits.goes (by simp) (by simp) rfl rfl (by simp [hasLaunched, here]) fun _ _ => (early rfl).1
      · exact waits.goes (by simp) (by simp) rfl rfl (by simp [hasLaunched, here]) fun _ _ => (early rfl).1
  | handleInterrupt here | handleTermination here | configure here accepted | create here =>
      rw [here] at early
      exact waits.goes (by simp) (by simp) rfl rfl (by simp [hasLaunched, here]) fun _ _ => (early rfl).1
  | reject here | refuseThread here =>
      exact waits.goes (by simp [pressed, fatalError, LogStream.error, LogStream.info]) (by simp) rfl rfl rfl
        fun moved => absurd rfl moved
  | startController here kind pointer =>
      rw [here] at early
      exact waits.goes (by simp [pressed]) (by simp) rfl rfl (by simp [hasLaunched, here]) fun _ _ => (early rfl).1
  | constructBackend here clientFd called =>
      have assigned : Waits events { program with backend := some program.vhost.nextAddress } effects :=
        ⟨waits.stop, waits.early, waits.refused, waits.finished, waits.past⟩
      exact assigned.called called (by simp) (by simp [hasLaunched, here]) rfl
  | initBackend here object found granted called | startBackend here object found answers called =>
      exact waits.called called (by simp) (by simp [hasLaunched, here]) rfl
  | launch here accepted =>
      rw [here] at early
      obtain ⟨_, none⟩ := early rfl
      refine ⟨by simpa using waits.stop, by simp [hasLaunched], ?_, ?_, by simp⟩
      · intro refused
        simpa [none] using refused
      · intro _ returned
        right
        dsimp only at returned
        simp [returned]
  | wait here returned =>
      exact waits.goes (by simp) (by simp) rfl rfl (by simp [hasLaunched, here]) fun _ _ => returned
  | reset here =>
      exact waits.goes (by simp [pressed]) (by simp) rfl rfl (by simp [hasLaunched, here]) fun _ _ =>
        waits.past (by simp [hasLaunched, here]) (by simp [here])
  | restore here =>
      unfold restoreEchoctl
      split
      · exact waits.goes (by simp) (by simp) rfl rfl (by simp [hasLaunched, here]) fun _ _ =>
          waits.past (by simp [hasLaunched, here]) (by simp [here])
      · exact waits.goes (by simp) (by simp) rfl rfl (by simp [hasLaunched, here]) fun _ _ =>
          waits.past (by simp [hasLaunched, here]) (by simp [here])
  | finish here object found =>
      exact waits.goes (by simp [pressed, LogStream.info]) (by simp) rfl rfl rfl fun moved => absurd rfl moved
  | keepAlive running =>
      have begun : hasLaunched program.point = true := by
        by_contra before
        simp [(early (by simpa using before)).1] at running
      have accepted : .remoteLaunch false ∉ events := fun refused => by
        simp [waits.refused refused] at running
      refine ⟨by simpa using waits.stop, by simp [begun], by simp [accepted], ?_, ?_⟩
      · intro _ seen
        left
        simpa using waits.stop.mp (by simpa using seen)
      · intro _ there
        simp [waits.past begun there] at running
  | caught interrupt handled =>
      refine ⟨by simp [pressed], by simpa using early, by simpa using waits.refused, by simp [pressed],
        waits.past⟩
  | killed interrupt unhandled => exact waits.goes (by simp) (by simp) rfl rfl rfl fun moved => absurd rfl moved

theorem waits_run (ran : (machine argv).run (start terminal) events = some (program, effects)) :
    Waits events program effects := by
  apply (machine argv).run_history Waits _ _ ran
  · exact ⟨by simp [start], by simp [start], by simp, by simp [start, hasLaunched], by simp [start, hasLaunched]⟩
  · intro _ _ _ _ _ _ _ waits stepped
    exact waits.moves (moves_of_step stepped).2

/-- `main` waits for `keep_alive`, and no signal has come. -/
structure Blocked (program : MainProgram) : Prop where
  alive : program.ending = none
  here : program.point = .launched
  running : program.lcoreRunning = true
  quiet : program.stopBlocking = false

/-- The own steps of a blocked process leave it blocked. -/
theorem Blocked.run {own : List MainEvent} (blocked : Blocked program)
    (steps : ∀ event ∈ own, event = .proceed ∨ event = .keepAlive)
    (ran : (machine argv).run program own = some (final, later)) : Blocked final := by
  induction own generalizing program later with
  | nil =>
      cases ran
      exact blocked
  | cons event own ih =>
      obtain ⟨middle, _, _, stepped, continued, _⟩ := (machine argv).run_cons_eq_some.mp ran
      apply ih _ (fun other member => steps other (List.mem_cons_of_mem _ member)) continued
      rcases steps event (by simp) with rfl | rfl
      · simp [machine, step, operate, proceed, blocked.alive, blocked.here, blocked.running] at stepped
      · simp only [machine, step, operate, blocked.alive, blocked.running, if_true, Option.some.injEq,
          Prod.mk.injEq] at stepped
        obtain ⟨rfl, _⟩ := stepped
        exact ⟨rfl, blocked.here, by simp [blocked.quiet], blocked.quiet⟩

/-- Behind the end of `keep_alive` four steps of `main` lead to the return. -/
theorem returns_of_waited {path : String} (alive : program.ending = none) (here : program.point = .launched)
    (idle : program.lcoreRunning = false) (backed : Backed path program) :
    ∃ final later, (machine argv).run program (List.replicate 4 .proceed) = some (final, later) ∧
      final.ending = some (.returned 0) := by
  cases backed with
  | before unbacked => simp [flagsAt, here] at unbacked
  | alive object _ address _ pointed held =>
      cases shown : program.terminal <;>
        simp [List.replicate_succ, Machine.run_cons, machine, step, operate, proceed, alive, here, idle,
          restoreEchoctl, shown, backendObject, pointed, held, VhostProcess.lookup_holding, address]

/-- `main` returns 0 only behind a signal that was handled or a refused launch. While it waits, its own steps and
those of `keep_alive` can bring it there exactly when one of these has happened. -/
theorem main_ends_iff {kind : ControllerKind}
    (known : createController ((parsedConfig argv).getArg "-m") = some kind)
    (ran : (machine argv).run (start terminal) events = some (program, effects)) :
    (program.ending = some (.returned 0) → pressed ∈ effects ∨ .remoteLaunch false ∈ events) ∧
      (program.ending = none → program.point = .launched →
        ((∃ own final later, (∀ event ∈ own, event = .proceed ∨ event = .keepAlive) ∧
          (machine argv).run program own = some (final, later) ∧ final.ending = some (.returned 0)) ↔
            pressed ∈ effects ∨ .remoteLaunch false ∈ events)) := by
  have waits := waits_run ran
  constructor
  · intro returned
    rcases returnsAt_run ran 0 returned with ⟨_, here⟩ | ⟨impossible, _⟩
    · have launched : hasLaunched program.point = true := by simp [hasLaunched, here]
      exact waits.finished launched (waits.past launched (by simp [here]))
    · cases impossible
  · intro alive here
    have launched : hasLaunched program.point = true := by simp [hasLaunched, here]
    constructor
    · rintro ⟨own, final, later, steps, continued, returned⟩
      by_contra neither
      obtain ⟨silent, accepted⟩ := not_or.mp neither
      have running : program.lcoreRunning = true := by
        by_contra idle
        exact neither (waits.finished launched (by simpa using idle))
      have quiet : program.stopBlocking = false := by simpa [silent] using waits.stop
      have blocked : Blocked program := ⟨alive, here, running, quiet⟩
      simp [(blocked.run steps continued).alive] at returned
    · intro either
      have backed : Backed ((parsedConfig argv).getArg "-vsn") program := by
        cases progress_run known ran with
        | running _ _ _ backed _ => exact backed
        | stopped ending ended => simp [alive] at ended
        | returned ended => simp [alive] at ended
      cases lcore : program.lcoreRunning with
      | false =>
          obtain ⟨final, later, continued, returned⟩ := returns_of_waited alive here lcore backed
          exact ⟨_, final, later, fun event member => Or.inl (List.eq_of_mem_replicate member), continued, returned⟩
      | true =>
          have stopped : program.stopBlocking = true := by
            rcases either with signalled | refused
            · exact waits.stop.mpr signalled
            · simp [waits.refused refused] at lcore
          have seen : Backed ((parsedConfig argv).getArg "-vsn") { program with lcoreRunning := false } := by
            cases backed with
            | before unbacked idle => exact .before unbacked idle
            | alive object flags address socket pointed held => exact .alive object flags address socket pointed held
          obtain ⟨final, later, continued, returned⟩ :
              ∃ final later, (machine argv).run { program with lcoreRunning := false } (List.replicate 4 .proceed) =
                some (final, later) ∧ final.ending = some (.returned 0) :=
            returns_of_waited alive here rfl seen
          have pass : (machine argv).step program .keepAlive = some ({ program with lcoreRunning := false }, []) := by
            simp [machine, step, operate, alive, lcore, stopped]
          refine ⟨.keepAlive :: List.replicate 4 .proceed, final, later, ?_, ?_, returned⟩
          · intro event member
            rcases List.mem_cons.mp member with same | own
            · exact Or.inr same
            · exact Or.inl (List.eq_of_mem_replicate own)
          · exact (machine argv).run_cons_eq_some.mpr ⟨_, [], later, pass, continued, rfl⟩

/-- A process that waits returns after the signal and not before. -/
theorem main_ends_signalled :
    ∃ program effects, (machine loopbackArgv).run (start none) (startedEvents ++ [.signal false]) =
      some (program, effects) ∧
        ∃ own final later, (∀ event ∈ own, event = .proceed ∨ event = .keepAlive) ∧
          (machine loopbackArgv).run program own = some (final, later) ∧ final.ending = some (.returned 0) := by
  have seen : ((machine loopbackArgv).run (start none) (startedEvents ++ [.signal false])).map
      (fun result => (result.1.ending, result.1.point, decide (pressed ∈ result.2))) =
        some (none, .launched, true) := by
    decide +kernel
  obtain ⟨⟨program, effects⟩, ran, same⟩ := Option.map_eq_some_iff.mp seen
  obtain ⟨alive, rest⟩ := Prod.mk.inj same
  obtain ⟨here, signalled⟩ := Prod.mk.inj rest
  have known : createController ((parsedConfig loopbackArgv).getArg "-m") = some .loopback := by decide
  obtain ⟨_, ends⟩ := main_ends_iff known ran
  exact ⟨program, effects, ran, (ends alive here).mpr (Or.inl (by simpa using signalled))⟩

end MainProgram

end Vtb

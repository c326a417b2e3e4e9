import Vtb.Construction.Logger

namespace Vtb
open Library

/-- The text of some messages, each with its newline. -/
def lines (messages : List String) : String := String.join (messages.map fun message => message ++ "\n")

theorem lines_append (first second : List String) : lines (first ++ second) = lines first ++ lines second := by
  simp [lines]

namespace LogEvent
variable {Thread : Type*}

/-- The message that an event appends. -/
def accepted : LogEvent Thread → Option String
  | .appended _ message => some message
  | .returned _ _ => none

end LogEvent

/-- The accepted messages in the order of their appends. -/
def acceptedMessages {Thread : Type*} (events : List (LogEvent Thread)) : List String :=
  events.filterMap LogEvent.accepted

theorem acceptedMessages_append {Thread : Type*} (first second : List (LogEvent Thread)) :
    acceptedMessages (first ++ second) = acceptedMessages first ++ acceptedMessages second := by
  simp [acceptedMessages]

/-- What an `init` finds in the file that it opens. -/
def LoggerAction.opening {Thread : Type*} : LoggerAction Thread → Option (Option String)
  | .init filename contents _ => some (if filename ≠ "" then contents else none)
  | _ => none

/-- What the first `init` of a history found in the file. -/
def firstOpening {Thread : Type*} (history : List (LoggerAction Thread)) : Option (Option String) :=
  history.findSome? LoggerAction.opening

theorem firstOpening_concat {Thread : Type*} (past : List (LoggerAction Thread)) (action : LoggerAction Thread) :
    firstOpening (past ++ [action]) = (firstOpening past).or action.opening := by
  simp [firstOpening, List.findSome?_append]

namespace FlushStep

/-- The text that was taken and is not on stdout yet. -/
def inHand : FlushStep → String
  | .writing text => text
  | .finalWriting text => text
  | _ => ""

/-- The text that was taken and is not in the file yet. -/
def fileInHand : FlushStep → String
  | .writing text => text
  | .copying text => text
  | .finalWriting text => text
  | .finalCopying text => text
  | _ => ""

/-- The final drain has copied the buffer. -/
def Drained : FlushStep → Prop
  | .finalWriting _ => True
  | .finalCopying _ => True
  | .finished => True
  | _ => False

/-- The flush thread is in its loop. -/
def Looping : FlushStep → Prop
  | .testing => True
  | .waiting => True
  | .taking => True
  | .writing _ => True
  | .copying _ => True
  | _ => False

end FlushStep

namespace Logger
variable {Thread : Type*}

/-- The facts that hold after every step of every thread. The file has grown by the text on stdout. -/
structure Conserves (logger : Logger Thread) (opening : Option (Option String)) (messages : List String) :
    Prop where
  texts : ¬ logger.flusher.Drained →
    logger.stdout ++ logger.flusher.inHand ++ logger.buffer = lines messages
  opened : logger.initialized = opening.isSome
  copies : (logger.file.map fun text => text ++ logger.flusher.fileInHand) =
    opening.join.map fun earlier => earlier ++ (logger.stdout ++ logger.flusher.inHand)
  silent : logger.flusher = .notStarted → logger.stdout = ""
  started : logger.initialized = true ↔ logger.flusher ≠ .notStarted
  serving : logger.lifetime = .alive → logger.initialized = true →
    logger.running = true ∧ logger.flusher.Looping

section
variable {logger next : Logger Thread} {opening : Option (Option String)} {messages : List String}

/-- The flush thread has not drained while it is in its loop. -/
theorem not_drained_of_looping (looping : logger.flusher.Looping) : ¬ logger.flusher.Drained := by
  cases step : logger.flusher <;> simp_all [FlushStep.Looping, FlushStep.Drained]

/-- The logger that the constructor leaves has written nothing. -/
theorem conserves_create : (create : Logger Thread).Conserves none [] where
  texts _ := rfl
  opened := rfl
  copies := rfl
  silent _ := rfl
  started := by simp [create]
  serving _ initialized := by simp [create] at initialized

/-- The first `init` starts the flush thread, and the file has its earlier text. -/
theorem Conserves.init (held : logger.Conserves opening messages) (filename : String)
    (contents : Option String) (level : LogLevel) :
    (logger.init filename contents level).Conserves
      (opening.or (LoggerAction.init filename contents level : LoggerAction Thread).opening) messages := by
  unfold Logger.init
  split
  · next already =>
      obtain ⟨found, known⟩ := Option.isSome_iff_exists.mp (held.opened.symm.trans already)
      rw [known, Option.some_or, ← known]
      exact held
  · next fresh =>
      have unopened : opening = none := by
        have absent := held.opened.symm.trans (Bool.eq_false_iff.mpr fresh)
        simpa using absent
      have unstarted : logger.flusher = .notStarted := by
        by_contra running
        exact fresh (held.started.mpr running)
      have empty := held.silent unstarted
      have before := held.texts (by simp [unstarted, FlushStep.Drained])
      rw [unstarted] at before
      constructor
      · intro _
        exact before
      · simp [unopened, LoggerAction.opening]
      · simp [unopened, LoggerAction.opening, empty, FlushStep.inHand, FlushStep.fileInHand]
      · intro notStarted
        simp at notStarted
      · simp
      · intro _ _
        exact ⟨rfl, trivial⟩

/-- The flush thread changes the texts and its own position only. -/
theorem flushLoop_frame (stepped : logger.flushLoop = some next) :
    next.initialized = logger.initialized ∧ next.running = logger.running ∧
      next.lifetime = logger.lifetime ∧ next.callers = logger.callers := by
  unfold Logger.flushLoop at stepped
  cases step : logger.flusher <;> simp only [step, Option.some.injEq, reduceCtorEq] at stepped <;>
    simp [← stepped]

/-- The flush thread moves only after its start, and it stays in its loop while the logger runs. -/
theorem flushLoop_position (stepped : logger.flushLoop = some next) :
    logger.flusher ≠ .notStarted ∧ next.flusher ≠ .notStarted ∧
      (logger.running = true → logger.flusher.Looping → next.flusher.Looping) := by
  unfold Logger.flushLoop at stepped
  cases step : logger.flusher <;> simp only [step, Option.some.injEq, reduceCtorEq] at stepped
  case testing =>
      subst stepped
      by_cases running : logger.running = true <;> simp [running, FlushStep.Looping]
  case taking =>
      subst stepped
      by_cases empty : logger.buffer = "" <;> simp [empty, FlushStep.Looping]
  case draining =>
      subst stepped
      by_cases empty : logger.buffer = "" <;> simp [empty, FlushStep.Looping]
  all_goals simp [← stepped, FlushStep.Looping]

/-- The loop moves text from the buffer to the hand and from the hand to stdout.
The final drain only copies the buffer. -/
theorem flushLoop_texts (stepped : logger.flushLoop = some next) :
    (¬ next.flusher.Drained → ¬ logger.flusher.Drained ∧
      next.stdout ++ next.flusher.inHand ++ next.buffer =
        logger.stdout ++ logger.flusher.inHand ++ logger.buffer) ∧
    (next.flusher.Drained →
      (logger.flusher = .draining ∧ next.stdout ++ next.flusher.inHand =
        logger.stdout ++ logger.flusher.inHand ++ logger.buffer) ∨
      (logger.flusher.Drained ∧ next.stdout ++ next.flusher.inHand =
        logger.stdout ++ logger.flusher.inHand)) := by
  unfold Logger.flushLoop at stepped
  cases step : logger.flusher <;> simp only [step, Option.some.injEq, reduceCtorEq] at stepped
  case testing =>
      subst stepped
      by_cases running : logger.running = true <;> simp [running, FlushStep.Drained, FlushStep.inHand]
  case taking =>
      subst stepped
      by_cases empty : logger.buffer = "" <;> simp [empty, FlushStep.Drained, FlushStep.inHand]
  case draining =>
      subst stepped
      by_cases empty : logger.buffer = "" <;> simp [empty, FlushStep.Drained, FlushStep.inHand]
  all_goals simp [← stepped, FlushStep.Drained, FlushStep.inHand]

/-- The file follows stdout, and it gets each text once. -/
theorem flushLoop_copies (stepped : logger.flushLoop = some next) {earlier : Option String}
    (copies : (logger.file.map fun text => text ++ logger.flusher.fileInHand) =
      earlier.map fun old => old ++ (logger.stdout ++ logger.flusher.inHand)) :
    (next.file.map fun text => text ++ next.flusher.fileInHand) =
      earlier.map fun old => old ++ (next.stdout ++ next.flusher.inHand) := by
  unfold Logger.flushLoop at stepped
  cases step : logger.flusher <;> simp only [step, Option.some.injEq, reduceCtorEq] at stepped copies
  case testing =>
      subst stepped
      by_cases running : logger.running = true <;>
        simpa [running, FlushStep.inHand, FlushStep.fileInHand] using copies
  case taking =>
      subst stepped
      have same : logger.file = earlier.map fun old => old ++ logger.stdout := by
        simpa [FlushStep.inHand, FlushStep.fileInHand] using copies
      by_cases empty : logger.buffer = "" <;>
        simp [same, empty, FlushStep.inHand, FlushStep.fileInHand, Function.comp_def, String.append_assoc]
  case draining =>
      subst stepped
      have same : logger.file = earlier.map fun old => old ++ logger.stdout := by
        simpa [FlushStep.inHand, FlushStep.fileInHand] using copies
      by_cases empty : logger.buffer = "" <;>
        simp [same, empty, FlushStep.inHand, FlushStep.fileInHand, Function.comp_def, String.append_assoc]
  all_goals
    subst stepped
    simpa [FlushStep.inHand, FlushStep.fileInHand, Function.comp_def] using copies

/-- Each step of the flush thread keeps all texts. -/
theorem Conserves.flushLoop (held : logger.Conserves opening messages) (stepped : logger.flushLoop = some next) :
    next.Conserves opening messages := by
  obtain ⟨initialized, running, lifetime, _⟩ := flushLoop_frame stepped
  obtain ⟨begun, moving, loops⟩ := flushLoop_position stepped
  constructor
  · intro undrained
    obtain ⟨before, same⟩ := (flushLoop_texts stepped).1 undrained
    exact same.trans (held.texts before)
  · rw [initialized, held.opened]
  · exact flushLoop_copies stepped held.copies
  · intro unstarted
    exact absurd unstarted moving
  · rw [initialized, held.started]
    exact iff_of_true begun moving
  · rw [initialized, running, lifetime]
    intro alive ready
    have serving := held.serving alive ready
    exact ⟨serving.1, loops serving.1 serving.2⟩

/-- One step of a call of `log`, in a logger of this level. -/
inductive CallMoves (level : LogLevel) (thread : Thread) :
    LoggerAction Thread → CallStep → CallStep → List (LogEvent Thread) → Prop where
  | entered (msgLevel : LogLevel) (message : String) (shown : level.shows msgLevel = true) :
      CallMoves level thread (.enter thread msgLevel message) .idle (.appending message) []
  | hidden (msgLevel : LogLevel) (message : String) (unshown : level.shows msgLevel = false) :
      CallMoves level thread (.enter thread msgLevel message) .idle (.leaving none) []
  | appended (message : String) :
      CallMoves level thread (.append thread) (.appending message) (.leaving (some message))
        [.appended thread message]
  | left (accepted : Option String) :
      CallMoves level thread (.leave thread) (.leaving accepted) .idle (accepted.toList.map (.returned thread))

/-- A returning call appends nothing. -/
theorem acceptedMessages_returned (thread : Thread) (messages : List String) :
    acceptedMessages (messages.map (LogEvent.returned thread)) = [] := by
  simp [acceptedMessages, List.filterMap_map, Function.comp_def, LogEvent.accepted]

variable [DecidableEq Thread] {action : LoggerAction Thread} {later : List (LogEvent Thread)}

/-- What one action does. -/
inductive Effect (logger : Logger Thread) :
    LoggerAction Thread → Logger Thread → List (LogEvent Thread) → Prop where
  | initialized (filename : String) (contents : Option String) (level : LogLevel) :
      Effect logger (.init filename contents level) (logger.init filename contents level) []
  | flushed (next : Logger Thread) (moved : logger.flushLoop = some next) : Effect logger .flush next []
  | called (action : LoggerAction Thread) (thread : Thread) (step : CallStep) (buffer : String)
      (later : List (LogEvent Thread))
      (moves : CallMoves logger.level thread action (logger.callers thread) step later)
      (grown : buffer = logger.buffer ++ lines (acceptedMessages later)) (unreturned : logger.lifetime ≠ .returned) :
      Effect logger action ({ logger with buffer }.setCaller thread step) later
  | destroyed (alive : logger.lifetime = .alive) :
      Effect logger .destroy { logger with running := false, lifetime := .joining } []
  | joined (ended : logger.flusher = .finished ∨ logger.flusher = .notStarted) :
      Effect logger .join { logger with lifetime := .returned } []

/-- Every defined action has one of the five effects. -/
theorem effect_of_step (stepped : logger.handle action = some (next, later)) :
    Effect logger action next later := by
  unfold Logger.handle at stepped
  split at stepped
  · simp at stepped
  · next unreturned =>
      cases action with
      | init filename contents level =>
          obtain ⟨rfl, rfl⟩ := Prod.mk.inj (Option.some.inj stepped)
          exact .initialized filename contents level
      | flush =>
          obtain ⟨_, moved, same⟩ := Option.map_eq_some_iff.mp stepped
          obtain ⟨rfl, rfl⟩ := Prod.mk.inj same
          exact .flushed _ moved
      | enter thread msgLevel message =>
          obtain ⟨_, entered, same⟩ := Option.map_eq_some_iff.mp stepped
          obtain ⟨rfl, rfl⟩ := Prod.mk.inj same
          unfold Logger.enter at entered
          split at entered
          · next idle =>
              obtain rfl := Option.some.inj entered
              apply Effect.called _ thread _ logger.buffer [] _ (by simp [acceptedMessages, lines]) unreturned
              rw [idle]
              split
              · next shown => exact .entered msgLevel message shown
              · next unshown => exact .hidden msgLevel message (Bool.eq_false_iff.mpr unshown)
          · simp at entered
      | append thread =>
          simp only [Logger.append] at stepped
          split at stepped
          · next message appending =>
              obtain ⟨rfl, rfl⟩ := Prod.mk.inj (Option.some.inj stepped)
              apply Effect.called _ thread _ _ _ _ (by simp [acceptedMessages, LogEvent.accepted, lines])
                unreturned
              rw [appending]
              exact .appended message
          · simp at stepped
      | leave thread =>
          simp only [Logger.leave] at stepped
          split at stepped
          · next accepted leaving =>
              obtain ⟨rfl, rfl⟩ := Prod.mk.inj (Option.some.inj stepped)
              apply Effect.called _ thread _ logger.buffer _ _ (by simp [acceptedMessages_returned, lines])
                unreturned
              rw [leaving]
              exact .left accepted
          · simp at stepped
      | destroy =>
          obtain ⟨_, destroyed, same⟩ := Option.map_eq_some_iff.mp stepped
          obtain ⟨rfl, rfl⟩ := Prod.mk.inj same
          simp only [Logger.destroy, Option.ite_none_right_eq_some, Option.some.injEq] at destroyed
          obtain ⟨alive, rfl⟩ := destroyed
          exact .destroyed alive
      | join =>
          obtain ⟨_, joined, same⟩ := Option.map_eq_some_iff.mp stepped
          obtain ⟨rfl, rfl⟩ := Prod.mk.inj same
          simp only [Logger.join, Option.ite_none_right_eq_some, Option.some.injEq] at joined
          obtain ⟨⟨_, ended⟩, rfl⟩ := joined
          exact .joined ended

/-- The other actions leave the written texts alone, and appended text goes to the end of the buffer. -/
structure Framed (logger next : Logger Thread) (later : List (LogEvent Thread)) : Prop where
  flusher : next.flusher = logger.flusher
  stdout : next.stdout = logger.stdout
  file : next.file = logger.file
  initialized : next.initialized = logger.initialized
  buffer : next.buffer = logger.buffer ++ lines (acceptedMessages later)
  alive : next.lifetime = .alive → logger.lifetime = .alive ∧ next.running = logger.running
  returned : next.lifetime = .returned → next.flusher = .finished ∨ next.flusher = .notStarted

/-- An action runs `init`, moves the flush thread, or leaves the written texts alone. -/
theorem handle_cases (stepped : logger.handle action = some (next, later)) :
    (∃ filename contents level, action = .init filename contents level ∧
      next = logger.init filename contents level ∧ later = []) ∨
    (action = .flush ∧ logger.flushLoop = some next ∧ later = []) ∨
    ((∀ filename contents level, action ≠ .init filename contents level) ∧ Framed logger next later) := by
  cases effect_of_step stepped with
  | initialized filename contents level => exact .inl ⟨filename, contents, level, rfl, rfl, rfl⟩
  | flushed _ moved => exact .inr (.inl ⟨rfl, moved, rfl⟩)
  | called _ thread step buffer _ moves grown unreturned =>
      have other : ∀ filename contents level, action ≠ .init filename contents level := by
        rintro filename contents level rfl
        cases moves
      exact .inr (.inr ⟨other, rfl, rfl, rfl, rfl, grown, fun alive => ⟨alive, rfl⟩,
        fun returned => absurd returned unreturned⟩)
  | destroyed _ =>
      exact .inr (.inr ⟨by simp, rfl, rfl, rfl, rfl, by simp [acceptedMessages, lines], by simp, by simp⟩)
  | joined ended =>
      exact .inr (.inr ⟨by simp, rfl, rfl, rfl, rfl, by simp [acceptedMessages, lines], by simp,
        fun _ => ended⟩)

/-- Each action of each thread keeps all texts. -/
theorem Conserves.step (held : logger.Conserves opening messages)
    (stepped : logger.handle action = some (next, later)) :
    next.Conserves (opening.or action.opening) (messages ++ acceptedMessages later) := by
  rcases handle_cases stepped with ⟨filename, contents, level, rfl, rfl, rfl⟩ | ⟨rfl, moved, rfl⟩ | ⟨other, framed⟩
  · simpa [acceptedMessages] using held.init filename contents level
  · simpa [acceptedMessages, LoggerAction.opening] using held.flushLoop moved
  · have unopened : action.opening = none := by
      cases action with
      | init filename contents level => exact absurd rfl (other filename contents level)
      | _ => rfl
    rw [unopened, Option.or_none]
    obtain ⟨flusher, stdout, file, initialized, buffer, alive, _⟩ := framed
    constructor
    · rw [flusher, stdout, buffer, lines_append, ← String.append_assoc]
      intro undrained
      rw [held.texts undrained]
    · rw [initialized, held.opened]
    · rw [flusher, stdout, file]
      exact held.copies
    · rw [flusher, stdout]
      exact held.silent
    · rw [flusher, initialized]
      exact held.started
    · rw [flusher, initialized]
      intro living ready
      obtain ⟨before, running⟩ := alive living
      rw [running]
      exact held.serving before ready

/-- Every run keeps all texts. -/
theorem conserves_run {history : List (LoggerAction Thread)} {final : Logger Thread}
    {events : List (LogEvent Thread)} (ran : machine.run create history = some (final, events)) :
    final.Conserves (firstOpening history) (acceptedMessages events) := by
  apply machine.run_history (fun past state emitted => state.Conserves (firstOpening past) (acceptedMessages emitted))
    conserves_create _ ran
  intro past state emitted action next later _ held stepped
  rw [acceptedMessages_append, firstOpening_concat]
  exact held.step stepped

end

end Logger

end Vtb

import Vtb.Proof.Logger.Conservation

namespace Vtb
open Library

namespace LogEvent
variable {Thread : Type*} [DecidableEq Thread]

/-- The message that an event appends for one thread. -/
def acceptedFrom (thread : Thread) : LogEvent Thread → Option String
  | .appended other message => if other = thread then some message else none
  | .returned _ _ => none

/-- The accepted message whose call returns to one thread. -/
def returnedTo (thread : Thread) : LogEvent Thread → Option String
  | .appended _ _ => none
  | .returned other message => if other = thread then some message else none

end LogEvent

/-- The level that an `init` sets. -/
def LoggerAction.initLevel {Thread : Type*} : LoggerAction Thread → Option LogLevel
  | .init _ _ level => some level
  | _ => none

/-- The message that a thread gives to `log`, when it is shown at the level. -/
def LoggerAction.given {Thread : Type*} [DecidableEq Thread] (thread : Thread) (level : LogLevel) :
    LoggerAction Thread → Option String
  | .enter other msgLevel message => if other = thread ∧ level.shows msgLevel then some message else none
  | _ => none

/-- The messages that a thread gives to `log` and that are shown, in their order.
The first `init` sets the level, and `set` is the level of an earlier one. -/
def givenMessages {Thread : Type*} [DecidableEq Thread] (thread : Thread) :
    Option LogLevel → List (LoggerAction Thread) → List String
  | _, [] => []
  | set, action :: rest =>
      (action.given thread (set.getD .default)).toList ++ givenMessages thread (set.or action.initLevel) rest

/-- The message that a call holds before it appends. -/
def CallStep.inHand : CallStep → List String
  | .appending message => [message]
  | _ => []

/-- The accepted message of a call that has not returned yet. -/
def CallStep.pending : CallStep → List String
  | .leaving accepted => accepted.toList
  | _ => []

namespace Logger
variable {Thread : Type*} [DecidableEq Thread] {logger next final : Logger Thread}
  {action : LoggerAction Thread} {history past rest : List (LoggerAction Thread)}
  {events later : List (LogEvent Thread)}

/-- A thread changes its own position only. -/
theorem setCaller_callers (logger : Logger Thread) (thread other : Thread) (step : CallStep) :
    (logger.setCaller thread step).callers other =
      if other = thread then step else logger.callers other := by
  simp [setCaller, Function.update_apply]

/-- An append makes a message of its thread pending, and a return ends it. -/
theorem CallMoves.pending {level : LogLevel} {thread : Thread} {before after : CallStep}
    (moves : CallMoves level thread action before after later) :
    before.pending ++ later.filterMap (LogEvent.acceptedFrom thread) =
      later.filterMap (LogEvent.returnedTo thread) ++ after.pending := by
  cases moves with
  | entered msgLevel message shown => rfl
  | hidden msgLevel message unshown => rfl
  | appended message => simp [CallStep.pending, LogEvent.acceptedFrom, LogEvent.returnedTo]
  | left accepted =>
      cases accepted <;> simp [CallStep.pending, LogEvent.acceptedFrom, LogEvent.returnedTo]

/-- A shown message comes into the hand of its thread when `log` is called, and an append takes it out. -/
theorem CallMoves.inHand {level : LogLevel} {thread : Thread} {before after : CallStep}
    (moves : CallMoves level thread action before after later) :
    later.filterMap (LogEvent.acceptedFrom thread) ++ after.inHand =
      before.inHand ++ (action.given thread level).toList := by
  cases moves with
  | entered msgLevel message shown => simp [CallStep.inHand, LoggerAction.given, shown]
  | hidden msgLevel message unshown => simp [CallStep.inHand, LoggerAction.given, unshown]
  | appended message => simp [CallStep.inHand, LoggerAction.given, LogEvent.acceptedFrom]
  | left accepted =>
      cases accepted <;> simp [CallStep.inHand, LoggerAction.given, LogEvent.acceptedFrom]

omit [DecidableEq Thread] in
/-- A call sets no level. -/
theorem CallMoves.initLevel {level : LogLevel} {thread : Thread} {before after : CallStep}
    (moves : CallMoves level thread action before after later) : action.initLevel = none := by
  cases moves <;> rfl

/-- A call says nothing about the other threads. -/
theorem CallMoves.silent {level : LogLevel} {caller thread : Thread} {before after : CallStep}
    (moves : CallMoves level caller action before after later) (different : caller ≠ thread) :
    later.filterMap (LogEvent.acceptedFrom thread) = [] ∧
      later.filterMap (LogEvent.returnedTo thread) = [] ∧ action.given thread level = none := by
  cases moves with
  | entered msgLevel message shown => simp [LoggerAction.given, different]
  | hidden msgLevel message unshown => simp [LoggerAction.given, different]
  | appended message => simp [LogEvent.acceptedFrom, LogEvent.returnedTo, LoggerAction.given, different]
  | left accepted =>
      cases accepted <;> simp [LogEvent.acceptedFrom, LogEvent.returnedTo, LoggerAction.given, different]

/-- Each action keeps the balance of accepted, returned, and pending messages. -/
theorem pending_step (stepped : logger.handle action = some (next, later)) (thread : Thread) :
    (logger.callers thread).pending ++ later.filterMap (LogEvent.acceptedFrom thread) =
      later.filterMap (LogEvent.returnedTo thread) ++ (next.callers thread).pending := by
  cases effect_of_step stepped with
  | initialized filename contents level =>
      rw [Logger.init]
      split <;> simp
  | flushed _ moved => simp [(flushLoop_frame moved).2.2.2]
  | called _ caller step buffer _ moves grown _ =>
      rw [setCaller_callers]
      by_cases own : thread = caller
      · subst own
        rw [if_pos rfl]
        exact moves.pending
      · obtain ⟨noAccept, noReturn, _⟩ := moves.silent (Ne.symm own)
        rw [if_neg own, noAccept, noReturn, List.append_nil, List.nil_append]
  | destroyed _ => simp
  | joined _ => simp

/-- The calls of a thread return in the order of their appends, and at most one has not returned. -/
theorem accepted_eq_returned (ran : machine.run create history = some (final, events))
    (thread : Thread) :
    events.filterMap (LogEvent.acceptedFrom thread) =
      events.filterMap (LogEvent.returnedTo thread) ++ (final.callers thread).pending := by
  apply machine.run_history (fun _ state emitted =>
    emitted.filterMap (LogEvent.acceptedFrom thread) =
      emitted.filterMap (LogEvent.returnedTo thread) ++ (state.callers thread).pending) rfl _ ran
  intro past state emitted action next later _ held stepped
  rw [List.filterMap_append, List.filterMap_append, held, List.append_assoc, List.append_assoc,
    pending_step stepped thread]

/-- The first `init` initializes the logger, and later steps keep it initialized. -/
theorem initialized_step (stepped : logger.handle action = some (next, later))
    (called : logger.initialized = true ∨ ∃ filename contents level, action = .init filename contents level) :
    next.initialized = true := by
  have kept : ∀ filename contents level, (logger.init filename contents level).initialized = true := by
    intro filename contents level
    unfold Logger.init
    split
    · next already => exact already
    · rfl
  rcases handle_cases stepped with ⟨filename, contents, level, _, rfl, _⟩ | ⟨rfl, moved, _⟩ | ⟨other, framed⟩
  · exact kept filename contents level
  · rw [(flushLoop_frame moved).1]
    exact called.resolve_right (by simp)
  · rw [framed.initialized]
    exact called.resolve_right (by simpa using other)

/-- A run with an `init` leaves an initialized logger. -/
theorem initialized_run (ran : machine.run create history = some (final, events))
    (called : ∃ filename contents level, .init filename contents level ∈ history) :
    final.initialized = true := by
  have monotone := machine.run_history
    (fun past (state : Logger Thread) _ =>
      (∃ filename contents level, .init filename contents level ∈ past) → state.initialized = true)
    (by simp)
    (by
      intro past state emitted action next later _ held stepped called
      apply initialized_step stepped
      obtain ⟨filename, contents, level, member⟩ := called
      rcases List.mem_append.mp member with earlier | last
      · exact .inl (held ⟨filename, contents, level, earlier⟩)
      · exact .inr ⟨filename, contents, level, (List.mem_singleton.mp last).symm⟩)
    ran
  exact monotone called

/-- `~Logger` returns after the flush thread has ended, or when none was started. -/
theorem returned_run (ran : machine.run create history = some (final, events))
    (returned : final.lifetime = .returned) :
    final.flusher = .finished ∨ final.flusher = .notStarted := by
  have ended := machine.run_history
    (fun _ (state : Logger Thread) _ => state.lifetime = .returned →
      state.flusher = .finished ∨ state.flusher = .notStarted)
    (by simp [create])
    (by
      intro past state emitted action next later _ _ stepped returned
      have unreturned : state.lifetime ≠ .returned := by
        intro already
        simp [machine, Logger.handle, already] at stepped
      rcases handle_cases stepped with ⟨filename, contents, level, _, rfl, _⟩ | ⟨_, moved, _⟩ | ⟨_, framed⟩
      · unfold Logger.init at returned
        split at returned <;> exact absurd returned unreturned
      · rw [(flushLoop_frame moved).2.2.1] at returned
        exact absurd returned unreturned
      · exact framed.returned returned)
    ran
  exact ended returned

/-- The first `init` sets the level, and the other steps keep it. -/
theorem level_step (stepped : logger.handle action = some (next, later)) {set : Option LogLevel}
    (ready : logger.initialized = set.isSome) (level : logger.level = set.getD .default) :
    next.initialized = (set.or action.initLevel).isSome ∧
      next.level = (set.or action.initLevel).getD .default := by
  cases effect_of_step stepped with
  | initialized filename contents newLevel =>
      cases set with
      | none => simp [Logger.init, show logger.initialized = false from ready, LoggerAction.initLevel]
      | some before =>
          have already : logger.initialized = true := ready
          rw [Logger.init, if_pos already]
          exact ⟨already, level⟩
  | flushed _ moved =>
      have kept : next.level = logger.level := by
        unfold Logger.flushLoop at moved
        cases step : logger.flusher <;> simp only [step, Option.some.injEq, reduceCtorEq] at moved <;> rw [← moved]
      rw [(flushLoop_frame moved).1, kept]
      simpa [LoggerAction.initLevel] using ⟨ready, level⟩
  | called _ caller step buffer _ moves grown _ =>
      rw [moves.initLevel, Option.or_none]
      exact ⟨ready, level⟩
  | destroyed _ => simpa [LoggerAction.initLevel] using ⟨ready, level⟩
  | joined _ => simpa [LoggerAction.initLevel] using ⟨ready, level⟩

/-- Each action keeps the balance of given messages, accepted messages, and those in hand. -/
theorem given_step (stepped : logger.handle action = some (next, later)) (thread : Thread) :
    later.filterMap (LogEvent.acceptedFrom thread) ++ (next.callers thread).inHand =
      (logger.callers thread).inHand ++ (action.given thread logger.level).toList := by
  cases effect_of_step stepped with
  | initialized filename contents level =>
      rw [Logger.init]
      split <;> simp [LoggerAction.given]
  | flushed _ moved => simp [(flushLoop_frame moved).2.2.2, LoggerAction.given]
  | called _ caller step buffer _ moves grown _ =>
      rw [setCaller_callers]
      by_cases own : thread = caller
      · subst own
        rw [if_pos rfl]
        exact moves.inHand
      · obtain ⟨noAccept, _, notGiven⟩ := moves.silent (Ne.symm own)
        rw [if_neg own, noAccept, notGiven, Option.toList_none, List.append_nil, List.nil_append]
  | destroyed _ => simp [LoggerAction.given]
  | joined _ => simp [LoggerAction.given]

/-- A thread has appended the shown messages that it gave to `log`, except for the one in its hand. -/
theorem given_run {start : Logger Thread} {set : Option LogLevel} (ready : start.initialized = set.isSome)
    (level : start.level = set.getD .default) (ran : machine.run start history = some (final, events))
    (thread : Thread) :
    events.filterMap (LogEvent.acceptedFrom thread) ++ (final.callers thread).inHand =
      (start.callers thread).inHand ++ givenMessages thread set history := by
  induction history generalizing start set events with
  | nil =>
      obtain ⟨rfl, rfl⟩ := Prod.mk.inj (Option.some.inj ran)
      simp [givenMessages]
  | cons action rest ih =>
      obtain ⟨next, later, more, stepped, continued, rfl⟩ := machine.run_cons_eq_some.mp ran
      obtain ⟨readyNext, levelNext⟩ := level_step stepped ready level
      rw [List.filterMap_append, List.append_assoc, ih readyNext levelNext continued, ← List.append_assoc,
        given_step stepped thread, level, givenMessages, List.append_assoc]

/-- The final drain takes the messages that were accepted before it. -/
def DrainKeeps (early : List String) (logger : Logger Thread) (events : List (LogEvent Thread)) : Prop :=
  logger.flusher.Drained → ∃ kept, kept <+: acceptedMessages events ∧
    logger.stdout ++ logger.flusher.inHand = lines (early ++ kept)

/-- No step after the final drain changes the text that it took. -/
theorem DrainKeeps.step {early : List String}
    {opening : Option (Option String)} (texts : logger.Conserves opening (early ++ acceptedMessages events))
    (held : DrainKeeps early logger events) (stepped : logger.handle action = some (next, later)) :
    DrainKeeps early next (events ++ later) := by
  intro drained
  rw [acceptedMessages_append]
  have frozen : logger.flusher.Drained →
      next.stdout ++ next.flusher.inHand = logger.stdout ++ logger.flusher.inHand →
      ∃ kept, kept <+: acceptedMessages events ++ acceptedMessages later ∧
        next.stdout ++ next.flusher.inHand = lines (early ++ kept) := by
    intro before same
    obtain ⟨kept, within, wrote⟩ := held before
    exact ⟨kept, within.trans (List.prefix_append _ _), same.trans wrote⟩
  rcases handle_cases stepped with ⟨filename, contents, level, _, rfl, rfl⟩ | ⟨_, moved, rfl⟩ | ⟨_, framed⟩
  · by_cases already : logger.initialized = true
    · have unchanged : logger.init filename contents level = logger := by simp [Logger.init, already]
      rw [unchanged] at drained frozen ⊢
      exact frozen drained rfl
    · simp [Logger.init, already, FlushStep.Drained] at drained
  · rcases (flushLoop_texts moved).2 drained with ⟨draining, took⟩ | ⟨before, same⟩
    · have whole := texts.texts (by simp [draining, FlushStep.Drained])
      exact ⟨acceptedMessages events, List.prefix_append _ _, took.trans whole⟩
    · exact frozen before same
  · rw [framed.flusher] at drained
    exact frozen drained (by rw [framed.stdout, framed.flusher])

/-- After an undrained state the final drain takes all messages that were accepted before that state. -/
theorem drainKeeps_run {alive : Logger Thread} {early late : List (LogEvent Thread)}
    (before : machine.run create past = some (alive, early)) (undrained : ¬ alive.flusher.Drained)
    (after : machine.run alive rest = some (final, late)) :
    DrainKeeps (acceptedMessages early) final late := by
  have both := machine.run_history
    (fun _ (state : Logger Thread) emitted =>
      (∃ opening, state.Conserves opening (acceptedMessages early ++ acceptedMessages emitted)) ∧
        DrainKeeps (acceptedMessages early) state emitted)
    ⟨⟨firstOpening past, by simpa [acceptedMessages] using conserves_run before⟩,
      fun drained => absurd drained undrained⟩
    (by
      intro past state emitted action next later _ held stepped
      obtain ⟨⟨opening, conserves⟩, keeps⟩ := held
      refine ⟨⟨opening.or action.opening, ?_⟩, keeps.step conserves stepped⟩
      rw [acceptedMessages_append, ← List.append_assoc]
      exact conserves.step stepped)
    after
  exact both.2

/-- Every logged line comes out once and in order.
Up to the final drain the written text, the text in hand, and the buffer are all accepted messages, and those of
each thread are the messages that it gave to `log` at a level that was shown, except for one in its hand.
When `~Logger` returns, stdout holds all messages that were accepted before it began, and after them some of the
later ones, and the file that `init` opened has grown by the same text. -/
theorem logged_lines_come_out (ran : machine.run create history = some (final, events)) :
    (¬ final.flusher.Drained →
      final.stdout ++ final.flusher.inHand ++ final.buffer = lines (acceptedMessages events)) ∧
    (∀ thread, events.filterMap (LogEvent.acceptedFrom thread) ++ (final.callers thread).inHand =
      givenMessages thread none history) ∧
    ∀ past rest, history = past ++ .destroy :: rest →
      (∃ filename contents level, .init filename contents level ∈ past) → final.lifetime = .returned →
      ∃ alive early late kept, machine.run create past = some (alive, early) ∧
        events = early ++ late ∧ kept <+: acceptedMessages late ∧
        final.stdout = lines (acceptedMessages early ++ kept) ∧
        final.file = (firstOpening history).join.map (fun earlier => earlier ++ final.stdout) ∧
        ∀ thread, early.filterMap (LogEvent.returnedTo thread) <+:
          early.filterMap (LogEvent.acceptedFrom thread) := by
  have texts := conserves_run ran
  refine ⟨texts.texts, given_run rfl rfl ran, ?_⟩
  rintro past rest rfl called returned
  obtain ⟨alive, early, late, before, after, rfl⟩ := machine.run_append_eq_some.mp ran
  have ready := initialized_run before called
  have living : alive.lifetime = .alive := by
    obtain ⟨_, _, _, stepped, _⟩ := machine.run_cons_eq_some.mp after
    by_contra ended
    simp [machine, Logger.handle, Logger.destroy, ended] at stepped
  have undrained := not_drained_of_looping ((conserves_run before).serving living ready).2
  have started : final.flusher ≠ .notStarted := by
    have initialized := initialized_run ran (by
      obtain ⟨filename, contents, level, member⟩ := called
      exact ⟨filename, contents, level, List.mem_append_left _ member⟩)
    exact texts.started.mp initialized
  have finished := (returned_run ran returned).resolve_right started
  obtain ⟨kept, within, wrote⟩ := drainKeeps_run before undrained after
    (by simp [finished, FlushStep.Drained])
  refine ⟨alive, early, late, kept, before, rfl, within, ?_, ?_, ?_⟩
  · simpa [finished, FlushStep.inHand] using wrote
  · simpa [finished, FlushStep.inHand, FlushStep.fileInHand] using texts.copies
  · intro thread
    rw [accepted_eq_returned before thread]
    exact List.prefix_append _ _

/-- Two threads log into a file that has a line already, and the second message arrives while the destructor
waits. -/
def sampleActions : List (LoggerAction Nat) :=
  [.init "run.log" (some "earlier\n") .full, .enter 0 .default "first", .append 0, .leave 0,
    .enter 1 .error "second", .destroy, .append 1, .flush, .flush, .flush, .flush, .join]

/-- The file keeps its line, and both messages come behind it. -/
theorem logged_lines_come_out_sample : ∃ final events,
    machine.run create sampleActions = some (final, events) ∧ final.file = some "earlier\nfirst\nsecond\n" ∧
      (∀ thread, events.filterMap (LogEvent.acceptedFrom thread) ++ (final.callers thread).inHand =
        givenMessages thread none sampleActions) ∧
      ∃ alive early late kept, machine.run create (sampleActions.take 5) = some (alive, early) ∧
        events = early ++ late ∧ kept <+: acceptedMessages late ∧
        final.stdout = lines (acceptedMessages early ++ kept) ∧
        final.file = (firstOpening sampleActions).join.map (fun earlier => earlier ++ final.stdout) := by
  have outcome : (machine.run create sampleActions).map (fun last => (last.1.lifetime, last.1.file)) =
      some (.returned, some "earlier\nfirst\nsecond\n") := by decide
  obtain ⟨⟨final, events⟩, ran, same⟩ := Option.map_eq_some_iff.mp outcome
  obtain ⟨returned, file⟩ := Prod.mk.inj same
  obtain ⟨_, given, come⟩ := logged_lines_come_out ran
  obtain ⟨alive, early, late, kept, before, split, within, wrote, grown, _⟩ :=
    come (sampleActions.take 5) (sampleActions.drop 6) rfl
      ⟨"run.log", some "earlier\n", .full, by simp [sampleActions]⟩ returned
  exact ⟨final, events, ran, file, given, alive, early, late, kept, before, split, within, wrote, grown⟩

end Logger

end Vtb

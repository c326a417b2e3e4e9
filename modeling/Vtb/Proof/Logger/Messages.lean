import Vtb.Construction.Messenger
import Vtb.Proof.Logger.Shutdown

namespace Vtb
open Library

/-- The visible message of a thread whose stream ends. -/
def MessengerAction.said {Thread : Type*} [DecidableEq Thread] (thread : Thread) (level : LogLevel) :
    MessengerAction Thread → Option String
  | .finish other stream => if other = thread ∧ stream.passes level then some stream.message else none
  | .logger _ => none

namespace Logger
variable {Thread : Type*} [DecidableEq Thread] {logger next final : Logger Thread}
  {action : LoggerAction Thread} {events later : List (LogEvent Thread)}

/-- A stream that passes the first test passes the test of `log` as well. -/
theorem shows_of_passes {stream : LogStream} {level : LogLevel} (passes : stream.passes level = true) :
    level.shows stream.level = true := by
  rw [LogLevel.shows, Bool.or_eq_true]
  exact .inl passes

/-- The other steps are those of the logger, and none of them is a call. -/
theorem handle_of_logger (stepped : logger.messengerStep (.logger action) = some (next, later)) :
    (∀ thread msgLevel message, action ≠ .enter thread msgLevel message) ∧
      logger.handle action = some (next, later) := by
  cases action with
  | enter thread msgLevel message => simp [messengerStep] at stepped
  | _ => exact ⟨by simp, stepped⟩

/-- Each step of the streams is one step of the logger or none. -/
theorem message_cases {action : MessengerAction Thread} (stepped : logger.messengerStep action = some (next, later)) :
    (∃ own, logger.handle own = some (next, later)) ∨ next = logger ∧ later = [] := by
  cases action with
  | finish thread stream =>
      change logger.finish thread stream = _ at stepped
      unfold Logger.finish at stepped
      split at stepped
      · exact .inl ⟨_, stepped⟩
      · split at stepped
        · obtain ⟨rfl, rfl⟩ := Prod.mk.inj (Option.some.inj stepped)
          exact .inr ⟨rfl, rfl⟩
        · simp at stepped
  | logger own => exact .inl ⟨own, (handle_of_logger stepped).2⟩

/-- A visible message comes into the hand of its thread, and an append takes it out. -/
theorem said_step {action : MessengerAction Thread} (stepped : logger.messengerStep action = some (next, later))
    (thread : Thread) :
    later.filterMap (LogEvent.acceptedFrom thread) ++ (next.callers thread).inHand =
      (logger.callers thread).inHand ++ (action.said thread logger.level).toList := by
  cases action with
  | finish caller stream =>
      change logger.finish caller stream = _ at stepped
      unfold Logger.finish at stepped
      by_cases passes : stream.passes logger.level = true
      · rw [if_pos passes] at stepped
        rw [given_step stepped]
        simp [LoggerAction.given, MessengerAction.said, passes, shows_of_passes passes]
      · rw [if_neg passes] at stepped
        split at stepped
        · obtain ⟨rfl, rfl⟩ := Prod.mk.inj (Option.some.inj stepped)
          simp [MessengerAction.said, passes]
        · simp at stepped
  | logger own =>
      obtain ⟨plain, moved⟩ := handle_of_logger stepped
      have nothing : own.given thread logger.level = none := by
        cases own with
        | enter caller msgLevel message => exact absurd rfl (plain caller msgLevel message)
        | _ => rfl
      rw [given_step moved, nothing]
      rfl

/-- The streams run the logger. -/
theorem run_of_messenger {start : Logger Thread} {actions : List (MessengerAction Thread)}
    (ran : messenger.run start actions = some (final, events)) :
    ∃ history, machine.run start history = some (final, events) := by
  apply messenger.run_history (fun _ state emitted => ∃ history, machine.run start history = some (state, emitted))
    ⟨[], rfl⟩ _ ran
  intro past state emitted action next later _ held stepped
  obtain ⟨history, reached⟩ := held
  rcases message_cases stepped with ⟨own, moved⟩ | ⟨rfl, rfl⟩
  · exact ⟨history ++ [own], machine.run_concat_of_step reached moved⟩
  · exact ⟨history, by rw [List.append_nil]; exact reached⟩

section
variable {filename : String} {contents : Option String} {level : LogLevel} {actions : List (MessengerAction Thread)}

/-- A run behind `init` is a run of the logger. -/
theorem run_behind_init (ran : messenger.run (create.init filename contents level) actions = some (final, events)) :
    ∃ history, machine.run create (.init filename contents level :: history) = some (final, events) := by
  obtain ⟨history, reached⟩ := run_of_messenger ran
  exact ⟨history, machine.run_cons_eq_some.mpr ⟨_, [], events, rfl, reached, rfl⟩⟩

/-- Behind `init`, each thread has appended its visible messages in the order in which its streams ended,
except for the one in its hand. -/
theorem said_run (ran : messenger.run (create.init filename contents level) actions = some (final, events))
    (thread : Thread) :
    events.filterMap (LogEvent.acceptedFrom thread) ++ (final.callers thread).inHand =
      actions.filterMap (MessengerAction.said thread level) := by
  have both := messenger.run_history
    (fun past state emitted =>
      (state.initialized = (some level).isSome ∧ state.level = (some level).getD .default) ∧
      emitted.filterMap (LogEvent.acceptedFrom thread) ++ (state.callers thread).inHand =
        past.filterMap (MessengerAction.said thread level))
    ⟨⟨rfl, rfl⟩, rfl⟩
    (by
      intro past state emitted action next later _ held stepped
      obtain ⟨⟨ready, shown⟩, order⟩ := held
      constructor
      · rcases message_cases stepped with ⟨own, moved⟩ | ⟨rfl, _⟩
        · exact level_step moved ready shown
        · exact ⟨ready, shown⟩
      · have own := said_step stepped thread
        rw [show state.level = level from shown] at own
        rw [List.filterMap_append, List.append_assoc, own, ← List.append_assoc, order, List.filterMap_append]
        cases said : action.said thread level <;> simp [said])
    ran
  exact both.2

/-- Whatever the threads and the flush thread do in between, the text that was written, taken and buffered is the
accepted messages, and the accepted messages of each thread are those of its streams whose level is shown,
in the order in which the streams ended: none is lost, none comes twice, and the last one may still be in hand. -/
theorem messages_keep_program_order (filename : String) (contents : Option String) (level : LogLevel)
    (ran : messenger.run (create.init filename contents level) actions = some (final, events)) :
    (¬ final.flusher.Drained →
      final.stdout ++ final.flusher.inHand ++ final.buffer = lines (acceptedMessages events)) ∧
      ∀ thread, events.filterMap (LogEvent.acceptedFrom thread) ++ (final.callers thread).inHand =
        actions.filterMap (MessengerAction.said thread level) := by
  obtain ⟨history, reached⟩ := run_behind_init ran
  exact ⟨(conserves_run reached).texts, said_run ran⟩

/-- Every accepted message was said by a stream whose level is shown. -/
theorem said_of_accepted
    (ran : messenger.run (create.init filename contents level) actions = some (final, events)) :
    ∀ message ∈ acceptedMessages events, ∃ stream, stream.message = message ∧ stream.passes level = true ∧
      ∃ thread, .finish thread stream ∈ actions := by
  intro message accepted
  obtain ⟨event, member, own⟩ := List.mem_filterMap.mp accepted
  cases event with
  | returned thread other => simp [LogEvent.accepted] at own
  | appended thread other =>
      obtain rfl := Option.some.inj own
      have appended : other ∈ events.filterMap (LogEvent.acceptedFrom thread) :=
        List.mem_filterMap.mpr ⟨_, member, by simp [LogEvent.acceptedFrom]⟩
      have said : other ∈ actions.filterMap (MessengerAction.said thread level) := by
        rw [← said_run ran thread]
        exact List.mem_append_left _ appended
      obtain ⟨action, acted, spoke⟩ := List.mem_filterMap.mp said
      cases action with
      | logger own => simp [MessengerAction.said] at spoke
      | finish caller stream =>
          rw [MessengerAction.said, Option.ite_none_right_eq_some] at spoke
          exact ⟨stream, Option.some.inj spoke.2, spoke.1.2, caller, acted⟩

end

end Logger

/-- A stream of one of the three kinds whose text stays on one line. -/
def LogStream.Readable (stream : LogStream) : Prop :=
  ∃ text : String, '\n' ∉ text.toList ∧ (stream = .info text ∨ stream = .error text ∨ stream = .details text)

/-- The message of a readable stream is one line, and the line is read as the stream. -/
theorem LogStream.Readable.read {stream : LogStream} (readable : stream.Readable) :
    '\n' ∉ stream.message.toList ∧ LogStream.read stream.message.toList = some stream := by
  obtain ⟨text, clean, kind⟩ := readable
  rcases kind with rfl | rfl | rfl
  · simp [message, info, clean, LogStream.read]
  · simp [message, error, clean, LogStream.read]
  · simp [message, details, clean, LogStream.read]

/-- The text of some messages is their lines. -/
theorem lines_toList (messages : List String) :
    (lines messages).toList = joinLines '\n' (messages.map String.toList) := by
  induction messages with
  | nil => rfl
  | cons message rest ih =>
      rw [← List.singleton_append, lines_append, String.toList_append, ih]
      simp [lines, joinLines]

/-- The lines of readable streams are read back. -/
theorem readLog_lines {streams : List LogStream} (readable : ∀ stream ∈ streams, stream.Readable) :
    readLog (lines (streams.map LogStream.message)) = some streams := by
  have clean : ∀ line ∈ (streams.map LogStream.message).map String.toList, '\n' ∉ line := by
    intro line member
    simp only [List.map_map, List.mem_map] at member
    obtain ⟨stream, inside, rfl⟩ := member
    exact (readable stream inside).read.1
  rw [readLog, lines_toList, cutLines_joinLines clean, Option.bind_some]
  clear clean
  induction streams with
  | nil => rfl
  | cons stream rest ih =>
      have later := ih fun other member => readable other (List.mem_cons_of_mem _ member)
      rw [List.map_cons, List.map_cons, List.mapM_cons, (readable stream (by simp)).read.2]
      simp only [later, Option.bind_eq_bind, Option.bind_some, Option.pure_def]

/-- A log behind another one is read behind it. -/
theorem readLog_append {first second : String} {before streams : List LogStream}
    (earlier : readLog first = some before) (later : readLog second = some streams) :
    readLog (first ++ second) = some (before ++ streams) := by
  obtain ⟨lines, cut, read⟩ := Option.bind_eq_some_iff.mp earlier
  obtain ⟨more, cutMore, readMore⟩ := Option.bind_eq_some_iff.mp later
  rw [readLog, String.toList_append, cutLines_append_text cut, cutMore, Option.map_some, Option.bind_some,
    List.mapM_append, read, readMore]
  rfl

/-- Messages that streams said are the messages of a list of streams. -/
theorem exists_streams {messages : List String} {holds : LogStream → Prop}
    (said : ∀ message ∈ messages, ∃ stream, stream.message = message ∧ holds stream) :
    ∃ streams : List LogStream, streams.map LogStream.message = messages ∧ ∀ stream ∈ streams, holds stream := by
  induction messages with
  | nil => exact ⟨[], rfl, by simp⟩
  | cons message rest ih =>
      obtain ⟨stream, own, held⟩ := said message (by simp)
      obtain ⟨streams, same, all⟩ := ih fun other member => said other (List.mem_cons_of_mem _ member)
      refine ⟨stream :: streams, by rw [List.map_cons, own, same], ?_⟩
      intro other member
      rcases List.mem_cons.mp member with rfl | later
      · exact held
      · exact all other later

namespace Logger
variable {Thread : Type*} [DecidableEq Thread] {final : Logger Thread} {events : List (LogEvent Thread)}
  {past rest : List (MessengerAction Thread)}

/-- When `~Logger` has returned, stdout is read back line by line as streams that ended with a level that is shown,
in the order of their appends. They begin with all messages that were accepted before `~Logger` began, provided
that the streams are of the three kinds and write no newline. The file has grown by the text on stdout, so it is
read back as the streams of the earlier runs and then these. -/
theorem log_reads_back (filename : String) (contents : Option String) (level : LogLevel)
    (ran : messenger.run (create.init filename contents level) (past ++ .logger .destroy :: rest) =
      some (final, events))
    (readable : ∀ thread stream, .finish thread stream ∈ past ++ .logger .destroy :: rest → stream.Readable)
    (returned : final.lifetime = .returned) :
    ∃ alive early streams, messenger.run (create.init filename contents level) past = some (alive, early) ∧
      readLog final.stdout = some streams ∧
      final.file = (if filename ≠ "" then contents else none).map (fun earlier => earlier ++ final.stdout) ∧
      (∀ earlier before, readLog earlier = some before →
        readLog (earlier ++ final.stdout) = some (before ++ streams)) ∧
      acceptedMessages early <+: streams.map LogStream.message ∧
      streams.map LogStream.message <+: acceptedMessages events ∧
      ∀ stream ∈ streams, stream.passes level = true ∧
        ∃ thread, .finish thread stream ∈ past ++ .logger .destroy :: rest := by
  obtain ⟨alive, early, late, before, after, rfl⟩ := messenger.run_append_eq_some.mp ran
  obtain ⟨whole, reached⟩ := run_behind_init ran
  obtain ⟨front, begun⟩ := run_behind_init before
  obtain ⟨back, ended⟩ := run_of_messenger after
  have living : alive.lifetime = .alive := by
    obtain ⟨_, _, _, stepped, _⟩ := messenger.run_cons_eq_some.mp after
    by_contra dead
    simp [messenger, messengerStep, Logger.handle, Logger.destroy, dead] at stepped
  have ready := initialized_run begun ⟨filename, contents, level, by simp⟩
  have undrained := not_drained_of_looping ((conserves_run begun).serving living ready).2
  have texts := conserves_run reached
  have started := texts.started.mp (initialized_run reached ⟨filename, contents, level, by simp⟩)
  have finished := (returned_run reached returned).resolve_right started
  obtain ⟨kept, within, wrote⟩ := drainKeeps_run begun undrained ended (by simp [finished, FlushStep.Drained])
  have written : final.stdout = lines (acceptedMessages early ++ kept) := by
    simpa [finished, FlushStep.inHand] using wrote
  have inside : acceptedMessages early ++ kept <+: acceptedMessages (early ++ late) := by
    rw [acceptedMessages_append]
    exact (List.prefix_append_right_inj _).mpr within
  obtain ⟨streams, same, all⟩ := exists_streams fun message member =>
    said_of_accepted ran message (inside.subset member)
  have read : readLog final.stdout = some streams := by
    rw [written, ← same]
    apply readLog_lines
    intro stream member
    obtain ⟨_, thread, acted⟩ := all stream member
    exact readable thread stream acted
  refine ⟨alive, early, streams, before, read, ?_, fun _ _ old => readLog_append old read, ?_, ?_, all⟩
  · simpa [finished, FlushStep.inHand, FlushStep.fileInHand, firstOpening, LoggerAction.opening] using texts.copies
  · rw [same]
    exact List.prefix_append _ _
  · rw [same]
    exact inside

/-- One thread says a line and another one a detail, before `~Logger` begins. -/
def twoStreams : List (MessengerAction Nat) :=
  [.finish 0 (.info "first"), .logger (.append 0), .logger (.leave 0), .finish 1 (.details "second")]

/-- `~Logger` begins while the second message is in hand. -/
def drained : List (MessengerAction Nat) :=
  [.logger (.append 1), .logger .flush, .logger .flush, .logger .flush, .logger .flush, .logger .join]

/-- The run of the two streams ends. -/
theorem twoStreams_run : ∃ final events,
    messenger.run (create.init "run.log" (some "[INFO] earlier\n") .full) (twoStreams ++ .logger .destroy :: drained) =
      some (final, events) ∧ final.lifetime = .returned := by
  have outcome : (messenger.run (create.init "run.log" (some "[INFO] earlier\n") .full)
      (twoStreams ++ .logger .destroy :: drained)).map (fun result => result.1.lifetime) = some .returned := by
    decide +kernel
  obtain ⟨⟨final, events⟩, ran, ended⟩ := Option.map_eq_some_iff.mp outcome
  exact ⟨final, events, ran, ended⟩

theorem messages_keep_program_order_two_streams : ∃ final events,
    messenger.run (create.init "run.log" (some "[INFO] earlier\n") .full) (twoStreams ++ .logger .destroy :: drained) =
        some (final, events) ∧
      (¬ final.flusher.Drained →
        final.stdout ++ final.flusher.inHand ++ final.buffer = lines (acceptedMessages events)) ∧
      ∀ thread, events.filterMap (LogEvent.acceptedFrom thread) ++ (final.callers thread).inHand =
        (twoStreams ++ .logger .destroy :: drained).filterMap (MessengerAction.said thread .full) := by
  obtain ⟨final, events, ran, _⟩ := twoStreams_run
  exact ⟨final, events, ran, messages_keep_program_order "run.log" (some "[INFO] earlier\n") .full ran⟩

/-- Both streams are readable. -/
theorem readable_twoStreams : ∀ thread stream, .finish thread stream ∈ twoStreams ++ .logger .destroy :: drained →
    stream.Readable := by
  intro thread stream member
  simp only [twoStreams, drained, List.cons_append, List.nil_append, List.mem_cons, reduceCtorEq, false_or,
    List.not_mem_nil, or_false, MessengerAction.finish.injEq] at member
  rcases member with ⟨_, rfl⟩ | ⟨_, rfl⟩
  · exact ⟨"first", by decide, .inl rfl⟩
  · exact ⟨"second", by decide, .inr (.inr rfl)⟩

/-- The file has a line of an earlier run, and is read back with it. -/
theorem log_reads_back_two_streams : ∃ final events alive early streams,
    messenger.run (create.init "run.log" (some "[INFO] earlier\n") .full)
        (twoStreams ++ .logger .destroy :: drained) = some (final, events) ∧
      messenger.run (create.init "run.log" (some "[INFO] earlier\n") .full) twoStreams = some (alive, early) ∧
      readLog final.stdout = some streams ∧
      final.file = some ("[INFO] earlier\n" ++ final.stdout) ∧
      readLog ("[INFO] earlier\n" ++ final.stdout) = some (.info "earlier" :: streams) ∧
      acceptedMessages early <+: streams.map LogStream.message ∧
      streams.map LogStream.message <+: acceptedMessages events := by
  obtain ⟨final, events, ran, returned⟩ := twoStreams_run
  obtain ⟨alive, early, streams, before, read, grown, behind, first, last, _⟩ :=
    log_reads_back "run.log" (some "[INFO] earlier\n") .full ran readable_twoStreams returned
  have old : readLog "[INFO] earlier\n" = some [.info "earlier"] := by decide
  exact ⟨final, events, alive, early, streams, ran, before, read, grown, behind _ _ old, first, last⟩

end Logger

end Vtb

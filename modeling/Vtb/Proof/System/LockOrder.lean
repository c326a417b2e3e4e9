import Vtb.Construction.Locking

namespace Vtb
open Library

/-- The mutex of the logger is the only one that is acquired under another mutex. -/
def Mutex.rank : Mutex → Nat
  | .log => 1
  | _ => 0

namespace Locking
variable {level : LogLevel}

theorem logStream_nested {low : Nat} (below : low ≤ 1) (msgLevel : LogLevel) :
    Nested Mutex.rank low (logStream level msgLevel) := by
  unfold logStream
  split
  · exact nested_guarded below nested_nil
  · exact nested_nil

/-- Any number of messages is nested below the mutex of the logger. -/
theorem messages_nested {low : Nat} (below : low ≤ 1) (count : Nat) :
    Nested Mutex.rank low (List.replicate count (info level)).flatten := by
  apply nested_flatten
  intro script member
  rw [(List.mem_replicate.mp member).2]
  exact logStream_nested below _

/-- A block of messages may run under any of the other mutexes. -/
theorem guarded_nested {mutex : Mutex} {block : LockScript} (lower : mutex.rank = 0)
    (nested : Nested Mutex.rank 1 block) : Nested Mutex.rank 0 (guarded mutex block) :=
  nested_guarded (Nat.zero_le _) (by rwa [lower])

theorem printPortmap_nested (ports : List Nat) : Nested Mutex.rank 0 (printPortmap level ports) := by
  apply guarded_nested rfl
  have line : Nested Mutex.rank 1 (info level) := logStream_nested le_rfl _
  apply (line.append line).append
  apply nested_flatten
  intro script member
  obtain ⟨rows, _, rfl⟩ := List.mem_map.mp member
  exact (messages_nested le_rfl rows).append line

theorem clearDevice_nested (found : Bool) : Nested Mutex.rank 0 (clearDevice level found) := by
  apply guarded_nested rfl
  cases found <;> exact logStream_nested le_rfl _

theorem notifyPortController_nested (partialWrite : Bool) :
    Nested Mutex.rank 0 (notifyPortController level partialWrite) := by
  apply guarded_nested rfl
  cases partialWrite
  · exact nested_nil
  · exact logStream_nested le_rfl _

/-- Waiting on the condition variable splits one guard into several. -/
theorem waits_eq (waits : Nat) :
    LockAction.acquire Mutex.log :: (List.replicate waits [.release .log, .acquire .log]).flatten ++ [.release .log] =
      (List.replicate (waits + 1) (guarded Mutex.log [])).flatten := by
  induction waits with
  | zero => rfl
  | succ waits ih =>
      rw [List.replicate_succ, List.flatten_cons, List.replicate_succ, List.flatten_cons, ← ih]
      rfl

theorem flushPass_nested (waits : Nat) : Nested Mutex.rank 0 (flushPass waits) := by
  have pass : Nested Mutex.rank 0 (guarded Mutex.log []) := nested_guarded (Nat.zero_le _) nested_nil
  rw [flushPass, waits_eq]
  apply Nested.append _ pass
  apply nested_flatten
  intro script member
  rw [(List.mem_replicate.mp member).2]
  exact pass

/-- No call leaves a mutex behind or acquires the mutexes against their order. -/
theorem script_nested (call : LockingCall) : Nested Mutex.rank 0 (script level call) := by
  have message (msgLevel : LogLevel) : Nested Mutex.rank 0 (logStream level msgLevel) :=
    logStream_nested (Nat.zero_le _) msgLevel
  have plain {mutex : Mutex} : Nested Mutex.rank 0 (guarded mutex []) := nested_guarded (Nat.zero_le _) nested_nil
  cases call with
  | info => exact message _
  | error => exact message _
  | details => exact message _
  | dumpConfig entries => exact guarded_nested rfl ((logStream_nested le_rfl _).append (messages_nested le_rfl entries))
  | printPortmap ports => exact printPortmap_nested ports
  | clearDevice found => exact clearDevice_nested found
  | onNewDevice first second =>
      exact ((((((message _).append (message _)).append plain).append plain).append plain).append
        (notifyPortController_nested first)).append (notifyPortController_nested second)
  | onDestroyDevice partialWrite found =>
      exact ((message _).append (notifyPortController_nested partialWrite)).append (clearDevice_nested found)
  | onVringStateChanged queueId partialWrite =>
      apply ((message _).append plain).append
      split
      · exact notifyPortController_nested partialWrite
      · exact nested_nil
  | flushPass waits => exact flushPass_nested waits
  | _ => exact plain

/-- A signal outside the mutex of the logger keeps the order of a script. -/
theorem Interrupted.ordered {script : LockScript} (interrupted : Interrupted level script) :
    Ordered Mutex.rank [] script := by
  induction interrupted with
  | calls calls =>
      apply Nested.ordered
      apply nested_flatten
      intro script member
      obtain ⟨call, _, rfl⟩ := List.mem_map.mp member
      exact script_nested call
  | signal running outside ih =>
      apply ih.insert (logStream_nested le_rfl _)
      intro held member
      cases held with
      | log => exact absurd member outside
      | _ => exact Nat.one_pos

variable {Thread : Type*} [DecidableEq Thread]

/-- However many threads call whatever they call, and signals come outside the mutex of the logger, no state of any
interleaving is a deadlock, and every state can be run until all calls have returned. -/
theorem calls_complete [Fintype Thread] {program : Thread → LockScript}
    (interrupted : ∀ thread, Interrupted level (program thread)) {schedule : List Thread}
    {locks : Locks Thread Mutex} {outputs : List Unit}
    (ran : Locks.machine.run (Locks.start program) schedule = some (locks, outputs)) :
    (¬ locks.Finished → ∃ mover next, locks.advance mover = some next) ∧
      ∃ rest final silent, Locks.machine.run locks rest = some (final, silent) ∧ final.Finished := by
  have bounded : ∀ mutex : Mutex, mutex.rank < 2 := by
    intro mutex
    cases mutex <;> decide
  have disciplined := Locks.disciplined_run
    (Locks.disciplined_start fun thread => (interrupted thread).ordered) ran
  apply And.intro _ (disciplined.completes bounded)
  intro unfinished
  obtain ⟨thread, busy⟩ := not_forall.mp unfinished
  exact disciplined.no_deadlock bounded busy

/-- One thread dumps the configuration and is interrupted before its first message, and another one announces a
device and prints the port map. -/
def dumpAndAnnounce : Bool → LockScript
  | true => .acquire .db :: (signalHandler .full ++ (program .full [.dumpConfig 2]).tail)
  | false => program .full [.onNewDevice false true, .printPortmap [2, 1], .flushPass 1]

theorem dumpAndAnnounce_interrupted : ∀ thread, Interrupted .full (dumpAndAnnounce thread)
  | true =>
      have running : Interrupted .full ([.acquire .db] ++ (program .full [.dumpConfig 2]).tail) :=
        .calls [.dumpConfig 2]
      running.signal (by decide)
  | false => .calls _

/-- Both threads come to their ends from the middle of their calls. -/
theorem calls_complete_dump_and_announce :
    ∃ locks outputs, Locks.machine.run (Locks.start dumpAndAnnounce) [true, false] = some (locks, outputs) ∧
      (¬ locks.Finished → ∃ mover next, locks.advance mover = some next) ∧
        ∃ rest final silent, Locks.machine.run locks rest = some (final, silent) ∧ final.Finished := by
  have defined : (Locks.machine.run (Locks.start dumpAndAnnounce) [true, false]).isSome := by decide
  obtain ⟨⟨locks, outputs⟩, ran⟩ := Option.isSome_iff_exists.mp defined
  exact ⟨locks, outputs, ran, calls_complete dumpAndAnnounce_interrupted ran⟩

/-- A signal that interrupts a thread inside the mutex of the logger stops the thread forever. Once the handler runs,
the thread keeps the mutex, and no thread gets past any of its requests for it, so no thread logs another message and
the flush thread writes nothing more. -/
theorem signal_stops_messages {program : Thread → LockScript} {thread : Thread} {before after : LockScript}
    (visible : level ≠ .error) (interrupted : program thread = before ++ (signalHandler level ++ after))
    (inside : Mutex.log ∈ holding [] before) {schedule : List Thread} {locks : Locks Thread Mutex}
    {outputs : List Unit} (ran : Locks.machine.run (Locks.start program) schedule = some (locks, outputs)) :
    locks.script thread ≠ [] ∧ (locks.script thread = signalHandler level ++ after →
      ∀ rest final silent, Locks.machine.run locks rest = some (final, silent) →
        final.script thread = locks.script thread ∧ final.owner .log = some thread ∧
        ∀ other, (final.script other).count (.acquire .log) = (locks.script other).count (.acquire .log)) := by
  have handler : signalHandler level ++ after = .acquire .log :: .release .log :: after := by
    cases level with
    | error => exact absurd rfl visible
    | default => rfl
    | full => rfl
  rw [handler] at interrupted ⊢
  have kept := Locks.never_past interrupted inside ran
  constructor
  · intro ended
    rw [ended] at kept
    simp at kept
  · intro reached rest final silent continued
    have waits := (Locks.follows_run ran).waitsForItself interrupted inside reached
    obtain ⟨still, asking⟩ := Locks.waitsForItself_run waits continued
    exact ⟨still.1.trans reached.symm, still.2, asking⟩

/-- The application logs the first of two messages when the signal comes, and the flush thread is about to take its
buffer. -/
def interruptedMessage : Bool → LockScript
  | true => [.acquire .log] ++ (signalHandler .full ++ .release .log :: info .full)
  | false => finalDrain ++ finalDrain

/-- The application keeps the mutex, and the flush thread takes the buffer neither now nor later. -/
theorem signal_stops_messages_interrupted_message :
    ∃ locks outputs, Locks.machine.run (Locks.start interruptedMessage) [true] = some (locks, outputs) ∧
      ∀ rest final silent, Locks.machine.run locks rest = some (final, silent) →
        final.script true = locks.script true ∧ final.owner .log = some true ∧
        (final.script false).count (.acquire .log) = 2 := by
  have defined : ((Locks.machine.run (Locks.start interruptedMessage) [true]).map fun result =>
      decide (result.1.script true = signalHandler .full ++ .release .log :: info .full ∧
        (result.1.script false).count (.acquire .log) = 2)) = some true := by decide
  have inside : Mutex.log ∈ holding [] [LockAction.acquire Mutex.log] := by decide
  have visible : LogLevel.full ≠ .error := by decide
  have interrupted : interruptedMessage true =
      [.acquire .log] ++ (signalHandler .full ++ .release .log :: info .full) := rfl
  obtain ⟨⟨locks, outputs⟩, ran, reached⟩ := Option.map_eq_some_iff.mp defined
  obtain ⟨handling, twice⟩ := of_decide_eq_true reached
  refine ⟨locks, outputs, ran, ?_⟩
  intro rest final silent continued
  obtain ⟨still, owned, asking⟩ := (signal_stops_messages visible interrupted inside ran).2 handling rest final silent
    continued
  exact ⟨still, owned, (asking false).trans twice⟩

end Locking

end Vtb

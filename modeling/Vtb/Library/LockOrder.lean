import Vtb.Library.Machine

namespace Vtb.Library

/-- What a thread does with a mutex. -/
inductive LockAction (Mutex : Type*) where
  | acquire (mutex : Mutex)
  | release (mutex : Mutex)
deriving DecidableEq

/-- The owners of the mutexes, the guards that each thread has in scope, and what each thread still does. -/
structure Locks (Thread Mutex : Type*) where
  owner : Mutex → Option Thread
  guards : Thread → List Mutex
  script : Thread → List (LockAction Mutex)

namespace Locks
variable {Thread Mutex : Type*} [DecidableEq Thread] [DecidableEq Mutex]

/-- No mutex is owned, and every thread is at the start of its script. -/
def start (script : Thread → List (LockAction Mutex)) : Locks Thread Mutex := ⟨fun _ => none, fun _ => [], script⟩

/-- The thread owns the mutex from now on. -/
def taken (locks : Locks Thread Mutex) (thread : Thread) (mutex : Mutex) (rest : List (LockAction Mutex)) :
    Locks Thread Mutex :=
  ⟨Function.update locks.owner mutex (some thread),
    Function.update locks.guards thread (mutex :: locks.guards thread), Function.update locks.script thread rest⟩

/-- No thread owns the mutex from now on. -/
def freed (locks : Locks Thread Mutex) (thread : Thread) (mutex : Mutex) (rest : List (LockAction Mutex)) :
    Locks Thread Mutex :=
  ⟨Function.update locks.owner mutex none,
    Function.update locks.guards thread ((locks.guards thread).erase mutex), Function.update locks.script thread rest⟩

/-- A thread gets a mutex that no thread owns, not even itself, and it releases only what it owns. -/
def advance (locks : Locks Thread Mutex) (thread : Thread) : Option (Locks Thread Mutex) :=
  match locks.script thread with
  | [] => none
  | .acquire mutex :: rest => if locks.owner mutex = none then some (locks.taken thread mutex rest) else none
  | .release mutex :: rest => if locks.owner mutex = some thread then some (locks.freed thread mutex rest) else none

/-- The scheduler names the thread that takes the next step. -/
def machine : Machine (Locks Thread Mutex) Thread Unit :=
  ⟨fun locks thread => (locks.advance thread).map fun next => (next, [])⟩

/-- Every thread is at the end of its script. -/
def Finished (locks : Locks Thread Mutex) : Prop := ∀ thread, locks.script thread = []

/-- What one step of a thread does. -/
theorem advance_cases {locks next : Locks Thread Mutex} {thread : Thread} (stepped : locks.advance thread = some next) :
    (∃ mutex rest, locks.script thread = .acquire mutex :: rest ∧ locks.owner mutex = none ∧
      next = locks.taken thread mutex rest) ∨
    ∃ mutex rest, locks.script thread = .release mutex :: rest ∧ locks.owner mutex = some thread ∧
      next = locks.freed thread mutex rest := by
  unfold advance at stepped
  split at stepped
  · simp at stepped
  · next mutex rest script =>
      split at stepped
      · next free => exact .inl ⟨mutex, rest, script, free, (Option.some.inj stepped).symm⟩
      · simp at stepped
  · next mutex rest script =>
      split at stepped
      · next owned => exact .inr ⟨mutex, rest, script, owned, (Option.some.inj stepped).symm⟩
      · simp at stepped

theorem machine_step {locks next : Locks Thread Mutex} {thread : Thread} {outputs : List Unit} :
    machine.step locks thread = some (next, outputs) ↔ locks.advance thread = some next ∧ outputs = [] := by
  simp only [machine, Option.map_eq_some_iff, Prod.mk.injEq]
  constructor
  · intro ⟨found, stepped, same, silent⟩
    exact ⟨same ▸ stepped, silent.symm⟩
  · intro ⟨stepped, silent⟩
    exact ⟨next, stepped, rfl, silent.symm⟩

/-- A thread owns exactly the mutexes of its guards. -/
def Consistent (locks : Locks Thread Mutex) : Prop :=
  ∀ thread, (locks.guards thread).Nodup ∧ ∀ mutex, locks.owner mutex = some thread ↔ mutex ∈ locks.guards thread

omit [DecidableEq Thread] [DecidableEq Mutex] in
theorem consistent_start (script : Thread → List (LockAction Mutex)) : (start script).Consistent := by
  intro thread
  simp [start]

theorem Consistent.taken {locks : Locks Thread Mutex} (consistent : locks.Consistent) {thread : Thread}
    {mutex : Mutex} (rest : List (LockAction Mutex)) (free : locks.owner mutex = none) :
    (locks.taken thread mutex rest).Consistent := by
  intro other
  have fresh : ∀ holder, mutex ∉ locks.guards holder := by
    intro holder held
    have owned := ((consistent holder).2 mutex).mpr held
    simp [free] at owned
  by_cases own : other = thread
  · subst own
    apply And.intro
    · simpa [Locks.taken] using ⟨fresh other, (consistent other).1⟩
    · intro wanted
      by_cases same : wanted = mutex
      · subst same
        simp [Locks.taken]
      · simpa [Locks.taken, same] using (consistent other).2 wanted
  · apply And.intro
    · simpa [Locks.taken, own] using (consistent other).1
    · intro wanted
      by_cases same : wanted = mutex
      · subst same
        simp [Locks.taken, own, fresh other, Ne.symm own]
      · simpa [Locks.taken, own, same] using (consistent other).2 wanted

theorem Consistent.freed {locks : Locks Thread Mutex} (consistent : locks.Consistent) {thread : Thread}
    {mutex : Mutex} (rest : List (LockAction Mutex)) (owned : locks.owner mutex = some thread) :
    (locks.freed thread mutex rest).Consistent := by
  intro other
  by_cases own : other = thread
  · subst own
    apply And.intro
    · simpa [Locks.freed] using (consistent other).1.erase mutex
    · intro wanted
      by_cases same : wanted = mutex
      · subst same
        simp [Locks.freed, (consistent other).1.not_mem_erase]
      · simpa [Locks.freed, same, (consistent other).1.mem_erase_iff] using (consistent other).2 wanted
  · apply And.intro
    · simpa [Locks.freed, own] using (consistent other).1
    · intro wanted
      by_cases same : wanted = mutex
      · subst same
        have apart : wanted ∉ locks.guards other := by
          intro held
          exact own (Option.some.inj ((((consistent other).2 wanted).mpr held).symm.trans owned))
        simp [Locks.freed, own, apart]
      · simpa [Locks.freed, own, same] using (consistent other).2 wanted

theorem Consistent.advance {locks next : Locks Thread Mutex} (consistent : locks.Consistent) {thread : Thread}
    (stepped : locks.advance thread = some next) : next.Consistent := by
  rcases advance_cases stepped with ⟨mutex, rest, _, free, rfl⟩ | ⟨mutex, rest, _, owned, rfl⟩
  · exact consistent.taken rest free
  · exact consistent.freed rest owned

end Locks

/-- The guards in scope at the end of a script. -/
def holding {Mutex : Type*} [DecidableEq Mutex] : List Mutex → List (LockAction Mutex) → List Mutex
  | guards, [] => guards
  | guards, .acquire mutex :: rest => holding (mutex :: guards) rest
  | guards, .release mutex :: rest => holding (guards.erase mutex) rest

theorem holding_append {Mutex : Type*} [DecidableEq Mutex] (guards : List Mutex)
    (first second : List (LockAction Mutex)) :
    holding guards (first ++ second) = holding (holding guards first) second := by
  induction first generalizing guards with
  | nil => rfl
  | cons action first ih => cases action <;> exact ih _

/-- Guards are released in the reverse order of their acquisition, none is left at the end, and each mutex ranks
above the mutexes that are already held. -/
def Ordered {Mutex : Type*} (rank : Mutex → Nat) : List Mutex → List (LockAction Mutex) → Prop
  | guards, [] => guards = []
  | guards, .acquire mutex :: rest => (∀ held ∈ guards, rank held < rank mutex) ∧ Ordered rank (mutex :: guards) rest
  | [], .release _ :: _ => False
  | held :: guards, .release mutex :: rest => held = mutex ∧ Ordered rank guards rest

/-- A script that leaves the guards as they were and acquires only mutexes of a rank from `low` on. -/
def Nested {Mutex : Type*} (rank : Mutex → Nat) (low : Nat) (script : List (LockAction Mutex)) : Prop :=
  ∀ guards rest, (∀ held ∈ guards, rank held < low) → Ordered rank guards rest → Ordered rank guards (script ++ rest)

/-- A block under a lock guard. -/
def guarded {Mutex : Type*} (mutex : Mutex) (block : List (LockAction Mutex)) : List (LockAction Mutex) :=
  .acquire mutex :: block ++ [.release mutex]

section
variable {Mutex : Type*} {rank : Mutex → Nat} {low : Nat}

theorem nested_nil : Nested rank low [] := fun _ _ _ ordered => ordered

theorem Nested.append {first second : List (LockAction Mutex)} (nested : Nested rank low first)
    (later : Nested rank low second) : Nested rank low (first ++ second) := by
  intro guards rest below ordered
  rw [List.append_assoc]
  exact nested guards _ below (later guards rest below ordered)

theorem nested_flatten {scripts : List (List (LockAction Mutex))}
    (nested : ∀ script ∈ scripts, Nested rank low script) : Nested rank low scripts.flatten := by
  induction scripts with
  | nil => exact nested_nil
  | cons script scripts ih =>
      rw [List.flatten_cons]
      exact (nested script (by simp)).append (ih fun later member => nested later (by simp [member]))

/-- A block under a guard may acquire only mutexes that rank above the mutex of the guard. -/
theorem nested_guarded {mutex : Mutex} {block : List (LockAction Mutex)} (from_low : low ≤ rank mutex)
    (nested : Nested rank (rank mutex + 1) block) : Nested rank low (guarded mutex block) := by
  intro guards rest below ordered
  have inner : ∀ held ∈ mutex :: guards, rank held < rank mutex + 1 := by
    intro held member
    rcases List.mem_cons.mp member with same | outer
    · rw [same]
      omega
    · have := below held outer
      omega
  have whole := nested (mutex :: guards) (.release mutex :: rest) inner ⟨rfl, ordered⟩
  rw [guarded, List.cons_append, List.cons_append, List.append_assoc]
  exact ⟨fun held member => Nat.lt_of_lt_of_le (below held member) from_low, whole⟩

/-- A nested script on its own is ordered. -/
theorem Nested.ordered {script : List (LockAction Mutex)} (nested : Nested rank low script) : Ordered rank [] script := by
  have whole := nested [] [] (by simp) rfl
  rwa [List.append_nil] at whole

/-- A nested script may be put wherever only lower mutexes are held. -/
theorem Ordered.insert [DecidableEq Mutex] {before after script : List (LockAction Mutex)} {guards : List Mutex}
    (ordered : Ordered rank guards (before ++ after)) (nested : Nested rank low script)
    (below : ∀ held ∈ holding guards before, rank held < low) : Ordered rank guards (before ++ (script ++ after)) := by
  induction before generalizing guards with
  | nil => exact nested guards after below ordered
  | cons action before ih =>
      cases action with
      | acquire mutex => exact ⟨ordered.1, ih ordered.2 below⟩
      | release mutex =>
          cases guards with
          | nil => exact ordered.elim
          | cons held guards =>
              obtain ⟨rfl, later⟩ := ordered
              exact ⟨rfl, ih later (by simpa [holding] using below)⟩

end

namespace Locks
variable {Thread Mutex : Type*} [DecidableEq Thread] [DecidableEq Mutex] {rank : Mutex → Nat}

/-- Every thread has an ordered rest of its script in front of it. -/
structure Disciplined (rank : Mutex → Nat) (locks : Locks Thread Mutex) : Prop where
  consistent : locks.Consistent
  ordered : ∀ thread, Ordered rank (locks.guards thread) (locks.script thread)

omit [DecidableEq Thread] [DecidableEq Mutex] in
theorem disciplined_start {script : Thread → List (LockAction Mutex)}
    (ordered : ∀ thread, Ordered rank [] (script thread)) : (start script).Disciplined rank :=
  ⟨consistent_start script, ordered⟩

/-- A step keeps the order of every script. -/
theorem Disciplined.advance {locks next : Locks Thread Mutex} (disciplined : locks.Disciplined rank) {thread : Thread}
    (stepped : locks.advance thread = some next) : next.Disciplined rank where
  consistent := disciplined.consistent.advance stepped
  ordered other := by
    have before := disciplined.ordered other
    rcases advance_cases stepped with ⟨mutex, rest, here, _, rfl⟩ | ⟨mutex, rest, here, _, rfl⟩
    · by_cases own : other = thread
      · subst own
        rw [here] at before
        simpa [taken] using before.2
      · simpa [taken, own] using before
    · by_cases own : other = thread
      · subst own
        rw [here] at before
        cases guards : locks.guards other with
        | nil =>
            rw [guards] at before
            exact before.elim
        | cons held outer =>
            rw [guards] at before
            obtain ⟨rfl, later⟩ := before
            simpa [freed, guards] using later
      · simpa [freed, own] using before

omit [DecidableEq Thread] [DecidableEq Mutex] in
/-- A thread that holds a mutex is not at the end of its script. -/
theorem Disciplined.unfinished {locks : Locks Thread Mutex} (disciplined : locks.Disciplined rank) {thread : Thread}
    {mutex : Mutex} (held : mutex ∈ locks.guards thread) : locks.script thread ≠ [] := by
  intro ended
  have ordered := disciplined.ordered thread
  rw [ended] at ordered
  rw [show locks.guards thread = [] from ordered] at held
  simp at held

/-- A release is always possible. -/
theorem Disciplined.release_steps {locks : Locks Thread Mutex} (disciplined : locks.Disciplined rank) {thread : Thread}
    {mutex : Mutex} {rest : List (LockAction Mutex)} (here : locks.script thread = .release mutex :: rest) :
    ∃ next, locks.advance thread = some next := by
  have ordered := disciplined.ordered thread
  rw [here] at ordered
  cases guards : locks.guards thread with
  | nil =>
      rw [guards] at ordered
      exact ordered.elim
  | cons held outer =>
      rw [guards] at ordered
      have owned := ((disciplined.consistent thread).2 mutex).mpr (by simp [guards, ordered.1])
      exact ⟨locks.freed thread mutex rest, by simp [Locks.advance, here, owned]⟩

/-- The owner of the mutex that a thread waits for waits itself only for a higher mutex, so somebody moves. -/
theorem Disciplined.someone_steps {locks : Locks Thread Mutex} (disciplined : locks.Disciplined rank) {bound : Nat}
    (bounded : ∀ mutex, rank mutex < bound) (room : Nat) {thread : Thread} {mutex : Mutex}
    {rest : List (LockAction Mutex)} (here : locks.script thread = .acquire mutex :: rest)
    (above : bound ≤ rank mutex + room) : ∃ mover next, locks.advance mover = some next := by
  induction room generalizing thread mutex rest with
  | zero =>
      have low := bounded mutex
      omega
  | succ room ih =>
      cases owned : locks.owner mutex with
      | none => exact ⟨thread, locks.taken thread mutex rest, by simp [Locks.advance, here, owned]⟩
      | some owner =>
          have held := ((disciplined.consistent owner).2 mutex).mp owned
          have ordered := disciplined.ordered owner
          cases script : locks.script owner with
          | nil => exact absurd script (disciplined.unfinished held)
          | cons action later =>
              cases action with
              | release other => exact ⟨owner, disciplined.release_steps script⟩
              | acquire other =>
                  rw [script] at ordered
                  have higher := ordered.1 mutex held
                  exact ih script (by omega)

/-- As long as a thread is not at its end, some thread can take a step. -/
theorem Disciplined.no_deadlock {locks : Locks Thread Mutex} (disciplined : locks.Disciplined rank) {bound : Nat}
    (bounded : ∀ mutex, rank mutex < bound) {thread : Thread} (unfinished : locks.script thread ≠ []) :
    ∃ mover next, locks.advance mover = some next := by
  cases script : locks.script thread with
  | nil => exact absurd script unfinished
  | cons action rest =>
      cases action with
      | release mutex => exact ⟨thread, disciplined.release_steps script⟩
      | acquire mutex => exact disciplined.someone_steps bounded bound script (Nat.le_add_left ..)

/-- A run keeps the order of every script. -/
theorem disciplined_run {locks final : Locks Thread Mutex} (disciplined : locks.Disciplined rank)
    {schedule : List Thread} {outputs : List Unit} (ran : machine.run locks schedule = some (final, outputs)) :
    final.Disciplined rank :=
  machine.run_invariant (Disciplined rank) disciplined
    (fun _ _ _ _ before stepped => before.advance (machine_step.mp stepped).1) ran

/-- A step takes one action from the script of one thread. -/
theorem script_advance {locks next : Locks Thread Mutex} {thread : Thread} (stepped : locks.advance thread = some next) :
    (∃ action, locks.script thread = action :: next.script thread) ∧
      ∀ other, other ≠ thread → next.script other = locks.script other := by
  rcases advance_cases stepped with ⟨mutex, rest, here, _, rfl⟩ | ⟨mutex, rest, here, _, rfl⟩
  · exact ⟨⟨.acquire mutex, by simpa [taken] using here⟩, fun other apart => by simp [taken, apart]⟩
  · exact ⟨⟨.release mutex, by simpa [freed] using here⟩, fun other apart => by simp [freed, apart]⟩

section
variable [Fintype Thread]

/-- The actions that all threads together still have in front of them. -/
def remaining (locks : Locks Thread Mutex) : Nat := ∑ thread, (locks.script thread).length

theorem remaining_advance {locks next : Locks Thread Mutex} {thread : Thread}
    (stepped : locks.advance thread = some next) : locks.remaining = next.remaining + 1 := by
  obtain ⟨⟨action, here⟩, others⟩ := script_advance stepped
  have rest : ∑ other ∈ Finset.univ.erase thread, (locks.script other).length =
      ∑ other ∈ Finset.univ.erase thread, (next.script other).length :=
    Finset.sum_congr rfl fun other member => by rw [others other (Finset.ne_of_mem_erase member)]
  rw [remaining, remaining, ← Finset.add_sum_erase _ _ (Finset.mem_univ thread),
    ← Finset.add_sum_erase _ (fun other => (next.script other).length) (Finset.mem_univ thread), rest, here,
    List.length_cons]
  omega

/-- Every disciplined state can be run until every thread is at its end. -/
theorem Disciplined.completes {locks : Locks Thread Mutex} (disciplined : locks.Disciplined rank) {bound : Nat}
    (bounded : ∀ mutex, rank mutex < bound) :
    ∃ schedule final outputs, machine.run locks schedule = some (final, outputs) ∧ final.Finished := by
  generalize count : locks.remaining = actions
  induction actions generalizing locks with
  | zero =>
      refine ⟨[], locks, [], rfl, ?_⟩
      intro thread
      have empty := (Finset.sum_eq_zero_iff.mp count) thread (Finset.mem_univ thread)
      exact List.length_eq_zero_iff.mp empty
  | succ actions ih =>
      by_cases ended : locks.Finished
      · exact ⟨[], locks, [], rfl, ended⟩
      · obtain ⟨thread, unfinished⟩ := not_forall.mp ended
        obtain ⟨mover, next, stepped⟩ := disciplined.no_deadlock bounded unfinished
        have counted := remaining_advance stepped
        obtain ⟨schedule, final, outputs, ran, finished⟩ := ih (disciplined.advance stepped) (by omega)
        refine ⟨mover :: schedule, final, outputs, ?_, finished⟩
        exact machine.run_cons_eq_some.mpr ⟨next, [], outputs, machine_step.mpr ⟨stepped, rfl⟩, ran, rfl⟩

end

/-- Each thread is behind a part of its script, and its guards are those that this part leaves. -/
structure Follows (script : Thread → List (LockAction Mutex)) (locks : Locks Thread Mutex) : Prop where
  consistent : locks.Consistent
  behind : ∀ thread, ∃ past, script thread = past ++ locks.script thread ∧ locks.guards thread = holding [] past

theorem Follows.advance {script : Thread → List (LockAction Mutex)} {locks next : Locks Thread Mutex}
    (follows : locks.Follows script) {thread : Thread} (stepped : locks.advance thread = some next) :
    next.Follows script where
  consistent := follows.consistent.advance stepped
  behind other := by
    obtain ⟨past, whole, guards⟩ := follows.behind other
    rcases advance_cases stepped with ⟨mutex, rest, here, _, rfl⟩ | ⟨mutex, rest, here, _, rfl⟩
    · by_cases own : other = thread
      · subst own
        refine ⟨past ++ [.acquire mutex], by simp [taken, whole, here], ?_⟩
        rw [holding_append, ← guards]
        simp [taken, holding]
      · exact ⟨past, by simpa [taken, own] using whole, by simpa [taken, own] using guards⟩
    · by_cases own : other = thread
      · subst own
        refine ⟨past ++ [.release mutex], by simp [freed, whole, here], ?_⟩
        rw [holding_append, ← guards]
        simp [freed, holding]
      · exact ⟨past, by simpa [freed, own] using whole, by simpa [freed, own] using guards⟩

theorem follows_run {script : Thread → List (LockAction Mutex)} {final : Locks Thread Mutex} {schedule : List Thread}
    {outputs : List Unit} (ran : machine.run (start script) schedule = some (final, outputs)) : final.Follows script :=
  machine.run_invariant (Follows script) ⟨consistent_start script, fun _ => ⟨[], rfl, rfl⟩⟩
    (fun _ _ _ _ before stepped => before.advance (machine_step.mp stepped).1) ran

/-- A thread waits for a mutex that it owns itself. -/
def WaitsForItself (locks : Locks Thread Mutex) (thread : Thread) (mutex : Mutex)
    (after : List (LockAction Mutex)) : Prop :=
  locks.script thread = .acquire mutex :: after ∧ locks.owner mutex = some thread

omit [DecidableEq Thread] in
/-- A thread that reaches the request for a mutex that it already holds waits for itself. -/
theorem Follows.waitsForItself {script : Thread → List (LockAction Mutex)} {locks : Locks Thread Mutex}
    (follows : locks.Follows script) {thread : Thread} {mutex : Mutex} {before after : List (LockAction Mutex)}
    (whole : script thread = before ++ .acquire mutex :: after) (held : mutex ∈ holding [] before)
    (reached : locks.script thread = .acquire mutex :: after) : locks.WaitsForItself thread mutex after := by
  apply And.intro reached
  obtain ⟨past, split, guards⟩ := follows.behind thread
  rw [reached] at split
  obtain rfl := List.append_cancel_right (split.symm.trans whole)
  exact ((follows.consistent thread).2 mutex).mpr (by rwa [guards])

/-- A thread that asks for a mutex it already holds never gets past this point. -/
theorem never_past {script : Thread → List (LockAction Mutex)} {thread : Thread} {mutex : Mutex}
    {before after : List (LockAction Mutex)} (here : script thread = before ++ .acquire mutex :: after)
    (held : mutex ∈ holding [] before) {final : Locks Thread Mutex} {schedule : List Thread} {outputs : List Unit}
    (ran : machine.run (start script) schedule = some (final, outputs)) :
    (LockAction.acquire mutex :: after).length ≤ (final.script thread).length := by
  apply (machine.run_history (fun _ state _ => state.Follows script ∧
    (LockAction.acquire mutex :: after).length ≤ (state.script thread).length) _ _ ran).2
  · exact ⟨⟨consistent_start script, fun _ => ⟨[], rfl, rfl⟩⟩, by simp [start, here]⟩
  · intro past state emitted mover next later _ reached stepped
    obtain ⟨follows, left⟩ := reached
    have moved := (machine_step.mp stepped).1
    apply And.intro (follows.advance moved)
    obtain ⟨⟨action, taken⟩, others⟩ := script_advance moved
    by_cases own : mover = thread
    · subst own
      by_contra short
      -- The step would take the action at the mutex that the thread holds.
      obtain ⟨done, whole, _⟩ := follows.behind mover
      have length : (state.script mover).length = (LockAction.acquire mutex :: after).length := by
        have count := congrArg List.length taken
        simp only [List.length_cons] at count left short ⊢
        omega
      have asks := (List.append_inj' (here.symm.trans whole) length.symm).2
      have waits := follows.waitsForItself here held asks.symm
      simp [Locks.advance, waits.1, waits.2] at moved
    · rw [others thread (Ne.symm own)]
      exact left

/-- Such a thread keeps the mutex and stays where it is, and no thread gets past a request for the mutex. -/
theorem waitsForItself_run {locks final : Locks Thread Mutex} {thread : Thread} {mutex : Mutex}
    {after : List (LockAction Mutex)} (waits : locks.WaitsForItself thread mutex after) {schedule : List Thread}
    {outputs : List Unit} (ran : machine.run locks schedule = some (final, outputs)) :
    final.WaitsForItself thread mutex after ∧
      ∀ other, (final.script other).count (.acquire mutex) = (locks.script other).count (.acquire mutex) := by
  apply machine.run_invariant (fun state => state.WaitsForItself thread mutex after ∧
    ∀ other, (state.script other).count (.acquire mutex) = (locks.script other).count (.acquire mutex))
    ⟨waits, fun _ => rfl⟩ _ ran
  intro state mover next later before stepped
  obtain ⟨⟨here, owned⟩, asking⟩ := before
  have moved := (machine_step.mp stepped).1
  rcases advance_cases moved with ⟨wanted, rest, script, free, rfl⟩ | ⟨wanted, rest, script, holds, rfl⟩
  · have different : wanted ≠ mutex := by
      rintro rfl
      simp [owned] at free
    have apart : mover ≠ thread := by
      rintro rfl
      rw [here] at script
      exact different (by simpa using (List.cons.inj script).1.symm)
    refine ⟨⟨by simpa [taken, Ne.symm apart] using here, by simpa [taken, Ne.symm different] using owned⟩, ?_⟩
    intro other
    rw [← asking other]
    by_cases own : other = mover
    · subst own
      simp [taken, script, different]
    · simp [taken, own]
  · have apart : mover ≠ thread := by
      rintro rfl
      rw [here] at script
      simp at script
    have different : wanted ≠ mutex := by
      rintro rfl
      exact apart (Option.some.inj (holds.symm.trans owned))
    refine ⟨⟨by simpa [freed, Ne.symm apart] using here, by simpa [freed, Ne.symm different] using owned⟩, ?_⟩
    intro other
    rw [← asking other]
    by_cases own : other = mover
    · subst own
      simp [freed, script]
    · simp [freed, own]

end Locks

end Vtb.Library

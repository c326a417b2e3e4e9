import Vtb.Library.Machine

namespace Vtb.Library

/-- A procedure works on the shared data in small steps of its own, and its last step gives an answer.
A step has no result where the modelled program has no defined behaviour. -/
structure Procedures (Call Position Shared Answer : Type*) where
  entry : Call → Position
  step : Position → Shared → Option (Shared × (Position ⊕ Answer))

/-- Where a thread is with respect to the monitor. -/
inductive Activity (Call Position Answer : Type*) where
  | outside
  | waiting (call : Call)
  | inside (call : Call) (position : Position)
  | leaving (call : Call) (answer : Answer)

/-- The shared data, the thread that holds the mutex, and the threads. -/
structure Monitor (Thread Call Position Shared Answer : Type*) where
  shared : Shared
  holder : Option Thread
  activity : Thread → Activity Call Position Answer

/-- One step of one thread. -/
inductive MonitorAction (Thread Call : Type*) where
  | invoke (thread : Thread) (call : Call)
  | acquire (thread : Thread)
  | work (thread : Thread)
  | release (thread : Thread)

/-- A call that has returned to its thread. -/
structure Returned (Thread Call Answer : Type*) where
  thread : Thread
  call : Call
  answer : Answer

namespace Procedures
variable {Thread Call Position Shared Answer : Type*} (procedures : Procedures Call Position Shared Answer)

/-- The small steps from a position to the answer, without a step of another thread in between. -/
inductive Performs : Position → Shared → Shared → Answer → Prop where
  | last {position : Position} {shared after : Shared} {answer : Answer}
      (stepped : procedures.step position shared = some (after, .inr answer)) :
      Performs position shared after answer
  | next {position later : Position} {shared middle after : Shared} {answer : Answer}
      (stepped : procedures.step position shared = some (middle, .inl later))
      (rest : Performs later middle after answer) : Performs position shared after answer

/-- Nobody uses the monitor. -/
def idle (shared : Shared) : Monitor Thread Call Position Shared Answer := ⟨shared, none, fun _ => .outside⟩

variable [DecidableEq Thread]

/-- One thread changes its place. -/
def put (monitor : Monitor Thread Call Position Shared Answer) (thread : Thread)
    (activity : Activity Call Position Answer) : Monitor Thread Call Position Shared Answer :=
  { monitor with activity := Function.update monitor.activity thread activity }

/-- What the last small step of the holder leaves to it. -/
def proceed (call : Call) : Position ⊕ Answer → Activity Call Position Answer
  | .inl later => .inside call later
  | .inr answer => .leaving call answer

/-- A thread gets the mutex only when no thread holds it, and it works only inside. -/
def act (monitor : Monitor Thread Call Position Shared Answer) :
    MonitorAction Thread Call →
      Option (Monitor Thread Call Position Shared Answer × List (Returned Thread Call Answer))
  | .invoke thread call =>
      match monitor.activity thread with
      | .outside => some (put monitor thread (.waiting call), [])
      | _ => none
  | .acquire thread =>
      match monitor.activity thread, monitor.holder with
      | .waiting call, none =>
          some (put { monitor with holder := some thread } thread (.inside call (procedures.entry call)), [])
      | _, _ => none
  | .work thread =>
      match monitor.activity thread with
      | .inside call position =>
          (procedures.step position monitor.shared).map fun worked =>
            (put { monitor with shared := worked.1 } thread (proceed call worked.2), [])
      | _ => none
  | .release thread =>
      match monitor.activity thread with
      | .leaving call answer => some (put { monitor with holder := none } thread .outside, [⟨thread, call, answer⟩])
      | _ => none

/-- The threads take their steps in any order. -/
def threads : Machine (Monitor Thread Call Position Shared Answer) (MonitorAction Thread Call)
    (Returned Thread Call Answer) := ⟨procedures.act⟩

end Procedures

/-- The thread has not got the mutex for a call. -/
def Activity.Waits {Call Position Answer : Type*} : Activity Call Position Answer → Prop
  | .outside => True
  | .waiting _ => True
  | _ => False

namespace Procedures

section
variable {Call Position Shared Answer : Type*} {procedures : Procedures Call Position Shared Answer}
  {position later : Position} {shared middle after : Shared} {given answer : Answer}

/-- A step to a later position leaves the rest of the way. -/
theorem performs_next (stepped : procedures.step position shared = some (middle, .inl later)) :
    procedures.Performs position shared after answer ↔ procedures.Performs later middle after answer := by
  constructor
  · intro performed
    cases performed with
    | last ended => simp [ended] at stepped
    | next moved rest =>
        rw [stepped] at moved
        obtain ⟨rfl, rfl⟩ : middle = _ ∧ later = _ := by simpa using moved
        exact rest
  · exact .next stepped

/-- A step to an answer is the end of the way. -/
theorem performs_last (stepped : procedures.step position shared = some (middle, .inr given)) :
    procedures.Performs position shared after answer ↔ middle = after ∧ given = answer := by
  constructor
  · intro performed
    cases performed with
    | last ended =>
        rw [stepped] at ended
        simpa using ended
    | next moved rest => simp [moved] at stepped
  · intro same
    obtain ⟨rfl, rfl⟩ := same
    exact .last stepped

/-- There is no way to an answer through undefined behaviour. -/
theorem performs_undefined (stepped : procedures.step position shared = none) :
    procedures.Performs position shared after answer ↔ False := by
  constructor
  · intro performed
    cases performed with
    | last ended => simp [ended] at stepped
    | next moved rest => simp [moved] at stepped
  · exact False.elim

end

variable {Thread Call Position Shared Output : Type*}
  (procedures : Procedures Call Position Shared (List Output)) (atomic : Machine Shared Call Output)

/-- Each procedure does in its small steps what the machine does in one step. -/
def Implements : Prop :=
  ∀ call shared after answer, procedures.Performs (procedures.entry call) shared after answer ↔
    atomic.step shared call = some (after, answer)

/-- The holder is on its way from the data that the returned calls left. -/
inductive Serves (base : Shared) (monitor : Monitor Thread Call Position Shared (List Output)) : Prop where
  | free (nobody : monitor.holder = none) (unchanged : monitor.shared = base)
      (others : ∀ thread, (monitor.activity thread).Waits)
  | working (thread : Thread) (call : Call) (position : Position) (holds : monitor.holder = some thread)
      (here : monitor.activity thread = .inside call position)
      (reaches : ∀ after answer, procedures.Performs position monitor.shared after answer ↔
        procedures.Performs (procedures.entry call) base after answer)
      (others : ∀ other, other ≠ thread → (monitor.activity other).Waits)
  | done (thread : Thread) (call : Call) (answer : List Output) (holds : monitor.holder = some thread)
      (here : monitor.activity thread = .leaving call answer)
      (performed : procedures.Performs (procedures.entry call) base monitor.shared answer)
      (others : ∀ other, other ≠ thread → (monitor.activity other).Waits)

/-- The returned calls ran one after the other, and the holder continues from there. -/
def Linear (start : Shared) (monitor : Monitor Thread Call Position Shared (List Output))
    (returned : List (Returned Thread Call (List Output))) : Prop :=
  ∃ base, atomic.run start (returned.map Returned.call) = some (base, returned.flatMap Returned.answer) ∧
    procedures.Serves base monitor

/-- Each returned call has the answer that the machine gives after the calls returned before it. -/
def Answered (start : Shared) (returned : List (Returned Thread Call (List Output))) : Prop :=
  ∀ past own rest, returned = past ++ own :: rest → ∃ before after,
    atomic.run start (past.map Returned.call) = some (before, past.flatMap Returned.answer) ∧
      atomic.step before own.call = some (after, own.answer)

section
variable {procedures : Procedures Call Position Shared (List Output)} {base : Shared}
  {monitor next : Monitor Thread Call Position Shared (List Output)}
  {returned : List (Returned Thread Call (List Output))}

/-- A thread that is not waiting holds the mutex. -/
theorem Serves.holds (serves : procedures.Serves base monitor) (thread : Thread)
    (busy : ¬ (monitor.activity thread).Waits) : monitor.holder = some thread := by
  cases serves with
  | free nobody unchanged others => exact absurd (others thread) busy
  | working holder call position holds here reaches others =>
      by_contra apart
      have different : thread ≠ holder := fun same => apart (by rw [holds, same])
      exact busy (others thread different)
  | done holder call answer holds here performed others =>
      by_contra apart
      have different : thread ≠ holder := fun same => apart (by rw [holds, same])
      exact busy (others thread different)

variable [DecidableEq Thread]

@[simp] theorem put_same (monitor : Monitor Thread Call Position Shared (List Output)) (thread : Thread)
    (activity : Activity Call Position (List Output)) : (put monitor thread activity).activity thread = activity :=
  Function.update_self ..

theorem put_other (monitor : Monitor Thread Call Position Shared (List Output)) {thread other : Thread}
    (different : other ≠ thread) (activity : Activity Call Position (List Output)) :
    (put monitor thread activity).activity other = monitor.activity other :=
  Function.update_of_ne different ..

/-- A thread outside that calls changes nothing for the holder. -/
theorem Serves.invoke (serves : procedures.Serves base monitor) {thread : Thread} (call : Call)
    (outside : monitor.activity thread = .outside) : procedures.Serves base (put monitor thread (.waiting call)) := by
  have waits : ∀ other, (monitor.activity other).Waits →
      ((put monitor thread (.waiting call)).activity other).Waits := by
    intro other before
    by_cases own : other = thread
    · subst own
      rw [put_same]
      trivial
    · rw [put_other _ own]
      exact before
  have apart : ∀ {holder : Thread} {activity : Activity Call Position (List Output)},
      monitor.activity holder = activity → ¬ activity.Waits → holder ≠ thread := by
    intro holder activity here busy same
    subst same
    rw [← here, outside] at busy
    exact busy trivial
  cases serves with
  | free nobody unchanged others => exact .free nobody unchanged fun other => waits other (others other)
  | working holder started position holds here reaches others =>
      have different := apart here id
      exact .working holder started position holds (by rw [put_other _ different, here]) reaches
        fun other distinct => waits other (others other distinct)
  | done holder started answer holds here performed others =>
      have different := apart here id
      exact .done holder started answer holds (by rw [put_other _ different, here]) performed
        fun other distinct => waits other (others other distinct)

/-- The thread that gets the free mutex starts its procedure on the data of the returned calls. -/
theorem Serves.acquire (serves : procedures.Serves base monitor) {thread : Thread} {call : Call}
    (free : monitor.holder = none) :
    procedures.Serves base
      (put { monitor with holder := some thread } thread (.inside call (procedures.entry call))) := by
  cases serves with
  | free nobody unchanged others =>
      apply Serves.working thread call (procedures.entry call) rfl (put_same ..)
      · intro after answer
        rw [← unchanged]
        exact Iff.rfl
      · intro other different
        rw [put_other _ different]
        exact others other
  | working holder started position holds here reaches others => simp [free] at holds
  | done holder started answer holds here performed others => simp [free] at holds

/-- A small step of the holder brings it nearer to its answer. -/
theorem Serves.work (serves : procedures.Serves base monitor) {thread : Thread} {call : Call}
    {position : Position} {worked : Shared × (Position ⊕ List Output)}
    (inside : monitor.activity thread = .inside call position)
    (stepped : procedures.step position monitor.shared = some worked) :
    procedures.Serves base (put { monitor with shared := worked.1 } thread (proceed call worked.2)) := by
  have own := serves.holds thread (by simp [inside, Activity.Waits])
  cases serves with
  | free nobody unchanged others => simp [nobody] at own
  | done holder started answer holds here performed others =>
      obtain rfl : holder = thread := Option.some.inj (holds.symm.trans own)
      simp [inside] at here
  | working holder started position holds here reaches others =>
      obtain rfl : holder = thread := Option.some.inj (holds.symm.trans own)
      rw [inside] at here
      obtain ⟨rfl, rfl⟩ := Activity.inside.inj here
      have rest : ∀ other, other ≠ holder →
          ((put { monitor with shared := worked.1 } holder (proceed call worked.2)).activity other).Waits := by
        intro other different
        rw [put_other _ different]
        exact others other different
      obtain ⟨shared, outcome⟩ := worked
      cases outcome with
      | inl later =>
          exact .working holder call later holds (put_same ..)
            (fun after answer => (performs_next stepped).symm.trans (reaches after answer)) rest
      | inr answer =>
          exact .done holder call answer holds (put_same ..) ((reaches shared answer).mp (.last stepped)) rest

/-- The mutex becomes free when the holder returns. -/
theorem Serves.release (serves : procedures.Serves base monitor) {thread : Thread} {call : Call}
    {answer : List Output} (leaving : monitor.activity thread = .leaving call answer) :
    procedures.Performs (procedures.entry call) base monitor.shared answer ∧
      procedures.Serves monitor.shared (put { monitor with holder := none } thread .outside) := by
  have own := serves.holds thread (by simp [leaving, Activity.Waits])
  cases serves with
  | free nobody unchanged others => simp [nobody] at own
  | working holder started position holds here reaches others =>
      obtain rfl : holder = thread := Option.some.inj (holds.symm.trans own)
      simp [leaving] at here
  | done holder started given holds here performed others =>
      obtain rfl : holder = thread := Option.some.inj (holds.symm.trans own)
      rw [leaving] at here
      obtain ⟨rfl, rfl⟩ := Activity.leaving.inj here
      apply And.intro performed
      refine .free rfl rfl ?_
      intro other
      by_cases same : other = holder
      · subst same
        rw [put_same]
        trivial
      · rw [put_other _ same]
        exact others other same

/-- Every step of every thread keeps the returned calls in one sequence. -/
theorem Linear.step {atomic : Machine Shared Call Output} (implements : procedures.Implements atomic)
    {start : Shared} (linear : procedures.Linear atomic start monitor returned)
    {action : MonitorAction Thread Call} {later : List (Returned Thread Call (List Output))}
    (stepped : procedures.threads.step monitor action = some (next, later)) :
    procedures.Linear atomic start next (returned ++ later) := by
  obtain ⟨base, ran, serves⟩ := linear
  cases action with
  | invoke thread call =>
      simp only [threads, act] at stepped
      split at stepped
      · next outside =>
          obtain ⟨rfl, rfl⟩ := Prod.mk.inj (Option.some.inj stepped)
          exact ⟨base, by simpa using ran, serves.invoke call outside⟩
      · simp at stepped
  | acquire thread =>
      simp only [threads, act] at stepped
      split at stepped
      · next call waiting free =>
          obtain ⟨rfl, rfl⟩ := Prod.mk.inj (Option.some.inj stepped)
          exact ⟨base, by simpa using ran, serves.acquire free⟩
      · simp at stepped
  | work thread =>
      simp only [threads, act] at stepped
      split at stepped
      · next call position inside =>
          obtain ⟨worked, small, same⟩ := Option.map_eq_some_iff.mp stepped
          obtain ⟨rfl, rfl⟩ := Prod.mk.inj same
          exact ⟨base, by simpa using ran, serves.work inside small⟩
      · simp at stepped
  | release thread =>
      simp only [threads, act] at stepped
      split at stepped
      · next call answer leaving =>
          obtain ⟨rfl, rfl⟩ := Prod.mk.inj (Option.some.inj stepped)
          obtain ⟨performed, after⟩ := serves.release leaving
          apply Exists.intro monitor.shared
          rw [List.map_append, List.flatMap_append]
          apply And.intro _ after
          have whole := atomic.run_concat_of_step ran ((implements _ _ _ _).mp performed)
          simpa using whole
      · simp at stepped

/-- Every interleaving of the threads is one sequence of atomic calls in the order of their returns. -/
theorem linear_run {atomic : Machine Shared Call Output} (implements : procedures.Implements atomic)
    {start : Shared} {actions : List (MonitorAction Thread Call)}
    (ran : procedures.threads.run (idle start) actions = some (monitor, returned)) :
    procedures.Linear atomic start monitor returned :=
  have begins : procedures.Linear atomic start (idle start : Monitor Thread Call Position Shared (List Output)) [] :=
    ⟨start, rfl, .free rfl rfl fun _ => trivial⟩
  procedures.threads.run_history (fun _ state past => procedures.Linear atomic start state past) begins
    (fun _ _ _ _ _ _ _ linear stepped => linear.step implements stepped) ran

/-- Only a return adds to the returned calls, and it adds one. -/
theorem act_returned {action : MonitorAction Thread Call} {later : List (Returned Thread Call (List Output))}
    (stepped : procedures.threads.step monitor action = some (next, later)) :
    later = [] ∨ ∃ own, later = [own] := by
  cases action with
  | invoke thread call =>
      simp only [threads, act] at stepped
      split at stepped
      · exact .inl (Prod.mk.inj (Option.some.inj stepped)).2.symm
      · simp at stepped
  | acquire thread =>
      simp only [threads, act] at stepped
      split at stepped
      · exact .inl (Prod.mk.inj (Option.some.inj stepped)).2.symm
      · simp at stepped
  | work thread =>
      simp only [threads, act] at stepped
      split at stepped
      · obtain ⟨worked, _, same⟩ := Option.map_eq_some_iff.mp stepped
        exact .inl (Prod.mk.inj same).2.symm
      · simp at stepped
  | release thread =>
      simp only [threads, act] at stepped
      split at stepped
      · exact .inr ⟨_, (Prod.mk.inj (Option.some.inj stepped)).2.symm⟩
      · simp at stepped

omit [DecidableEq Thread] in
/-- One more returned call has its answer from the data of the calls before it. -/
theorem Answered.concat {atomic : Machine Shared Call Output} {start base last : Shared} {own : Returned Thread Call (List Output)}
    (answered : Answered atomic start returned)
    (before : atomic.run start (returned.map Returned.call) = some (base, returned.flatMap Returned.answer))
    (whole : atomic.run start ((returned ++ [own]).map Returned.call) =
      some (last, (returned ++ [own]).flatMap Returned.answer)) :
    Answered atomic start (returned ++ [own]) := by
  intro past other rest split
  rcases List.eq_nil_or_concat rest with rfl | ⟨front, newest, rfl⟩
  · obtain ⟨rfl, same⟩ := List.append_inj' split rfl
    obtain rfl := (List.cons.inj same).1
    rw [List.map_append, List.map_cons, List.map_nil, List.flatMap_append, List.flatMap_singleton] at whole
    obtain ⟨middle, early, late, first, stepped, same⟩ := atomic.run_concat_eq_some.mp whole
    rw [before, Option.some.injEq, Prod.mk.injEq] at first
    obtain ⟨rfl, rfl⟩ := first
    rw [List.append_cancel_left_eq] at same
    exact ⟨base, last, before, by rw [stepped, same]⟩
  · rw [List.concat_eq_append, ← List.cons_append, ← List.append_assoc] at split
    exact answered past other front (List.append_inj' split rfl).1

/-- In every interleaving each call has the answer of the sequence of the returns. -/
theorem answered_run {atomic : Machine Shared Call Output} (implements : procedures.Implements atomic)
    {start : Shared} {actions : List (MonitorAction Thread Call)}
    (ran : procedures.threads.run (idle start) actions = some (monitor, returned)) :
    Answered atomic start returned := by
  have begins : procedures.Linear atomic start (idle start : Monitor Thread Call Position Shared (List Output)) [] :=
    ⟨start, rfl, .free rfl rfl fun _ => trivial⟩
  have both := procedures.threads.run_history
    (fun _ state past => procedures.Linear atomic start state past ∧ Answered atomic start past)
    ⟨begins, fun past own rest split => by simp at split⟩
    (by
      intro _ state past action next later _ held stepped
      obtain ⟨linear, answered⟩ := held
      have extended := linear.step implements stepped
      apply And.intro extended
      rcases act_returned stepped with rfl | ⟨own, rfl⟩
      · rw [List.append_nil]
        exact answered
      · obtain ⟨base, before, _⟩ := linear
        obtain ⟨last, whole, _⟩ := extended
        exact answered.concat before whole)
    ran
  exact both.2

/-- The holder has a next step as long as its call is defined on the data of the returned calls. -/
theorem Serves.holder_proceeds {atomic : Machine Shared Call Output} (implements : procedures.Implements atomic)
    (serves : procedures.Serves base monitor) {thread : Thread} {call : Call} {position : Position}
    (inside : monitor.activity thread = .inside call position)
    (defined : ∃ result, atomic.step base call = some result) :
    ∃ next, procedures.threads.step monitor (.work thread) = some next := by
  have own := serves.holds thread (by simp [inside, Activity.Waits])
  cases serves with
  | free nobody unchanged others => simp [nobody] at own
  | done holder started answer holds here performed others =>
      obtain rfl : holder = thread := Option.some.inj (holds.symm.trans own)
      simp [inside] at here
  | working holder started place holds here reaches others =>
      obtain rfl : holder = thread := Option.some.inj (holds.symm.trans own)
      rw [inside] at here
      obtain ⟨rfl, rfl⟩ := Activity.inside.inj here
      obtain ⟨⟨last, outputs⟩, stepped⟩ := defined
      have performed := (reaches _ _).mpr ((implements _ _ _ _).mpr stepped)
      cases small : procedures.step position monitor.shared with
      | none => exact ((performs_undefined small).mp performed).elim
      | some worked => simp [threads, act, inside, small]

end

end Procedures

end Vtb.Library

import Mathlib.Tactic

namespace Vtb.Library

/-- A machine has a partial step that emits a list of outputs.
The step has no result where the modelled program has no defined behaviour. -/
structure Machine (State Input Output : Type*) where
  step : State → Input → Option (State × List Output)

namespace Machine
variable {State Input Output : Type*} (machine : Machine State Input Output)

/-- A run feeds the inputs from left to right and collects the outputs. -/
def run : State → List Input → Option (State × List Output)
  | state, [] => some (state, [])
  | state, input :: rest =>
      (machine.step state input).bind fun next =>
        (run next.1 rest).map fun final => (final.1, next.2 ++ final.2)

@[simp] theorem run_nil (state : State) : machine.run state [] = some (state, []) := rfl

theorem run_cons (state : State) (input : Input) (rest : List Input) :
    machine.run state (input :: rest) =
      (machine.step state input).bind fun next =>
        (machine.run next.1 rest).map fun final => (final.1, next.2 ++ final.2) := rfl

theorem run_singleton (state : State) (input : Input) : machine.run state [input] = machine.step state input := by
  rw [run_cons]
  cases machine.step state input <;> simp

/-- A successful run of a nonempty list is one step followed by a run. -/
theorem run_cons_eq_some {state final : State} {input : Input} {rest : List Input}
    {outputs : List Output} :
    machine.run state (input :: rest) = some (final, outputs) ↔
      ∃ next emitted later, machine.step state input = some (next, emitted) ∧
        machine.run next rest = some (final, later) ∧ outputs = emitted ++ later := by
  simp only [run_cons, Option.bind_eq_some_iff, Option.map_eq_some_iff, Prod.exists, Prod.mk.injEq]
  constructor
  · rintro ⟨next, emitted, stepped, last, later, ran, rfl, rfl⟩
    exact ⟨next, emitted, later, stepped, ran, rfl⟩
  · rintro ⟨next, emitted, later, stepped, ran, rfl⟩
    exact ⟨next, emitted, stepped, final, later, ran, rfl, rfl⟩

/-- A run splits at every point of its input. -/
theorem run_append_eq_some {state final : State} {first second : List Input} {outputs : List Output} :
    machine.run state (first ++ second) = some (final, outputs) ↔
      ∃ middle emitted later, machine.run state first = some (middle, emitted) ∧
        machine.run middle second = some (final, later) ∧ outputs = emitted ++ later := by
  induction first generalizing state outputs with
  | nil => simp
  | cons input rest ih =>
      simp only [List.cons_append, run_cons_eq_some, ih]
      constructor
      · rintro ⟨next, emitted, _, stepped, ⟨middle, between, later, ran, continued, rfl⟩, rfl⟩
        exact ⟨middle, emitted ++ between, later, ⟨next, emitted, between, stepped, ran, rfl⟩,
          continued, by simp⟩
      · rintro ⟨middle, _, later, ⟨next, emitted, between, stepped, ran, rfl⟩, continued, rfl⟩
        exact ⟨next, emitted, between ++ later, stepped, ⟨middle, between, later, ran, continued, rfl⟩,
          by simp⟩

/-- The last input of a run is one step from the state before it. -/
theorem run_concat_eq_some {state final : State} {past : List Input} {input : Input}
    {outputs : List Output} :
    machine.run state (past ++ [input]) = some (final, outputs) ↔
      ∃ middle emitted later, machine.run state past = some (middle, emitted) ∧
        machine.step middle input = some (final, later) ∧ outputs = emitted ++ later := by
  simp only [run_append_eq_some, run_cons_eq_some, run_nil, Option.some.injEq, Prod.mk.injEq]
  constructor
  · rintro ⟨middle, emitted, _, ran, ⟨_, later, _, stepped, ⟨rfl, rfl⟩, rfl⟩, rfl⟩
    exact ⟨middle, emitted, later, ran, stepped, by simp⟩
  · rintro ⟨middle, emitted, later, ran, stepped, rfl⟩
    exact ⟨middle, emitted, later, ran, ⟨final, later, [], stepped, ⟨rfl, rfl⟩, by simp⟩, rfl⟩

theorem run_concat_of_step {start state next : State} {past : List Input} {input : Input}
    {emitted later : List Output} (ran : machine.run start past = some (state, emitted))
    (stepped : machine.step state input = some (next, later)) :
    machine.run start (past ++ [input]) = some (next, emitted ++ later) :=
  machine.run_concat_eq_some.mpr ⟨state, emitted, later, ran, stepped, rfl⟩

/-- A relation between the history and the state holds after every run
when it holds at the start and each step extends it. -/
theorem run_history {start : State} (holds : List Input → State → List Output → Prop)
    (initial : holds [] start [])
    (advance : ∀ past state emitted input next later,
      machine.run start past = some (state, emitted) → holds past state emitted →
      machine.step state input = some (next, later) → holds (past ++ [input]) next (emitted ++ later))
    {history : List Input} {final : State} {outputs : List Output}
    (ran : machine.run start history = some (final, outputs)) : holds history final outputs := by
  induction history using List.reverseRecOn generalizing final outputs with
  | nil =>
      simp only [run_nil, Option.some.injEq, Prod.mk.injEq] at ran
      obtain ⟨rfl, rfl⟩ := ran
      exact initial
  | append_singleton past input ih =>
      obtain ⟨state, emitted, later, before, stepped, rfl⟩ := machine.run_concat_eq_some.mp ran
      exact advance past state emitted input final later before (ih before) stepped

/-- A state predicate that each step preserves holds after every run. -/
theorem run_invariant {start final : State} (holds : State → Prop) (initial : holds start)
    (preserve : ∀ state input next later, holds state →
      machine.step state input = some (next, later) → holds next)
    {history : List Input} {outputs : List Output}
    (ran : machine.run start history = some (final, outputs)) : holds final :=
  machine.run_history (fun _ state _ => holds state) initial
    (fun _ state _ input next later _ held stepped => preserve state input next later held stepped) ran

/-- A run of one machine is matched by a run of another when each allowed step is.
The outputs that the second machine has no counterpart for are dropped. -/
theorem run_simulates {Other Signal Event : Type*} (abstract : Machine Other Signal Event)
    (related : State → Other → Prop) (input : Input → Signal) (output : Output → Option Event)
    (allowed : Input → Prop)
    (advance : ∀ state other value next emitted, related state other → allowed value →
      machine.step state value = some (next, emitted) →
      ∃ later, abstract.step other (input value) = some (later, emitted.filterMap output) ∧
        related next later)
    {history : List Input} (inside : ∀ value ∈ history, allowed value)
    {start final : State} {other : Other} (initial : related start other) {outputs : List Output}
    (ran : machine.run start history = some (final, outputs)) :
    ∃ last, abstract.run other (history.map input) = some (last, outputs.filterMap output) ∧
      related final last := by
  induction history generalizing start other outputs with
  | nil =>
      simp only [run_nil, Option.some.injEq, Prod.mk.injEq] at ran
      obtain ⟨rfl, rfl⟩ := ran
      exact ⟨other, rfl, initial⟩
  | cons value rest ih =>
      obtain ⟨next, emitted, later, stepped, continued, rfl⟩ := machine.run_cons_eq_some.mp ran
      obtain ⟨after, matched, kept⟩ := advance start other value next emitted initial
        (inside value (by simp)) stepped
      obtain ⟨last, followed, held⟩ := ih (fun other member => inside other (by simp [member])) kept
        continued
      refine ⟨last, ?_, held⟩
      rw [List.map_cons, List.filterMap_append]
      exact abstract.run_cons_eq_some.mpr ⟨after, _, _, matched, followed, rfl⟩

end Machine

/-- Each input of the list is allowed after the inputs before it. -/
def Admits {Input : Type*} (allowed : List Input → Input → Prop) (history : List Input) : Prop :=
  ∀ past input rest, history = past ++ input :: rest → allowed past input

section Admits
variable {Input : Type*} {allowed : List Input → Input → Prop}

@[simp] theorem admits_nil : Admits allowed [] := by
  intro past input rest split
  simp at split

/-- The last input needs permission after the whole list before it. -/
theorem admits_concat {past : List Input} {input : Input} :
    Admits allowed (past ++ [input]) ↔ Admits allowed past ∧ allowed past input := by
  constructor
  · intro admitted
    refine ⟨?_, admitted past input [] rfl⟩
    intro earlier first rest split
    exact admitted earlier first (rest ++ [input]) (by simp [split])
  · rintro ⟨before, last⟩ earlier first rest split
    rcases List.eq_nil_or_concat rest with rfl | ⟨front, final, rfl⟩
    · obtain ⟨rfl, same⟩ := List.append_inj' split rfl
      obtain rfl : input = first := by simpa using same
      exact last
    · have shifted : past ++ [input] = (earlier ++ first :: front) ++ [final] := by
        simpa using split
      exact before earlier first front (List.append_inj' shifted rfl).1

/-- The first input needs permission at the start, and it is part of the past of the others. -/
theorem admits_cons {input : Input} {rest : List Input} :
    Admits allowed (input :: rest) ↔
      allowed [] input ∧ Admits (fun past later => allowed (input :: past) later) rest := by
  constructor
  · intro admitted
    have tail : Admits (fun past later => allowed (input :: past) later) rest := by
      intro past later more split
      exact admitted (input :: past) later more (by simp [split])
    exact ⟨admitted [] input rest rfl, tail⟩
  · intro both past later more split
    cases past with
    | nil =>
        obtain ⟨rfl, _⟩ := List.cons.inj split
        exact both.1
    | cons head tail =>
        obtain ⟨rfl, shorter⟩ := List.cons.inj split
        exact both.2 tail later more shorter

/-- The images of a list are admitted when the rule reads the images. -/
theorem admits_map {Source : Type*} (image : Source → Input) {history : List Source} :
    Admits allowed (history.map image) ↔
      Admits (fun past input => allowed (past.map image) (image input)) history := by
  constructor
  · intro admitted past input rest split
    exact admitted (past.map image) (image input) (rest.map image) (by simp [split])
  · intro admitted past input rest split
    obtain ⟨before, tail, whole, same, remaining⟩ := List.map_eq_append_iff.mp split
    obtain ⟨source, after, shape, hit, _⟩ := List.map_eq_cons_iff.mp remaining
    rw [← same, ← hit]
    exact admitted before source after (by rw [whole, shape])

/-- Two rules admit the same list when they agree on each of its inputs. -/
theorem admits_congr {other : List Input → Input → Prop} {history : List Input}
    (agree : ∀ past input rest, history = past ++ input :: rest → (allowed past input ↔ other past input)) :
    Admits allowed history ↔ Admits other history := by
  constructor
  · intro admitted past input rest split
    exact (agree past input rest split).mp (admitted past input rest split)
  · intro admitted past input rest split
    exact (agree past input rest split).mpr (admitted past input rest split)

/-- A prefix of an admitted list is admitted. -/
theorem Admits.of_append {first second : List Input} (admitted : Admits allowed (first ++ second)) :
    Admits allowed first := by
  intro past input rest split
  exact admitted past input (rest ++ second) (by simp [split])

/-- The rule can be checked position by position. -/
theorem admits_iff_take {history : List Input} :
    Admits allowed history ↔ ∀ index : Fin history.length, allowed (history.take index) history[index] := by
  constructor
  · intro admitted index
    refine admitted _ _ (history.drop (index + 1)) ?_
    simp
  · rintro checked past input rest rfl
    have here := checked ⟨past.length, by simp⟩
    simpa using here

instance [∀ past input, Decidable (allowed past input)] (history : List Input) :
    Decidable (Admits allowed history) :=
  decidable_of_iff _ admits_iff_take.symm

/-- Permission rules combine input by input. -/
theorem admits_and {other : List Input → Input → Prop} {history : List Input} :
    Admits (fun past input => allowed past input ∧ other past input) history ↔
      Admits allowed history ∧ Admits other history := by
  constructor
  · intro both
    exact ⟨fun past input rest split => (both past input rest split).1,
      fun past input rest split => (both past input rest split).2⟩
  · rintro ⟨left, right⟩ past input rest split
    exact ⟨left past input rest split, right past input rest split⟩

/-- An admitted list runs to a defined state when every allowed step is defined. -/
theorem Machine.run_defined {State Output : Type*} (machine : Machine State Input Output)
    {start : State} (holds : List Input → State → List Output → Prop) (initial : holds [] start [])
    (advance : ∀ past state emitted input, machine.run start past = some (state, emitted) →
      holds past state emitted → allowed past input →
      ∃ next later, machine.step state input = some (next, later) ∧
        holds (past ++ [input]) next (emitted ++ later))
    {history : List Input} (admitted : Admits allowed history) :
    ∃ final outputs, machine.run start history = some (final, outputs) ∧ holds history final outputs := by
  induction history using List.reverseRecOn with
  | nil => exact ⟨start, [], rfl, initial⟩
  | append_singleton past input ih =>
      obtain ⟨before, last⟩ := admits_concat.mp admitted
      obtain ⟨state, emitted, ran, held⟩ := ih before
      obtain ⟨next, later, stepped, extended⟩ := advance past state emitted input ran held last
      exact ⟨next, emitted ++ later, machine.run_concat_of_step ran stepped, extended⟩

/-- A list runs to a defined state exactly when each input is allowed,
provided a step from a state of the invariant is defined exactly then. -/
theorem Machine.run_defined_iff {State Output : Type*} (machine : Machine State Input Output)
    {start : State} (holds : List Input → State → Prop) (initial : holds [] start)
    (advance : ∀ past state input next later, holds past state →
      machine.step state input = some (next, later) → holds (past ++ [input]) next)
    (exact : ∀ past state input, holds past state →
      ((∃ next later, machine.step state input = some (next, later)) ↔ allowed past input))
    {history : List Input} :
    (∃ final outputs, machine.run start history = some (final, outputs)) ↔ Admits allowed history := by
  constructor
  · intro ⟨final, outputs, ran⟩ past input rest split
    rw [split] at ran
    obtain ⟨state, _, _, before, continued, _⟩ := machine.run_append_eq_some.mp ran
    obtain ⟨next, later, _, stepped, _, _⟩ := machine.run_cons_eq_some.mp continued
    have held := machine.run_history (fun past state _ => holds past state) initial
      (fun past state _ input next later _ held stepped => advance past state input next later held stepped)
      before
    exact (exact past state input held).mp ⟨next, later, stepped⟩
  · intro admitted
    obtain ⟨final, outputs, ran, _⟩ := machine.run_defined (fun past state _ => holds past state) initial
      (by
        intro past state emitted input _ held permitted
        obtain ⟨next, later, stepped⟩ := (exact past state input held).mpr permitted
        exact ⟨next, later, stepped, advance past state input next later held stepped⟩)
      admitted
    exact ⟨final, outputs, ran⟩

/-- A property holds after every prefix exactly when each input is allowed,
provided an allowed input keeps it and the first forbidden input breaks it. -/
theorem every_prefix_iff_admits (good : List Input → Prop) (empty : good [])
    {history : List Input}
    (keep : ∀ past input, past ++ [input] <+: history → Admits allowed past → good past →
      allowed past input → good (past ++ [input]))
    (broken : ∀ past input, past ++ [input] <+: history → Admits allowed past → good past →
      ¬ allowed past input → ¬ good (past ++ [input])) :
    (∀ past, past <+: history → good past) ↔ Admits allowed history := by
  have both : ∀ past, past <+: history →
      ((∀ early, early <+: past → good early) ↔ Admits allowed past) := by
    intro past
    induction past using List.reverseRecOn with
    | nil =>
        intro _
        simp [empty]
    | append_singleton past input ih =>
        intro within
        have earlier := ih (List.IsPrefix.trans (List.prefix_append past [input]) within)
        constructor
        · intro all
          have admitted := earlier.mp fun early inside =>
            all early (inside.trans (List.prefix_append past [input]))
          refine admits_concat.mpr ⟨admitted, ?_⟩
          by_contra forbidden
          exact broken past input within admitted (all past (List.prefix_append past [input]))
            forbidden (all _ (List.prefix_refl _))
        · intro admitted
          obtain ⟨before, last⟩ := admits_concat.mp admitted
          have held := earlier.mpr before
          intro early inside
          rcases List.prefix_concat_iff.mp inside with rfl | shorter
          · exact keep past input within before (held past (List.prefix_refl past)) last
          · exact held early shorter
  exact both history (List.prefix_refl history)

end Admits

namespace Machine
variable {State Input Output : Type*} (machine : Machine State Input Output)

/-- A defined run reaches a state after each of its prefixes. -/
theorem run_of_prefix {start final : State} {past history : List Input} {outputs : List Output}
    (within : past <+: history) (ran : machine.run start history = some (final, outputs)) :
    ∃ state emitted, machine.run start past = some (state, emitted) := by
  obtain ⟨rest, rfl⟩ := within
  obtain ⟨state, emitted, _, before, _, _⟩ := machine.run_append_eq_some.mp ran
  exact ⟨state, emitted, before⟩

/-- A property of the state after a given history is a property of every state it reaches. -/
theorem forall_run_iff {start state : State} {past : List Input} {emitted : List Output}
    (reached : machine.run start past = some (state, emitted)) (property : State → Prop) :
    (∀ other more, machine.run start past = some (other, more) → property other) ↔ property state := by
  constructor
  · intro every
    exact every state emitted reached
  · intro held other more again
    obtain ⟨rfl, _⟩ := Prod.mk.inj (Option.some.inj (reached.symm.trans again))
    exact held

/-- A property holds in every state of a run exactly when each input is allowed,
provided a step from a state with the property keeps it exactly when its input is allowed. -/
theorem run_every_iff {start final : State} {history : List Input} {outputs : List Output}
    (ran : machine.run start history = some (final, outputs)) (good : List Input → State → Prop)
    {allowed : List Input → Input → Prop} (initial : good [] start)
    (advance : ∀ past state emitted input next later, machine.run start past = some (state, emitted) →
      good past state → machine.step state input = some (next, later) →
      (good (past ++ [input]) next ↔ allowed past input)) :
    (∀ past, past <+: history → ∀ state emitted, machine.run start past = some (state, emitted) →
      good past state) ↔ Admits allowed history := by
  have oneStep : ∀ past input, past ++ [input] <+: history →
      (∀ state emitted, machine.run start past = some (state, emitted) → good past state) →
      ((∀ state emitted, machine.run start (past ++ [input]) = some (state, emitted) →
        good (past ++ [input]) state) ↔ allowed past input) := by
    intro past input within held
    obtain ⟨next, outputs, after⟩ := machine.run_of_prefix within ran
    obtain ⟨state, emitted, later, before, stepped, _⟩ := machine.run_concat_eq_some.mp after
    rw [machine.forall_run_iff after]
    exact advance past state emitted input next later before (held state emitted before) stepped
  refine every_prefix_iff_admits _ ?_ ?_ ?_
  · exact (machine.forall_run_iff (machine.run_nil start) (good [])).mpr initial
  · intro past input within _ held permitted
    exact (oneStep past input within held).mpr permitted
  · intro past input within _ held forbidden
    exact fun kept => forbidden ((oneStep past input within held).mp kept)

end Machine

end Vtb.Library

import Vtb.Library.Machine
import Vtb.Library.Latest

namespace Vtb.Library

/-- Each input names one key, and it rewrites the entry of that key.
The rewrite has no result where the modelled program has no defined behaviour. -/
structure Keyed (Key Entry Input : Type*) where
  key : Input → Key
  rewrite : Input → Option Entry → Option (Option Entry)

namespace Keyed
variable {Key Entry Input State Output : Type*}

/-- A machine rewrites the named entry and keeps the entries of the other keys. -/
structure Drives (keyed : Keyed Key Entry Input) (machine : Machine State Input Output)
    (lookup : State → Key → Option Entry) : Prop where
  named : ∀ state input next outputs, machine.step state input = some (next, outputs) →
    keyed.rewrite input (lookup state (keyed.key input)) = some (lookup next (keyed.key input))
  others : ∀ state input next outputs, machine.step state input = some (next, outputs) →
    ∀ key, key ≠ keyed.key input → lookup next key = lookup state key
  defined : ∀ state input entry, keyed.rewrite input (lookup state (keyed.key input)) = some entry →
    ∃ next outputs, machine.step state input = some (next, outputs)

/-- An input that names the key decides its presence, or it leaves the presence as it was. -/
def Presents (keyed : Keyed Key Entry Input) (presence : Input → Option Bool) : Prop :=
  ∀ input entry after, keyed.rewrite input entry = some after →
    after.isSome = (presence input).getD entry.isSome

/-- The presence that an input gives to one key. -/
def presenceAt [DecidableEq Key] (keyed : Keyed Key Entry Input) (presence : Input → Option Bool)
    (key : Key) (input : Input) : Option Bool :=
  if keyed.key input = key then presence input else none

section
variable [DecidableEq Key] {keyed : Keyed Key Entry Input} {machine : Machine State Input Output}
  {lookup : State → Key → Option Entry} {start final : State} {history : List Input}
  {outputs : List Output}

/-- The entry of a key depends on the inputs that name it only. -/
theorem Drives.alone (drives : keyed.Drives machine lookup)
    (ran : machine.run start history = some (final, outputs)) (key : Key) :
    ∃ alone own, machine.run start (history.filter fun input => keyed.key input = key) =
        some (alone, own) ∧ lookup final key = lookup alone key := by
  apply machine.run_history (fun past state _ =>
    ∃ alone own, machine.run start (past.filter fun input => keyed.key input = key) =
      some (alone, own) ∧ lookup state key = lookup alone key) ⟨start, [], rfl, rfl⟩ _ ran
  rintro past state emitted input next later _ ⟨alone, own, ranAlone, same⟩ stepped
  rw [List.filter_append]
  by_cases hit : keyed.key input = key
  · subst hit
    have rewritten := drives.named _ _ _ _ stepped
    rw [same] at rewritten
    obtain ⟨after, ownLater, steppedAlone⟩ := drives.defined _ _ _ rewritten
    refine ⟨after, own ++ ownLater, ?_, ?_⟩
    · simpa using machine.run_concat_of_step ranAlone steppedAlone
    · have rewrittenAlone := drives.named _ _ _ _ steppedAlone
      exact Option.some.inj (rewritten.symm.trans rewrittenAlone)
  · refine ⟨alone, own, by simpa [hit] using ranAlone, ?_⟩
    rw [drives.others _ _ _ _ stepped key (Ne.symm hit)]
    exact same

/-- A key is present when the last input that decides its presence says so. -/
theorem Drives.present (drives : keyed.Drives machine lookup) {presence : Input → Option Bool}
    (presents : keyed.Presents presence) (ran : machine.run start history = some (final, outputs))
    (key : Key) :
    (lookup final key).isSome =
      (latest (keyed.presenceAt presence key) history).getD (lookup start key).isSome := by
  apply machine.run_history (fun past state _ => (lookup state key).isSome =
    (latest (keyed.presenceAt presence key) past).getD (lookup start key).isSome) rfl _ ran
  intro past state emitted input next later _ held stepped
  rw [latest_concat, presenceAt]
  by_cases hit : keyed.key input = key
  · subst hit
    rw [presents _ _ _ (drives.named _ _ _ _ stepped), held, if_pos rfl]
    cases presence input <;> rfl
  · rw [drives.others _ _ _ _ stepped key (Ne.symm hit), held, if_neg hit, Option.none_or]

/-- A relation between the history and the entry of one key holds after every run
when the inputs that name the key extend it and the other inputs keep it. -/
theorem Drives.entry_history (drives : keyed.Drives machine lookup) (key : Key) (allowed : Input → Prop)
    (holds : List Input → Option Entry → Prop) (initial : holds [] (lookup start key))
    (own : ∀ past input entry after, keyed.key input = key → allowed input → holds past entry →
      keyed.rewrite input entry = some after → holds (past ++ [input]) after)
    (others : ∀ past input entry, keyed.key input ≠ key → holds past entry → holds (past ++ [input]) entry)
    (inside : ∀ input ∈ history, allowed input)
    (ran : machine.run start history = some (final, outputs)) : holds history (lookup final key) := by
  have kept := machine.run_history
    (fun past state _ => (∀ input ∈ past, allowed input) → holds past (lookup state key))
    (fun _ => initial)
    (by
      intro past state emitted input next later _ held stepped permitted
      have before := held fun other member => permitted other (by simp [member])
      by_cases hit : keyed.key input = key
      · subst hit
        exact own past input _ _ rfl (permitted input (by simp)) before (drives.named _ _ _ _ stepped)
      · rw [drives.others _ _ _ _ stepped key (Ne.symm hit)]
        exact others past input _ hit before)
    ran
  exact kept inside

end

end Keyed

end Vtb.Library

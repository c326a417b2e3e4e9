import Vtb.Library.Latest

namespace Vtb.Library

/-- What an input is to the life of a resource: it opens a new epoch, it ends the life, or neither. -/
inductive Mark (Tag : Type*) where
  | opens (tag : Tag)
  | ends
  | inside

/-- The inputs after the one that opened the epoch and before the next one that opens an epoch. -/
structure Epoch (Tag Input : Type*) where
  tag : Tag
  inputs : List Input

section
variable {Tag Input Value : Type*} (mark : Input → Mark Tag)

/-- An input that neither opens an epoch nor ends the life belongs to the newest epoch. -/
def extendEpochs (epochs : List (Epoch Tag Input)) (input : Input) : List (Epoch Tag Input) :=
  match mark input with
  | .opens tag => ⟨tag, []⟩ :: epochs
  | .ends => []
  | .inside =>
      match epochs with
      | [] => []
      | current :: earlier => ⟨current.tag, current.inputs ++ [input]⟩ :: earlier

/-- The epochs of a history since the last end, the newest one first. -/
def epochs (history : List Input) : List (Epoch Tag Input) := history.foldl (extendEpochs mark) []

/-- The inputs of all epochs in their order. -/
def epochInputs : List (Epoch Tag Input) → List Input
  | [] => []
  | current :: earlier => epochInputs earlier ++ current.inputs

/-- The value that a register got last in the newest epoch that covers it. -/
def lastCovered (covers : Tag → Bool) (view : Input → Option Value) (epochs : List (Epoch Tag Input)) :
    Option Value :=
  (epochs.find? fun epoch => covers epoch.tag).bind fun epoch => latest view epoch.inputs

@[simp] theorem epochs_nil : epochs mark [] = [] := rfl

theorem epochs_concat (past : List Input) (input : Input) :
    epochs mark (past ++ [input]) = extendEpochs mark (epochs mark past) input := by
  rw [epochs, List.foldl_append, List.foldl_cons, List.foldl_nil, epochs]

variable {mark}

theorem epochs_concat_opens {input : Input} {tag : Tag} (marked : mark input = .opens tag)
    (past : List Input) : epochs mark (past ++ [input]) = ⟨tag, []⟩ :: epochs mark past := by
  simp only [epochs_concat, extendEpochs, marked]

theorem epochs_concat_ends {input : Input} (marked : mark input = .ends) (past : List Input) :
    epochs mark (past ++ [input]) = [] := by
  simp only [epochs_concat, extendEpochs, marked]

theorem epochs_concat_inside {input : Input} (marked : mark input = .inside) (past : List Input) :
    epochs mark (past ++ [input]) =
      match epochs mark past with
      | [] => []
      | current :: earlier => ⟨current.tag, current.inputs ++ [input]⟩ :: earlier := by
  simp only [epochs_concat, extendEpochs, marked]

/-- Each epoch was opened by an input with its tag. -/
theorem opened_of_mem {history : List Input} {epoch : Epoch Tag Input} (member : epoch ∈ epochs mark history) :
    ∃ input ∈ history, mark input = .opens epoch.tag := by
  induction history using List.reverseRecOn generalizing epoch with
  | nil => simp at member
  | append_singleton past input ih =>
      have earlier {other : Epoch Tag Input} (there : other ∈ epochs mark past) :
          ∃ first ∈ past ++ [input], mark first = .opens other.tag := by
        obtain ⟨first, inside, marked⟩ := ih there
        exact ⟨first, by simp [inside], marked⟩
      cases marked : mark input with
      | opens tag =>
          rw [epochs_concat_opens marked] at member
          rcases List.mem_cons.mp member with rfl | older
          · exact ⟨input, by simp, marked⟩
          · exact earlier older
      | ends =>
          rw [epochs_concat_ends marked] at member
          simp at member
      | inside =>
          rw [epochs_concat_inside marked] at member
          cases known : epochs mark past with
          | nil => simp [known] at member
          | cons current rest =>
              rw [known] at member earlier
              rcases List.mem_cons.mp member with rfl | older
              · have first : current ∈ current :: rest := by simp
                have found := earlier first
                exact found
              · exact earlier (by simp [older])

end

section
variable {Tag Input Value : Type*} {covers : Tag → Bool} {view : Input → Option Value}
  {current : Epoch Tag Input} {earlier : List (Epoch Tag Input)} {input : Input}

/-- An epoch that has just opened has given no value to the registers that it covers,
and it hides no value of the other registers. -/
theorem lastCovered_opened (tag : Tag) (epochs : List (Epoch Tag Input)) :
    lastCovered covers view (⟨tag, []⟩ :: epochs) =
      if covers tag then none else lastCovered covers view epochs := by
  by_cases covered : covers tag <;> simp [lastCovered, covered]

/-- An input of the newest epoch decides a register that this epoch covers and no other register. -/
theorem lastCovered_extended :
    lastCovered covers view (⟨current.tag, current.inputs ++ [input]⟩ :: earlier) =
      if covers current.tag then (view input).or (lastCovered covers view (current :: earlier))
      else lastCovered covers view (current :: earlier) := by
  by_cases covered : covers current.tag
  · simp [lastCovered, covered, latest_concat]
  · simp [lastCovered, covered]

/-- An input without a view changes no register. -/
theorem lastCovered_extended_of_none (unseen : view input = none) :
    lastCovered covers view (⟨current.tag, current.inputs ++ [input]⟩ :: earlier) =
      lastCovered covers view (current :: earlier) := by
  rw [lastCovered_extended, unseen, Option.none_or, ite_self]

/-- A register that no epoch covers has no value. -/
@[simp] theorem lastCovered_nil : lastCovered covers view [] = none := rfl

/-- The inputs of all epochs end with the last input of the newest one. -/
theorem epochInputs_extended :
    epochInputs (⟨current.tag, current.inputs ++ [input]⟩ :: earlier) =
      epochInputs (current :: earlier) ++ [input] := by
  simp [epochInputs]

end

end Vtb.Library

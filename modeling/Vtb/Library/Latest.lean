import Mathlib.Tactic

namespace Vtb.Library
variable {Input Value : Type*}

/-- The value that the last input with a view gives to a register. -/
def latest (view : Input → Option Value) (history : List Input) : Option Value :=
  (history.filterMap view).getLast?

@[simp] theorem latest_nil (view : Input → Option Value) : latest view [] = none := rfl

theorem latest_append (view : Input → Option Value) (first second : List Input) :
    latest view (first ++ second) = (latest view second).or (latest view first) := by
  simp [latest, List.getLast?_append]

/-- The last input decides, and an input without a view changes nothing. -/
theorem latest_concat (view : Input → Option Value) (past : List Input) (input : Input) :
    latest view (past ++ [input]) = (view input).or (latest view past) := by
  rw [latest_append]
  cases seen : view input <;> simp [latest, seen]

theorem latest_cons (view : Input → Option Value) (input : Input) (rest : List Input) :
    latest view (input :: rest) = (latest view rest).or (view input) := by
  rw [show input :: rest = [input] ++ rest from rfl, latest_append]
  cases seen : view input <;> simp [latest, seen]

/-- A register of the images is a register of the sources. -/
theorem latest_map {Source : Type*} (view : Input → Option Value) (image : Source → Input)
    (history : List Source) : latest view (history.map image) = latest (view ∘ image) history := by
  simp [latest, List.filterMap_map]

/-- A write decides the value of its register. -/
theorem latest_concat_of_some {view : Input → Option Value} {input : Input}
    (past : List Input) (value : Value) (seen : view input = some value) :
    latest view (past ++ [input]) = some value := by
  rw [latest_concat, seen, Option.some_or]

/-- An unrelated input keeps the value of a register. -/
theorem latest_concat_of_none {view : Input → Option Value} {input : Input}
    (past : List Input) (unseen : view input = none) :
    latest view (past ++ [input]) = latest view past := by
  rw [latest_concat, unseen, Option.none_or]

/-- A value comes from the last input that has a view. -/
theorem exists_of_latest {view : Input → Option Value} {history : List Input} {value : Value}
    (found : latest view history = some value) :
    ∃ before input later, history = before ++ input :: later ∧ view input = some value ∧
      ∀ other ∈ later, view other = none := by
  induction history using List.reverseRecOn with
  | nil => simp at found
  | append_singleton past last ih =>
      rw [latest_concat] at found
      cases seen : view last with
      | none =>
          rw [seen, Option.none_or] at found
          obtain ⟨before, input, later, rfl, own, silent⟩ := ih found
          refine ⟨before, input, later ++ [last], by simp, own, ?_⟩
          intro other member
          rcases List.mem_append.mp member with inside | here
          · exact silent other inside
          · rw [List.mem_singleton.mp here, seen]
      | some first =>
          rw [seen, Option.some_or] at found
          exact ⟨past, last, [], rfl, by rw [seen, found], by simp⟩

end Vtb.Library

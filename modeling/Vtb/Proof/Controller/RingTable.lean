import Vtb.Library.CheckedArray

namespace Vtb.RingTable
open Library

/-- The rings that a device table holds. -/
abbrev ringCount : Nat := 8 * 2

/-- The table of a device after one ring notification; an unknown device starts with -1 everywhere. -/
def record (table : Option (List Int)) (qid : Nat) (enable : Int) : List Int :=
  (table.getD (List.replicate ringCount (-1))).set qid enable

/-- The handler whose ring pair a notification completes.
Only the odd ring of a known device completes a pair, and only after the even one. -/
def completes (table : Option (List Int)) (qid : Nat) (enable : Int) : Option Nat :=
  match table with
  | none => none
  | some rings =>
      if qid % 2 = 1 ∧ enable = 1 ∧ rings[qid - 1]? = some 1 then some (qid / 2) else none

section
variable {table : Option (List Int)} {qid pair : Nat} {enable : Int}

/-- A completed pair names its two rings. -/
theorem completes_eq_some :
    completes table qid enable = some pair ↔
      qid = 2 * pair + 1 ∧ enable = 1 ∧ ∃ rings, table = some rings ∧ rings[2 * pair]? = some 1 := by
  cases table with
  | none => simp [completes]
  | some rings =>
      constructor
      · intro complete
        simp only [completes, Option.ite_none_right_eq_some, Option.some.injEq] at complete
        obtain ⟨⟨odd, enabled, partner⟩, half⟩ := complete
        have number : qid = 2 * pair + 1 := by omega
        refine ⟨number, enabled, rings, rfl, ?_⟩
        rw [show 2 * pair = qid - 1 by omega]
        exact partner
      · rintro ⟨rfl, rfl, _, same, partner⟩
        obtain rfl := Option.some.inj same
        have odd : (2 * pair + 1) % 2 = 1 := by omega
        have half : (2 * pair + 1) / 2 = pair := by omega
        simp [completes, odd, half, partner]

/-- A table has sixteen rings after every notification. -/
theorem length_record (sized : ∀ rings, table = some rings → rings.length = ringCount) :
    (record table qid enable).length = ringCount := by
  cases table with
  | none => simp [record]
  | some rings => simpa [record] using sized rings rfl

/-- A notification decides its own ring and keeps the other rings. -/
theorem getElem?_record (enable : Int) (sized : ∀ rings, table = some rings → rings.length = ringCount)
    (inside : qid < ringCount) (ring : Nat) :
    (record table qid enable)[ring]? =
      if ring = qid then some enable else (table.getD (List.replicate ringCount (-1)))[ring]? := by
  have fits : qid < (table.getD (List.replicate ringCount (-1))).length := by
    cases table with
    | none => simpa using inside
    | some rings => simpa [sized rings rfl] using inside
  by_cases same : ring = qid
  · subst same
    simp [record, fits]
  · simp [record, same, Ne.symm same]

end

end Vtb.RingTable

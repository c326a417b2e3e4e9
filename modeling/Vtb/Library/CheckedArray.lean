import Mathlib.Tactic

namespace Vtb.Library

/-- An array read is defined only inside the array. -/
def readAt {α : Type*} (cells : List α) (index : Int) : Option α :=
  if 0 ≤ index then cells[index.toNat]? else none

/-- An array write is defined only inside the array. -/
def writeAt {α : Type*} (cells : List α) (index : Int) (value : α) : Option (List α) :=
  if 0 ≤ index ∧ index.toNat < cells.length then some (cells.set index.toNat value) else none

section
variable {α : Type*} {cells : List α} {index : Nat}

@[simp] theorem readAt_natCast (cells : List α) (index : Nat) : readAt cells index = cells[index]? := by
  simp [readAt]

theorem writeAt_natCast (cells : List α) (value : α) (inside : index < cells.length) :
    writeAt cells index value = some (cells.set index value) := by
  simp [writeAt, inside]

/-- A defined write stays inside the array. -/
theorem writeAt_eq_some {position : Int} {value : α} {written : List α} :
    writeAt cells position value = some written ↔
      ∃ index : Nat, position = index ∧ index < cells.length ∧ written = cells.set index value := by
  constructor
  · intro stored
    unfold writeAt at stored
    split at stored
    · next inside =>
        obtain rfl := Option.some.inj stored
        exact ⟨position.toNat, by omega, inside.2, rfl⟩
    · simp at stored
  · rintro ⟨index, rfl, inside, rfl⟩
    exact writeAt_natCast cells value inside

end

/-- A read of a fixed array is defined only inside the array. -/
def readCell {α : Type*} {size : Nat} (cells : Vector α size) (index : Int) : Option α :=
  if 0 ≤ index then cells[index.toNat]? else none

/-- A write of a fixed array is defined only inside the array. -/
def writeCell {α : Type*} {size : Nat} (cells : Vector α size) (index : Int) (value : α) :
    Option (Vector α size) :=
  if inside : 0 ≤ index ∧ index.toNat < size then some (cells.set index.toNat value inside.2) else none

section
variable {α : Type*} {size : Nat} {cells : Vector α size} {index : Nat}

@[simp] theorem get_eq_getElem (cells : Vector α size) (position : Fin size) :
    cells.get position = cells[position.val] := rfl

@[simp] theorem readCell_natCast (cells : Vector α size) (index : Nat) :
    readCell cells index = cells[index]? := by
  simp [readCell]

theorem writeCell_natCast (cells : Vector α size) (value : α) (inside : index < size) :
    writeCell cells index value = some (cells.set index value inside) := by
  simp [writeCell, inside]

/-- A read of a fixed array is defined exactly inside the array. -/
theorem readCell_defined {position : Int} :
    (∃ value, readCell cells position = some value) ↔ 0 ≤ position ∧ position < size := by
  constructor
  · intro ⟨value, read⟩
    unfold readCell at read
    split at read
    · next low =>
        have high := (Vector.getElem?_eq_some_iff.mp read).1
        exact ⟨low, by omega⟩
    · simp at read
  · intro ⟨low, high⟩
    obtain ⟨index, rfl⟩ := Int.eq_ofNat_of_zero_le low
    have inside : index < size := by omega
    exact ⟨cells[index], by rw [readCell_natCast, Vector.getElem?_eq_getElem inside]⟩

/-- A write of a fixed array is defined exactly inside the array. -/
theorem writeCell_defined {position : Int} {value : α} :
    (∃ written, writeCell cells position value = some written) ↔ 0 ≤ position ∧ position < size := by
  constructor
  · intro ⟨written, stored⟩
    unfold writeCell at stored
    split at stored
    · next inside => omega
    · simp at stored
  · intro ⟨low, high⟩
    obtain ⟨index, rfl⟩ := Int.eq_ofNat_of_zero_le low
    exact ⟨_, writeCell_natCast cells value (by omega)⟩

/-- A write decides its own position and keeps the other positions. -/
theorem get_set (cells : Vector α size) (value : α) (inside : index < size) (position : Fin size) :
    (cells.set index value inside).get position = if index = position then value else cells.get position :=
  Vector.getElem_set ..

end

/-- Two arrays that are overwritten alike up to a position are equal exactly when they agree from it on. -/
theorem ofFn_overwritten_eq {α : Type*} {size : Nat} (position : Nat) (new : Fin size → α)
    (old other : Vector α size) :
    (Vector.ofFn fun i : Fin size => if i.val < position then new i else old[i]) =
        (Vector.ofFn fun i : Fin size => if i.val < position then new i else other[i]) ↔
      ∀ i (inside : i < size), position ≤ i → old[i] = other[i] := by
  constructor
  · intro same i inside behind
    have cell := congrArg (fun cells => cells[i]) same
    have high : ¬ i < position := by omega
    simpa only [Vector.getElem_ofFn, high, if_false, Fin.getElem_fin] using cell
  · intro agree
    apply Vector.ext
    intro i inside
    simp only [Vector.getElem_ofFn, Fin.getElem_fin]
    split
    · rfl
    · next high => exact agree i inside (by omega)

/-- A list is mapped when each of its elements is. -/
theorem mapM_defined {α β : Type*} {f : α → Option β} {values : List α}
    (defined : ∀ value ∈ values, ∃ result, f value = some result) : ∃ results, values.mapM f = some results := by
  induction values with
  | nil => exact ⟨[], rfl⟩
  | cons first rest ih =>
      obtain ⟨result, here⟩ := defined first (by simp)
      obtain ⟨results, later⟩ := ih fun value member => defined value (by simp [member])
      exact ⟨result :: results, by simp [List.mapM_cons, here, later]⟩

/-- A result that is split into two parts is defined exactly when it is defined as a whole. -/
theorem map_defined_iff {α β γ : Type*} {value : Option α} {f : α → β × γ} :
    (∃ first second, value.map f = some (first, second)) ↔ ∃ result, value = some result := by
  constructor
  · intro ⟨first, second, mapped⟩
    obtain ⟨result, defined, _⟩ := Option.map_eq_some_iff.mp mapped
    exact ⟨result, defined⟩
  · intro ⟨result, defined⟩
    exact ⟨(f result).1, (f result).2, by rw [defined, Option.map_some]⟩

/-- `std::vector::resize` keeps the common prefix and fills the rest. -/
def resize {α : Type*} (cells : List α) (size : Nat) (fill : α) : List α :=
  cells.take size ++ List.replicate (size - cells.length) fill

@[simp] theorem resize_nil {α : Type*} (size : Nat) (fill : α) :
    resize [] size fill = List.replicate size fill := by
  simp [resize]

end Vtb.Library

import Vtb.Library.Machine

namespace Vtb.Library

/-- Switching a wired switch on raises its signal when its guard is on. -/
structure Wiring (Switch Signal : Type*) where
  guard : Switch → Option (Switch × Signal)

namespace Wiring

section
variable {Switch Signal : Type*} (wiring : Wiring Switch Signal)

/-- The signal that one setting raises. -/
def fired (on : Switch → Bool) (setting : Switch × Bool) : Option Signal :=
  if setting.2 then (wiring.guard setting.1).bind fun wired => if on wired.1 then some wired.2 else none
  else none

variable {wiring} {on more less : Switch → Bool} {setting : Switch × Bool} {signal : Signal}

/-- A setting raises a signal when it switches on a wired switch whose guard is on. -/
theorem fired_eq_some :
    wiring.fired on setting = some signal ↔
      setting.2 = true ∧ ∃ guard, wiring.guard setting.1 = some (guard, signal) ∧ on guard = true := by
  simp [fired, Option.bind_eq_some_iff]

/-- A signal that the smaller table raises is raised by the larger table. -/
theorem fired_le (below : ∀ switch, less switch = true → more switch = true)
    (raised : wiring.fired less setting = some signal) : wiring.fired more setting = some signal := by
  obtain ⟨switched, guard, wired, guarded⟩ := fired_eq_some.mp raised
  exact fired_eq_some.mpr ⟨switched, guard, wired, below guard guarded⟩

/-- A larger table adds no signal to one setting exactly when it adds no guard of the switched switch. -/
theorem fired_eq_iff (below : ∀ switch, less switch = true → more switch = true) :
    wiring.fired more setting = wiring.fired less setting ↔
      ∀ guard signal, wiring.guard setting.1 = some (guard, signal) → setting.2 = true →
        more guard = true → less guard = true := by
  constructor
  · intro same guard signal wired switched stale
    have raised : wiring.fired more setting = some signal :=
      fired_eq_some.mpr ⟨switched, guard, wired, stale⟩
    rw [same] at raised
    obtain ⟨_, other, again, guarded⟩ := fired_eq_some.mp raised
    obtain ⟨rfl, _⟩ := Prod.mk.inj (Option.some.inj (wired.symm.trans again))
    exact guarded
  · intro kept
    cases upper : wiring.fired more setting with
    | some signal =>
        obtain ⟨switched, guard, wired, stale⟩ := fired_eq_some.mp upper
        exact (fired_eq_some.mpr ⟨switched, guard, wired, kept guard signal wired switched stale⟩).symm
    | none =>
        cases lower : wiring.fired less setting with
        | none => rfl
        | some signal =>
            rw [fired_le below lower] at upper
            simp at upper

end

variable {Switch Signal : Type*} [DecidableEq Switch] (wiring : Wiring Switch Signal)

/-- One setting changes one switch. -/
def flip (on : Switch → Bool) (setting : Switch × Bool) : Switch → Bool :=
  Function.update on setting.1 setting.2

/-- The signals that a sequence of settings raises. -/
def fires (on : Switch → Bool) : List (Switch × Bool) → List Signal
  | [] => []
  | setting :: rest => (wiring.fired on setting).toList ++ fires (flip on setting) rest

/-- The switches form a machine that consumes settings and emits signals. -/
def machine : Machine (Switch → Bool) (Switch × Bool) Signal :=
  ⟨fun on setting => some (flip on setting, (wiring.fired on setting).toList)⟩

theorem flip_apply (on : Switch → Bool) (setting : Switch × Bool) (switch : Switch) :
    flip on setting switch = if switch = setting.1 then setting.2 else on switch := by
  simp [flip, Function.update_apply]

/-- The machine raises the signals of `fires`. -/
theorem machine_run (on : Switch → Bool) (settings : List (Switch × Bool)) :
    ∃ last, wiring.machine.run on settings = some (last, wiring.fires on settings) := by
  induction settings generalizing on with
  | nil => exact ⟨on, rfl⟩
  | cons setting rest ih =>
      obtain ⟨last, ran⟩ := ih (flip on setting)
      exact ⟨last, (wiring.machine.run_cons_eq_some).mpr ⟨_, _, _, rfl, ran, rfl⟩⟩

/-- Every time a switch is switched on, its guard has been set before, to any value. -/
def GuardSetFirst (guard switch : Switch) : List (Switch × Bool) → Prop :=
  Admits fun past setting => setting = (switch, true) → ∃ value, (guard, value) ∈ past

section
variable {wiring} {on more less : Switch → Bool} {setting : Switch × Bool} {guard switch : Switch}
  {signal : Signal} {settings rest : List (Switch × Bool)}

/-- The first setting is not the switch itself, and it is the guard or leaves the rest to decide. -/
theorem guardSetFirst_cons :
    GuardSetFirst guard switch (setting :: rest) ↔
      setting ≠ (switch, true) ∧ (setting.1 = guard ∨ GuardSetFirst guard switch rest) := by
  rw [GuardSetFirst, admits_cons]
  apply and_congr
  · simp
  · by_cases own : setting.1 = guard
    · have present : ∀ past, ∃ value, (guard, value) ∈ setting :: past := by
        intro past
        exact ⟨setting.2, by simp [← own]⟩
      simp only [own, present, implies_true, true_or, iff_true]
      exact fun _ _ _ _ => trivial
    · have absent : ∀ past, (∃ value, (guard, value) ∈ setting :: past) ↔
          ∃ value, (guard, value) ∈ past := by
        intro past
        have different : ∀ value, (guard, value) ≠ setting := by
          intro value same
          exact own (congrArg Prod.fst same).symm
        simp [different]
      simp only [own, absent, false_or]

/-- One setting keeps the order of two switch tables. -/
theorem flip_le (setting : Switch × Bool) (below : ∀ switch, less switch = true → more switch = true) :
    ∀ switch, flip less setting switch = true → flip more setting switch = true := by
  intro switch
  rw [flip_apply, flip_apply]
  split
  · exact id
  · exact below switch

/-- Switches that start on add signals and remove none. -/
theorem fires_sublist (below : ∀ switch, less switch = true → more switch = true) :
    (wiring.fires less settings).Sublist (wiring.fires more settings) := by
  induction settings generalizing less more with
  | nil => exact List.Sublist.refl []
  | cons setting rest ih =>
      have later := ih (flip_le setting below)
      rw [fires, fires]
      cases raised : wiring.fired less setting with
      | none => exact later.trans (List.sublist_append_right _ _)
      | some signal =>
          rw [fired_le below raised]
          exact later.append_left _

/-- A larger table adds no signal to a sequence exactly when it adds none to the first setting
and none to the others. -/
theorem fires_cons_eq_iff (below : ∀ switch, less switch = true → more switch = true) :
    wiring.fires more (setting :: rest) = wiring.fires less (setting :: rest) ↔
      wiring.fired more setting = wiring.fired less setting ∧
        wiring.fires (flip more setting) rest = wiring.fires (flip less setting) rest := by
  have shorter : (wiring.fires (flip less setting) rest).length ≤
      (wiring.fires (flip more setting) rest).length :=
    (fires_sublist (flip_le setting below)).length_le
  rw [fires, fires]
  constructor
  · intro same
    have equal : wiring.fired more setting = wiring.fired less setting := by
      cases lower : wiring.fired less setting with
      | some signal => exact fired_le below lower
      | none =>
          cases upper : wiring.fired more setting with
          | none => rfl
          | some signal =>
              -- the rest of the larger table cannot make up for the first signal
              have lengths := congrArg List.length same
              simp only [upper, lower, Option.toList_some, Option.toList_none,
                List.length_append, List.length_singleton, List.length_nil] at lengths
              omega
    rw [equal, List.append_cancel_left_eq] at same
    exact ⟨equal, same⟩
  · intro ⟨equal, same⟩
    rw [equal, same]

/-- Switches that start on show in the signals exactly when some wired switch is switched on
before its guard, which starts on, has been set. -/
theorem fires_eq_iff (below : ∀ switch, less switch = true → more switch = true) :
    wiring.fires more settings = wiring.fires less settings ↔
      ∀ switch guard signal, wiring.guard switch = some (guard, signal) → more guard = true →
        less guard = false → GuardSetFirst guard switch settings := by
  induction settings generalizing less more with
  | nil =>
      have vacuous : ∀ guard switch : Switch, GuardSetFirst guard switch [] :=
        fun _ _ => admits_nil
      simp [fires, vacuous]
  | cons setting rest ih =>
      rw [fires_cons_eq_iff below, fired_eq_iff below, ih (flip_le setting below)]
      constructor
      · intro ⟨kept, tail⟩ switch guard signal wired stale fresh
        have here : setting ≠ (switch, true) := by
          rintro rfl
          simp [kept guard signal wired rfl stale] at fresh
        apply guardSetFirst_cons.mpr
        apply And.intro here
        by_cases own : setting.1 = guard
        · exact Or.inl own
        · apply Or.inr
          apply tail switch guard signal wired
          · rw [flip_apply, if_neg (Ne.symm own)]
            exact stale
          · rw [flip_apply, if_neg (Ne.symm own)]
            exact fresh
      · intro ordered
        constructor
        · intro guard signal wired switched stale
          by_contra fresh
          have first := guardSetFirst_cons.mp (ordered setting.1 guard signal wired stale (by simpa using fresh))
          exact first.1 (Prod.ext rfl switched)
        · intro switch guard signal wired stale fresh
          rw [flip_apply] at stale fresh
          by_cases own : guard = setting.1
          · simp [own] at stale fresh
            simp [stale] at fresh
          · rw [if_neg own] at stale fresh
            have first := guardSetFirst_cons.mp (ordered switch guard signal wired stale fresh)
            exact first.2.resolve_left (Ne.symm own)

/-- When every setting switches on, a signal is raised exactly when its switch is switched on
and its guard was on or is switched on before. -/
theorem mem_fires_iff (allOn : ∀ setting ∈ settings, setting.2 = true) :
    signal ∈ wiring.fires on settings ↔
      ∃ switch guard, wiring.guard switch = some (guard, signal) ∧
        (on guard = true ∧ switch ∈ settings.map Prod.fst ∨
          [guard, switch].Sublist (settings.map Prod.fst)) := by
  induction settings generalizing on with
  | nil => simp [fires]
  | cons setting rest ih =>
      have switched : setting.2 = true := allOn setting (by simp)
      have head : ∀ guard switch : Switch, [guard, switch].Sublist (setting.1 :: rest.map Prod.fst) ↔
          [guard, switch].Sublist (rest.map Prod.fst) ∨
            guard = setting.1 ∧ switch ∈ rest.map Prod.fst := by
        intro guard switch
        rw [List.sublist_cons_iff]
        constructor
        · rintro (later | ⟨more, split, inside⟩)
          · exact .inl later
          · obtain ⟨rfl, rfl⟩ := List.cons.inj split
            exact .inr ⟨rfl, List.singleton_sublist.mp inside⟩
        · rintro (later | ⟨rfl, member⟩)
          · exact .inl later
          · exact .inr ⟨[switch], rfl, List.singleton_sublist.mpr member⟩
      rw [fires, List.mem_append, Option.mem_toList, fired_eq_some,
        ih (fun other member => allOn other (by simp [member])), List.map_cons]
      constructor
      · rintro (⟨_, guard, wired, guarded⟩ | ⟨switch, guard, wired, ⟨guarded, member⟩ | later⟩)
        · exact ⟨setting.1, guard, wired, .inl ⟨guarded, by simp⟩⟩
        · rw [flip_apply] at guarded
          split at guarded
          · next own => exact ⟨switch, guard, wired, .inr ((head guard switch).mpr (.inr ⟨own, member⟩))⟩
          · exact ⟨switch, guard, wired, .inl ⟨guarded, List.mem_cons_of_mem _ member⟩⟩
        · exact ⟨switch, guard, wired, .inr ((head guard switch).mpr (.inl later))⟩
      · rintro ⟨switch, guard, wired, ⟨guarded, member⟩ | ordered⟩
        · rcases List.mem_cons.mp member with rfl | inside
          · exact .inl ⟨switched, guard, wired, guarded⟩
          · refine .inr ⟨switch, guard, wired, .inl ⟨?_, inside⟩⟩
            rw [flip_apply]
            split
            · exact switched
            · exact guarded
        · rcases (head guard switch).mp ordered with later | ⟨own, inside⟩
          · exact .inr ⟨switch, guard, wired, .inr later⟩
          · refine .inr ⟨switch, guard, wired, .inl ⟨?_, inside⟩⟩
            rw [flip_apply, if_pos own]
            exact switched

end

end Wiring

end Vtb.Library

import Mathlib.Tactic

namespace Vtb.Library

/-- A launched thread enters its loop, leaves it after a test, and then exits. -/
inductive Phase where
  | launched
  | looping
  | leaving
  | exited
deriving DecidableEq

/-- The moves of a thread. -/
inductive ThreadMove where
  | enter
  | test
  | exit
deriving DecidableEq

/-- A thread raises its flag when it enters, and it leaves its loop when it finds the flag down. -/
def ThreadMove.run (flag : Bool) : ThreadMove → Phase → Option (Bool × Phase)
  | .enter, .launched => some (true, .looping)
  | .test, .looping => some (flag, if flag then .looping else .leaving)
  | .exit, .leaving => some (flag, .exited)
  | _, _ => none

section
variable {flag raised : Bool} {move : ThreadMove} {phase next : Phase}

/-- The flag after a move: only an entering thread raises it. -/
theorem run_flag (moved : move.run flag phase = some (raised, next)) :
    raised = (flag || decide (move = .enter)) := by
  cases move <;> cases phase <;> simp_all [ThreadMove.run]

/-- A test with the flag down leaves the loop. -/
theorem run_test_lowered (moved : ThreadMove.test.run false phase = some (raised, next)) :
    next = .leaving := by
  cases phase <;> simp_all [ThreadMove.run]

/-- An exited thread makes no move. -/
theorem run_ne_exited {result : Bool × Phase} (moved : move.run flag phase = some result) :
    phase ≠ .exited := by
  rintro rfl
  cases move <;> simp [ThreadMove.run] at moved

/-- A thread that has not exited can move. -/
theorem exists_run (flag : Bool) (alive : phase ≠ .exited) :
    ∃ move result, ThreadMove.run flag move phase = some result := by
  cases phase with
  | launched => exact ⟨.enter, _, rfl⟩
  | looping => exact ⟨.test, _, rfl⟩
  | leaving => exact ⟨.exit, _, rfl⟩
  | exited => exact absurd rfl alive

end

/-- A thread carries a tag that says what it works for. -/
structure Thread (Tag : Type*) where
  tag : Tag
  phase : Phase
deriving DecidableEq

/-- A thread object is joinable while it owns a thread, here the thread at an index. -/
structure ThreadObject where
  owned : Option Nat
deriving DecidableEq

namespace ThreadObject

/-- A thread object that owns no thread. -/
def empty : ThreadObject := ⟨none⟩

/-- The construction launches the thread and owns it. -/
def construct (index : Nat) : ThreadObject := ⟨some index⟩

/-- The thread runs on without its object. -/
def detach (object : ThreadObject) : ThreadObject := { object with owned := none }

def joinable (object : ThreadObject) : Bool := object.owned.isSome

/-- A join returns when the owned thread has exited. -/
def joined (object : ThreadObject) (exited : Nat → Bool) : Bool := object.owned.all exited

@[simp] theorem detach_eq_empty (object : ThreadObject) : object.detach = empty := rfl

@[simp] theorem joinable_empty : empty.joinable = false := rfl

end ThreadObject

section
variable {Tag : Type*}

/-- New threads come behind the old ones. -/
def launch (tags : List Tag) (threads : List (Thread Tag)) : List (Thread Tag) :=
  threads ++ tags.map fun tag => ⟨tag, .launched⟩

/-- One thread reaches a phase. -/
def reach (threads : List (Thread Tag)) (index : Nat) (phase : Phase) : List (Thread Tag) :=
  threads.modify index fun thread => { thread with phase }

/-- The number of counted threads that were launched and have not exited. -/
def unexited (counts : Tag → Bool) (threads : List (Thread Tag)) : Nat :=
  threads.countP fun thread => counts thread.tag && thread.phase != .exited

variable {threads : List (Thread Tag)} {thread : Thread Tag} {index : Nat}

@[simp] theorem unexited_nil (counts : Tag → Bool) : unexited counts [] = 0 := rfl

/-- A launch adds the counted threads among the new ones. -/
theorem unexited_launch (counts : Tag → Bool) (tags : List Tag) (threads : List (Thread Tag)) :
    unexited counts (launch tags threads) = unexited counts threads + tags.countP counts := by
  have fresh : (tags.map fun tag => (⟨tag, .launched⟩ : Thread Tag)).countP
      (fun thread => counts thread.tag && thread.phase != .exited) = tags.countP counts := by
    rw [List.countP_map]
    congr 1
    funext tag
    simp
  rw [unexited, launch, List.countP_append, fresh, unexited]

/-- A thread that has not exited is counted before it moves, so no move raises the number. -/
theorem unexited_reach_le (counts : Tag → Bool) (here : threads[index]? = some thread)
    (alive : thread.phase ≠ .exited) (phase : Phase) :
    unexited counts (reach threads index phase) ≤ unexited counts threads := by
  induction threads generalizing index with
  | nil => simp at here
  | cons first rest ih =>
      cases index with
      | zero =>
          obtain rfl : first = thread := by simpa using here
          simp only [unexited, reach, List.modify_zero_cons, List.countP_cons]
          cases counts first.tag <;> simp [alive]
          split_ifs <;> omega
      | succ index =>
          have inside : rest[index]? = some thread := by simpa using here
          have shorter := ih inside
          simp only [unexited, reach, List.modify_succ_cons, List.countP_cons] at shorter ⊢
          omega

/-- No counted thread is left exactly when each of them has exited. -/
theorem unexited_eq_zero {counts : Tag → Bool} :
    unexited counts threads = 0 ↔ ∀ thread ∈ threads, counts thread.tag = true → thread.phase = .exited := by
  simp [unexited, List.countP_eq_zero]

/-- A counted thread that has not exited is in the number. -/
theorem unexited_pos {counts : Tag → Bool} (member : thread ∈ threads) (counted : counts thread.tag = true)
    (alive : thread.phase ≠ .exited) : 0 < unexited counts threads :=
  List.countP_pos_iff.mpr ⟨thread, member, by simp [counted, alive]⟩

/-- A move changes one thread in its phase. -/
theorem mem_reach {other : Thread Tag} {phase : Phase} (here : threads[index]? = some thread)
    (member : other ∈ reach threads index phase) : other ∈ threads ∨ other = { thread with phase } := by
  obtain ⟨position, inside⟩ := List.mem_iff_getElem?.mp member
  simp only [reach, List.getElem?_modify, Option.map_eq_map, Option.map_eq_some_iff] at inside
  obtain ⟨before, found, rfl⟩ := inside
  by_cases same : index = position
  · subst same
    obtain rfl := Option.some.inj (here.symm.trans found)
    exact Or.inr (if_pos rfl)
  · rw [if_neg same]
    exact Or.inl (List.mem_of_getElem? found)

theorem mem_launch {tags : List Tag} :
    thread ∈ launch tags threads ↔ thread ∈ threads ∨ thread.tag ∈ tags ∧ thread.phase = .launched := by
  cases thread with
  | mk tag phase => simp [launch, eq_comm]

end

end Vtb.Library

import Vtb.Construction.Database
import Vtb.Library.Latest

namespace Vtb
open Library

namespace Database
variable {Object : String → Type} {database after : Database Object} {answer : List (DatabaseAnswer Object)}

/-- The later of two writes of a key stays. -/
theorem insert_insert (key : String) (first second : Option (AnyValue Object)) :
    (database.insert key first).insert key second = database.insert key second := by
  apply Std.ExtTreeMap.ext_getElem?
  intro other
  simp only [Std.ExtTreeMap.getElem?_insert]
  split <;> rfl

/-- `set_value` leaves the value, whether the key is new or not. -/
theorem performs_setValue (key : String) (value : AnyValue Object) :
    procedures.Performs (.entering (.setValue key value)) database after answer ↔
      database.insert key (some value) = after ∧ [] = answer := by
  have first : procedures.step (.entering (.setValue key value)) database =
      some (database.insert key ((database[key]?).getD none), .inl (.assigning key value)) := rfl
  have second (before : Database Object) : procedures.step (.assigning key value) before =
      some (before.insert key (some value), .inr []) := rfl
  rw [Procedures.performs_next first, Procedures.performs_last (second _), insert_insert]

/-- The loop of `dump_config` logs one line for each key and changes nothing. -/
theorem performs_dumping {keys : List String} (present : ∀ key ∈ keys, ∃ held, database[key]? = some held)
    (lines : List String) :
    procedures.Performs (.dumping keys lines) database after answer ↔
      database = after ∧
        [.dumped (lines ++ keys.map fun key => dumpLine key ((database[key]?).getD none))] = answer := by
  induction keys generalizing lines with
  | nil =>
      have ended : procedures.step (.dumping [] lines) database = some (database, .inr [.dumped lines]) := rfl
      rw [Procedures.performs_last ended, List.map_nil, List.append_nil]
  | cons key keys ih =>
      obtain ⟨held, found⟩ := present key (by simp)
      have logged : procedures.step (.dumping (key :: keys) lines) database =
          some (database, .inl (.dumping keys (lines ++ [dumpLine key held]))) := by
        simp only [procedures, advance, found, Option.map_some]
      rw [Procedures.performs_next logged, ih fun other member => present other (List.mem_cons_of_mem _ member)]
      simp [found]

/-- The keys over which the table iterates are in the table. -/
theorem Iterates.present {order : List String} (iterates : database.Iterates order) :
    ∀ key ∈ order, ∃ held, database[key]? = some held := by
  intro key member
  rw [iterates.mem_iff, Std.ExtTreeMap.mem_keys] at member
  exact ⟨database[key], Std.ExtTreeMap.getElem?_eq_some_getElem member⟩

/-- `dump_config` logs the header and then the keys. -/
theorem performs_dumpConfig (order : List String) :
    procedures.Performs (.entering (.dumpConfig order)) database after answer ↔
      database.call (.dumpConfig order) = some (after, answer) := by
  by_cases iterates : database.Iterates order
  · have first : procedures.step (.entering (.dumpConfig order)) database =
        some (database, .inl (.dumping order [dumpHeader])) := if_pos iterates
    rw [Procedures.performs_next first, performs_dumping iterates.present, call, if_pos iterates,
      Option.some.injEq, Prod.mk.injEq, List.singleton_append]
  · have first : procedures.step (.entering (.dumpConfig order)) database = none := if_neg iterates
    rw [Procedures.performs_undefined first, call, if_neg iterates]
    simp

/-- Every call does in its small steps what the atomic call does. -/
theorem procedures_implement : (@procedures Object).Implements callMachine := by
  intro asked database after answer
  change procedures.Performs (.entering asked) database after answer ↔ database.call asked = some (after, answer)
  cases asked with
  | setValue key value =>
      rw [performs_setValue, call, Option.some.injEq, Prod.mk.injEq]
  | getValue key type =>
      have last : procedures.step (.entering (.getValue key type)) database =
          some (database, .inr [.got type (database.getValue key type)]) := rfl
      rw [Procedures.performs_last last, call, Option.some.injEq, Prod.mk.injEq]
  | dumpConfig order => exact performs_dumpConfig order

/-- The value that a call gives to a key. -/
def assigned (key : String) : DatabaseCall Object → Option (AnyValue Object)
  | .setValue other value => if other = key then some value else none
  | .getValue _ _ => none
  | .dumpConfig _ => none

/-- Every key holds the value that was set last. -/
theorem stored_run {calls : List (DatabaseCall Object)} {answers : List (DatabaseAnswer Object)}
    (ran : callMachine.run ∅ calls = some (database, answers)) (key : String) :
    database[key]? = (latest (assigned key) calls).map some := by
  apply callMachine.run_history (fun past state _ => state[key]? = (latest (assigned key) past).map some)
    (by simp) _ ran
  intro past state emitted asked next later _ held stepped
  change state.call asked = some (next, later) at stepped
  rw [latest_concat]
  cases asked with
  | setValue other value =>
      obtain ⟨rfl, _⟩ := Prod.mk.inj (Option.some.inj stepped)
      by_cases same : other = key
      · subst same
        simp [assigned]
      · simp [assigned, same, Std.ExtTreeMap.getElem?_insert, held]
  | getValue other type =>
      obtain ⟨rfl, _⟩ := Prod.mk.inj (Option.some.inj stepped)
      exact held
  | dumpConfig order =>
      rw [call, Option.ite_none_right_eq_some] at stepped
      obtain ⟨rfl, _⟩ := Prod.mk.inj (Option.some.inj stepped.2)
      exact held

section
variable {Thread : Type*} [DecidableEq Thread]
  {actions : List (MonitorAction Thread (DatabaseCall Object))}
  {monitor : Monitor Thread (DatabaseCall Object) (DatabasePosition Object) (Database Object)
    (List (DatabaseAnswer Object))}
  {returned past rest : List (Returned Thread (DatabaseCall Object) (List (DatabaseAnswer Object)))}
  {thread : Thread}

/-- In every interleaving of any threads, `get_value` returns the value that the last `set_value` of its key
stored, in the order of the returns, when this value has exactly the type that is asked for, and no value
otherwise. -/
theorem reads_are_typed_last_writes
    (ran : procedures.threads.run (Procedures.idle ∅) actions = some (monitor, returned)) {key : String}
    {type : ValueType} (split : returned = past ++ ⟨thread, .getValue key type, answer⟩ :: rest) :
    answer = [.got type ((latest (assigned key) (past.map Returned.call)).bind (AnyValue.cast type))] := by
  obtain ⟨before, last, reached, stepped⟩ := Procedures.answered_run procedures_implement ran past _ rest split
  have stored := stored_run reached key
  obtain ⟨_, rfl⟩ := Prod.mk.inj (Option.some.inj stepped)
  rw [getValue, stored]
  cases latest (assigned key) (past.map Returned.call) <;> rfl

/-- In every interleaving of any threads, `dump_config` logs, behind its header, exactly one line for each key
that was set before it, with the value that was set last. -/
theorem dumps_show_last_writes
    (ran : procedures.threads.run (Procedures.idle ∅) actions = some (monitor, returned)) {order : List String}
    (split : returned = past ++ ⟨thread, .dumpConfig order, answer⟩ :: rest) :
    order.Nodup ∧ (∀ key, key ∈ order ↔ (latest (assigned key) (past.map Returned.call)).isSome) ∧
      answer = [.dumped (dumpHeader :: order.map fun key =>
        dumpLine key (latest (assigned key) (past.map Returned.call)))] := by
  obtain ⟨before, last, reached, stepped⟩ := Procedures.answered_run procedures_implement ran past _ rest split
  have stored := stored_run reached
  change before.call (.dumpConfig order) = _ at stepped
  rw [call, Option.ite_none_right_eq_some] at stepped
  obtain ⟨iterates, same⟩ := stepped
  obtain ⟨_, rfl⟩ := Prod.mk.inj (Option.some.inj same)
  refine ⟨iterates.nodup_iff.mpr Std.ExtTreeMap.nodup_keys, ?_, ?_⟩
  · intro key
    rw [iterates.mem_iff, Std.ExtTreeMap.mem_keys, Std.ExtTreeMap.mem_iff_isSome_getElem?, stored,
      Option.isSome_map]
  · have value (key : String) : (before[key]?).getD none = latest (assigned key) (past.map Returned.call) := by
      rw [stored]
      cases latest (assigned key) (past.map Returned.call) <;> rfl
    simp only [value]

end

/-- The key and the type of a read. -/
def asked : DatabaseCall (fun _ => String) → Option (String × ValueType)
  | .setValue _ _ => none
  | .getValue key type => some (key, type)
  | .dumpConfig _ => none

/-- The order of a dump. -/
def iterated : DatabaseCall (fun _ => String) → Option (List String)
  | .setValue _ _ => none
  | .getValue _ _ => none
  | .dumpConfig order => some order

/-- One thread sets a number, and another one that waited for the mutex makes its call. -/
def afterSet (call : DatabaseCall (fun _ => String)) (steps : Nat) :
    List (MonitorAction Bool (DatabaseCall (fun _ => String))) :=
  [.invoke true (.setValue "max_lcores" ⟨.int, (16 : Int32)⟩), .acquire true, .work true, .invoke false call,
    .work true, .release true, .acquire false] ++ List.replicate steps (.work false) ++ [.release false]

/-- A number that is read as a text is not found. -/
theorem reads_are_typed_last_writes_of_number :
    ∃ monitor first thread answer, procedures.threads.run (Procedures.idle ∅)
        (afterSet (.getValue "max_lcores" .string) 1) =
          some (monitor, [first, ⟨thread, .getValue "max_lcores" .string, answer⟩]) ∧
      answer = [.got .string ((latest (assigned "max_lcores") [first.call]).bind (AnyValue.cast .string))] := by
  have outcome : (procedures.threads.run (Procedures.idle ∅) (afterSet (.getValue "max_lcores" .string) 1)).map
      (fun result => result.2.map fun own => asked own.call) = some [none, some ("max_lcores", .string)] := by
    decide +kernel
  obtain ⟨⟨monitor, returned⟩, ran, calls⟩ := Option.map_eq_some_iff.mp outcome
  obtain ⟨first, later, rfl, _, calls⟩ := List.map_eq_cons_iff.mp calls
  obtain ⟨⟨thread, call, answer⟩, rest, rfl, read, calls⟩ := List.map_eq_cons_iff.mp calls
  obtain rfl := List.map_eq_nil_iff.mp calls
  cases call with
  | setValue key value => simp [asked] at read
  | dumpConfig order => simp [asked] at read
  | getValue key type =>
      obtain ⟨rfl, rfl⟩ := Prod.mk.inj (Option.some.inj read)
      have split : [first, ⟨thread, .getValue "max_lcores" .string, answer⟩] =
          [first] ++ ⟨thread, .getValue "max_lcores" .string, answer⟩ :: [] := rfl
      exact ⟨monitor, first, thread, answer, ran, reads_are_typed_last_writes ran split⟩

/-- The dump behind one `set_value` shows one key. -/
theorem dumps_show_last_writes_of_number :
    ∃ monitor first thread answer, procedures.threads.run (Procedures.idle ∅)
        (afterSet (.dumpConfig ["max_lcores"]) 3) =
          some (monitor, [first, ⟨thread, .dumpConfig ["max_lcores"], answer⟩]) ∧
      ["max_lcores"].Nodup ∧
      (∀ key, key ∈ ["max_lcores"] ↔ (latest (assigned key) [first.call]).isSome) ∧
      answer = [.dumped (dumpHeader :: ["max_lcores"].map fun key =>
        dumpLine key (latest (assigned key) [first.call]))] := by
  have outcome : (procedures.threads.run (Procedures.idle ∅) (afterSet (.dumpConfig ["max_lcores"]) 3)).map
      (fun result => result.2.map fun own => iterated own.call) = some [none, some ["max_lcores"]] := by
    decide +kernel
  obtain ⟨⟨monitor, returned⟩, ran, calls⟩ := Option.map_eq_some_iff.mp outcome
  obtain ⟨first, later, rfl, _, calls⟩ := List.map_eq_cons_iff.mp calls
  obtain ⟨⟨thread, call, answer⟩, rest, rfl, read, calls⟩ := List.map_eq_cons_iff.mp calls
  obtain rfl := List.map_eq_nil_iff.mp calls
  cases call with
  | setValue key value => simp [iterated] at read
  | getValue key type => simp [iterated] at read
  | dumpConfig order =>
      obtain rfl := Option.some.inj read
      have split : [first, ⟨thread, .dumpConfig ["max_lcores"], answer⟩] =
          [first] ++ ⟨thread, .dumpConfig ["max_lcores"], answer⟩ :: [] := rfl
      exact ⟨monitor, first, thread, answer, ran, dumps_show_last_writes ran split⟩

end Database

end Vtb

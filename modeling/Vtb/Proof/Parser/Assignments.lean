import Vtb.Proof.Parser.Grammar

namespace Vtb
open Library

namespace CmdlineParser

/-- A flag with its value. -/
structure Assignment where
  flag : String
  value : String

/-- The tokens of an assignment list. -/
def assignmentTokens (assignments : List Assignment) : List String :=
  assignments.flatMap fun assignment => [assignment.flag, assignment.value]

/-- The command line that assigns the values after an EAL prefix. -/
def commandLine (prog : String) (eal : List String) (assignments : List Assignment) : List String :=
  [prog] ++ eal ++ ["--"] ++ assignmentTokens assignments

/-- The value that one assignment gives to an argument of the table. -/
def assignedTo (arguments : List CmdlineArgumentFormat) (index : Nat) (assignment : Assignment) :
    Option String :=
  if resolve arguments assignment.flag = some index then some assignment.value else none

/-- The value of a name after an assignment list: the last value that is assigned to the same argument,
the registered default when there is none, and the empty string for an unknown name. -/
def assignedValue (calls : List AddArgument) (assignments : List Assignment) (name : String) : String :=
  match resolve (registered calls).arguments name with
  | none => ""
  | some index =>
      (latest (assignedTo (registered calls).arguments index) assignments).getD
        ((calls[index]?).elim "" AddArgument.defaultV)

/-- `get` reads the argument that the name resolves to. -/
theorem get_eq (parser : CmdlineParser) (name : String) :
    parser.get name =
      match resolve parser.arguments name with
      | none => ""
      | some index => (parser.arguments[index]?).elim "" CmdlineArgumentFormat.value := by
  obtain ⟨arguments⟩ := parser
  rw [get]
  induction arguments with
  | nil => rfl
  | cons arg rest ih =>
      simp only [List.find?_cons, resolve_cons]
      by_cases own : arg.named name
      · simp [own]
      · simp only [own, Bool.false_eq_true, if_false]
        rw [ih]
        cases resolve rest name <;> rfl

/-- The application tokens do not depend on the EAL prefix. -/
theorem appTokens_commandLine (prog : String) {eal : List String} (clean : "--" ∉ eal)
    (assignments : List Assignment) :
    appTokens (commandLine prog eal assignments) = assignmentTokens assignments := by
  have skipped : ∀ token ∈ eal, decide (token ≠ "--") = true := by
    intro token member
    have different : token ≠ "--" := fun same => clean (same ▸ member)
    simpa using different
  have line : (commandLine prog eal assignments).tail =
      eal ++ "--" :: assignmentTokens assignments := by
    simp [commandLine]
  rw [appTokens, line, List.dropWhile_append_of_pos skipped]
  simp

/-- Each assignment is one group. -/
theorem groupsOf_assignments {assignments : List Assignment}
    (plain : ∀ assignment ∈ assignments, beginsWithDash assignment.value = false) :
    groupsOf (assignmentTokens assignments) =
      assignments.map fun assignment => ⟨assignment.flag, some assignment.value⟩ := by
  induction assignments with
  | nil => rfl
  | cons assignment rest ih =>
      have value := plain assignment (by simp)
      have tail := ih fun other member => plain other (by simp [member])
      rw [assignmentTokens, List.flatMap_cons]
      simp only [List.cons_append, List.nil_append, groupsOf, value, Bool.false_eq_true, if_false,
        List.map_cons]
      rw [← tail]
      rfl

/-- An assignment list that names every required argument is parsed after every EAL prefix, with one
result, and each name then has its assigned value. -/
theorem parse_assignments (calls : List AddArgument) {assignments : List Assignment}
    (known : ∀ assignment ∈ assignments, ∃ arg ∈ (registered calls).arguments,
      arg.named assignment.flag = true)
    (plain : ∀ assignment ∈ assignments, beginsWithDash assignment.value = false)
    (complete : ∀ (index : Nat) (arg : CmdlineArgumentFormat),
      (registered calls).arguments[index]? = some arg → arg.required = true →
      ∃ assignment ∈ assignments, resolve (registered calls).arguments assignment.flag = some index) :
    ∃ parsed, (∀ prog eal, "--" ∉ eal →
        parse (commandLine prog eal assignments) (registered calls) = .ok parsed) ∧
      ∀ name, parsed.get name = assignedValue calls assignments name := by
  have groups := groupsOf_assignments plain
  refine ⟨⟨(groupsOf (assignmentTokens assignments)).foldl record (registered calls).arguments⟩, ?_, ?_⟩
  · intro prog eal clean
    have tokens := appTokens_commandLine prog clean assignments
    rw [parse_eq_ok, tokens]
    refine ⟨⟨.inr (by simp [commandLine]), _, splits_iff.mpr rfl, ?_⟩, rfl⟩
    rw [tokens, groups]
    constructor
    · intro group member
      obtain ⟨assignment, inside, rfl⟩ := List.mem_map.mp member
      exact known assignment inside
    · intro past group rest split bare
      have member : group ∈ assignments.map fun assignment =>
          (⟨assignment.flag, some assignment.value⟩ : Group) := by
        rw [split]
        simp
      obtain ⟨assignment, _, rfl⟩ := List.mem_map.mp member
      simp at bare
    · intro index arg stored required
      obtain ⟨assignment, inside, found⟩ := complete index arg stored required
      exact ⟨_, List.mem_map_of_mem inside, found⟩
  · intro name
    rw [get_eq, resolve_foldl_record, assignedValue]
    cases found : resolve (registered calls).arguments name with
    | none => rfl
    | some index =>
        have same : setsValue (registered calls).arguments index ∘
            (fun assignment : Assignment => ⟨assignment.flag, some assignment.value⟩) =
            assignedTo (registered calls).arguments index := rfl
        obtain ⟨arg, stored⟩ := exists_of_resolve found
        have default : (calls[index]?).elim "" AddArgument.defaultV = arg.value := by
          rw [registered_arguments, List.getElem?_map, Option.map_eq_some_iff] at stored
          obtain ⟨call, there, rfl⟩ := stored
          rw [there]
          rfl
        simp only [getElem?_foldl_record, stored, Option.map_some, Option.elim_some, groups, latest_map,
          same, default]

/-- The two arguments of the application that the tests read, the second one required. -/
def sampleTable : List AddArgument :=
  [⟨"--mode", "-m", "Loopback | Back2Back | Emulator", false, "Loopback"⟩,
    ⟨"--portmask", "-p", "Hexadecimal port mask", true, ""⟩]

/-- A repeated flag in its long and short form. -/
def sampleAssignments : List Assignment :=
  [⟨"--mode", "Emulator"⟩, ⟨"-p", "0x3"⟩, ⟨"-m", "Back2Back"⟩]

/-- The sample assignments are read back. -/
theorem parse_sample_assignments :
    ∃ parsed, (∀ prog eal, "--" ∉ eal →
        parse (commandLine prog eal sampleAssignments) (registered sampleTable) = .ok parsed) ∧
      ∀ name, parsed.get name = assignedValue sampleTable sampleAssignments name := by
  apply parse_assignments
  · decide
  · decide
  · intro index arg stored required
    have table : (registered sampleTable).arguments =
        [⟨"--mode", "-m", "Loopback | Back2Back | Emulator", false, false, "Loopback"⟩,
          ⟨"--portmask", "-p", "Hexadecimal port mask", true, false, ""⟩] := by decide
    rw [table] at stored
    match index with
    | 0 =>
        obtain rfl := Option.some.inj stored
        simp at required
    | 1 => exact ⟨⟨"-p", "0x3"⟩, by simp [sampleAssignments], by decide⟩
    | _ + 2 => simp at stored

end CmdlineParser

end Vtb

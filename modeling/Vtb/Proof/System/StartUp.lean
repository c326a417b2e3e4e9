import Vtb.Construction.Main
import Vtb.Proof.Parser.Assignments
import Vtb.Proof.Parser.Integers
import Vtb.Proof.Controller.Start

namespace Vtb
open Library

namespace CmdlineParser

/-- A parsed name has the value that its argument stores after the groups of the command line. -/
theorem get_of_parse {calls : List AddArgument} {argv : List String} {parsed : CmdlineParser}
    (accepted : parse argv (registered calls) = .ok parsed) {name : String} {index : Nat}
    {arg : CmdlineArgumentFormat} (found : resolve (registered calls).arguments name = some index)
    (stored : (registered calls).arguments[index]? = some arg) :
    parsed.get name =
      storedValue (registered calls).arguments (groupsOf (appTokens argv)) index arg := by
  rw [get_eq, (parse_eq_ok.mp accepted).2, resolve_foldl_record, found]
  simp only [getElem?_foldl_record, stored, Option.map_some, Option.elim_some, storedValue]

end CmdlineParser

/-- The `add_argument` calls of the constructor of `ConfigManager`. -/
def configTable : List CmdlineParser.AddArgument :=
  [⟨"--help", "-h", "Show this help menu", false, "false"⟩,
    ⟨"--mode", "-m", "Loopback | Back2Back | Emulator", false, "Loopback"⟩,
    ⟨"--mode-threads", "-mth", "1 | 2", false, "1"⟩,
    ⟨"--abstract_sockname", "-absn", "Specify a random name. For internal use only", false,
      "cm_to_ph_sock"⟩,
    ⟨"--port_data_sockname", "-pdsn", "Unix socket path to connect to port data plane", false,
      "/tmp/port_data.sock"⟩,
    ⟨"--port_control_sockname", "-pcsn", "Unix socket path to connect to port control plane", false,
      "/tmp/port_ctrl.sock"⟩,
    ⟨"--vhost_sockname", "-vsn", "Unix socket path to connect to virtual machine", false,
      "/tmp/vhost.sock"⟩]

theorem arguments_eq : ConfigManager.arguments = CmdlineParser.registered configTable := rfl

/-- The last value that the application part of a command line gives to an argument. -/
def lastGiven (argv : List String) (name : String) : Option String :=
  (CmdlineParser.resolve ConfigManager.arguments.arguments name).bind fun index =>
    latest (CmdlineParser.setsValue ConfigManager.arguments.arguments index)
      (groupsOf (CmdlineParser.appTokens argv))

/-- The three modes that `create_controller` knows. -/
def knownModes : List String := ["Loopback", "Back2Back", "Emulator"]

/-- The command line gives no mode, or the last one that it gives is known. -/
def GivesKnownMode (argv : List String) : Prop := ∀ mode ∈ lastGiven argv "-m", mode ∈ knownModes

/-- The command line gives no number of threads, or the last one that it gives spells 1 or 2. -/
def GivesOneOrTwo (argv : List String) : Prop :=
  ∀ text ∈ lastGiven argv "--mode-threads",
    CmdlineParser.SpellsDigit '1' text.toList ∨ CmdlineParser.SpellsDigit '2' text.toList

/-- A handler that `start` leaves without an exception in mode Loopback runs some worker. -/
def StartsWorkers (nofThreads : Int) : Prop :=
  ∀ outcomes state workers next,
    PortHandlerLoopback.start ⟨"Loopback", .ok nofThreads⟩ outcomes state = .ok workers next →
      workers ≠ []

/-- A configuration with which the controller and its handlers come up. -/
structure DefinedStartUp (config : ConfigManager) : Prop where
  controller : createController (config.getArg "-m") ≠ none
  threads : ∃ nofThreads, config.getArgInt "--mode-threads" = .ok nofThreads ∧ StartsWorkers nofThreads

theorem createController_ne_none (mode : String) : createController mode ≠ none ↔ mode ∈ knownModes := by
  unfold createController knownModes
  split_ifs <;> simp [*]

/-- Workers start exactly for one or two threads. -/
theorem startsWorkers_iff (nofThreads : Int) : StartsWorkers nofThreads ↔ nofThreads = 1 ∨ nofThreads = 2 := by
  constructor
  · intro starts
    obtain ⟨workers, next, started⟩ : ∃ workers next,
        PortHandlerLoopback.start ⟨"Loopback", .ok nofThreads⟩ .granted ⟨.initial, .empty⟩ =
          .ok workers next := PortHandlerLoopback.start_granted rfl _ rfl rfl rfl
    obtain ⟨number, same, rfl⟩ := PortHandlerLoopback.start_workers started
    obtain rfl : nofThreads = number := Except.ok.inj same
    have some := starts _ _ _ _ started
    by_contra neither
    obtain ⟨one, two⟩ := not_or.mp neither
    simp [PortHandlerLoopback.workersOf, one, two] at some
  · intro either outcomes state workers next started
    obtain ⟨number, same, rfl⟩ := PortHandlerLoopback.start_workers started
    obtain rfl : nofThreads = number := Except.ok.inj same
    rcases either with rfl | rfl <;> simp [PortHandlerLoopback.workersOf]

/-- The row of the argument table for the modes, with its default. -/
theorem modeArgument :
    CmdlineParser.resolve ConfigManager.arguments.arguments "-m" = some 1 ∧
      ConfigManager.arguments.arguments[1]? =
        some ⟨"--mode", "-m", "Loopback | Back2Back | Emulator", false, false, "Loopback"⟩ := by
  decide

/-- The row of the argument table for the number of threads, with its default. -/
theorem threadsArgument :
    CmdlineParser.resolve ConfigManager.arguments.arguments "--mode-threads" = some 2 ∧
      ConfigManager.arguments.arguments[2]? =
        some ⟨"--mode-threads", "-mth", "1 | 2", false, false, "1"⟩ := by
  decide

/-- An accepted command line gives each argument its last value, or leaves its default. -/
theorem getArg_of_init {argv : List String} (accepted : (ConfigManager.getInstance.init argv).1 = true)
    {name : String} {index : Nat} {arg : CmdlineArgumentFormat}
    (found : CmdlineParser.resolve ConfigManager.arguments.arguments name = some index)
    (stored : ConfigManager.arguments.arguments[index]? = some arg) :
    (ConfigManager.getInstance.init argv).2.getArg name = (lastGiven argv name).getD arg.value := by
  unfold ConfigManager.init at accepted ⊢
  cases parsed : ConfigManager.getInstance.parser.parse argv with
  | error what => simp [parsed] at accepted
  | ok parser =>
      simp only [ConfigManager.getArg]
      rw [arguments_eq] at found stored
      have accepted : CmdlineParser.parse argv (CmdlineParser.registered configTable) = .ok parser := parsed
      rw [CmdlineParser.get_of_parse accepted found stored, lastGiven, arguments_eq, found]
      rfl

/-- The controller of an accepted command line exists when its last mode is known, and the default is. -/
theorem controller_iff {argv : List String} (accepted : (ConfigManager.getInstance.init argv).1 = true) :
    createController ((ConfigManager.getInstance.init argv).2.getArg "-m") ≠ none ↔ GivesKnownMode argv := by
  rw [createController_ne_none, getArg_of_init accepted modeArgument.1 modeArgument.2, GivesKnownMode]
  cases lastGiven argv "-m" <;> simp [knownModes]

/-- A text is read as one or two threads exactly when it spells 1 or 2. -/
theorem reads_oneOrTwo_iff (text : String) :
    (∃ nofThreads, (if text.isEmpty then .ok 0 else CmdlineParser.stoi text) = .ok nofThreads ∧
      StartsWorkers nofThreads) ↔
      CmdlineParser.SpellsDigit '1' text.toList ∨ CmdlineParser.SpellsDigit '2' text.toList := by
  have digitOne : Char.isDigit '1' = true ∧ '1' ≠ '0' := by decide
  have digitTwo : Char.isDigit '2' = true ∧ '2' ≠ '0' := by decide
  have one : CmdlineParser.stoi text = .ok 1 ↔ CmdlineParser.SpellsDigit '1' text.toList :=
    CmdlineParser.stoi_eq_digit digitOne.1 digitOne.2
  have two : CmdlineParser.stoi text = .ok 2 ↔ CmdlineParser.SpellsDigit '2' text.toList :=
    CmdlineParser.stoi_eq_digit digitTwo.1 digitTwo.2
  rw [← one, ← two]
  simp only [startsWorkers_iff]
  by_cases empty : text.isEmpty = true
  · have nothing : CmdlineParser.stoi "" = .error "stoi" := by decide
    simp [String.isEmpty_iff.mp empty, nothing]
  · rw [if_neg empty]
    constructor
    · rintro ⟨nofThreads, read, rfl | rfl⟩
      · exact Or.inl read
      · exact Or.inr read
    · rintro (read | read)
      · exact ⟨1, read, Or.inl rfl⟩
      · exact ⟨2, read, Or.inr rfl⟩

/-- The threads of an accepted command line are those that its last value spells, and the default is one. -/
theorem threads_iff {argv : List String} (accepted : (ConfigManager.getInstance.init argv).1 = true) :
    (∃ nofThreads, (ConfigManager.getInstance.init argv).2.getArgInt "--mode-threads" = .ok nofThreads ∧
      StartsWorkers nofThreads) ↔ GivesOneOrTwo argv := by
  have value : (ConfigManager.getInstance.init argv).2.parser.get "--mode-threads" =
      (lastGiven argv "--mode-threads").getD "1" :=
    getArg_of_init accepted threadsArgument.1 threadsArgument.2
  rw [ConfigManager.getArgInt, CmdlineParser.getInt, value, reads_oneOrTwo_iff, GivesOneOrTwo]
  cases given : lastGiven argv "--mode-threads" with
  | none =>
      simp only [Option.getD_none, Option.mem_def, reduceCtorEq, false_implies, implies_true, iff_true]
      exact Or.inl ⟨[], [], 0, [], by decide, by simp, Or.inl rfl, by simp⟩
  | some text => simp

/-- An accepted command line leads to a defined start-up exactly when its last mode is known and its
last number of threads spells 1 or 2. -/
theorem start_up_defined_iff (argv : List String)
    (accepted : (ConfigManager.getInstance.init argv).1 = true) :
    DefinedStartUp (ConfigManager.getInstance.init argv).2 ↔ GivesKnownMode argv ∧ GivesOneOrTwo argv := by
  rw [← controller_iff accepted, ← threads_iff accepted]
  constructor
  · intro defined
    exact ⟨defined.controller, defined.threads⟩
  · intro both
    exact ⟨both.1, both.2⟩

/-- `main` is defined up to its first start exactly when the configuration fails or its mode is known. -/
theorem startUp_isSome_iff (argv : List String) :
    (startUp argv).isSome ↔ ((ConfigManager.getInstance.init argv).1 = true → GivesKnownMode argv) := by
  unfold startUp
  split
  · next accepted =>
      rw [Option.isSome_map, ← controller_iff accepted, ← Option.isSome_iff_ne_none]
      exact ⟨fun some _ => some, fun given => given accepted⟩
  · next rejected => simp [rejected]

/-- A command line with a mode that does not exist. -/
def unknownMode : List String := ["vtb", "--", "-m", "Foo"]

/-- The unknown mode is accepted, and `main` calls `start` on the null pointer. -/
theorem unknown_mode_accepted :
    ¬ ∀ argv : List String, (ConfigManager.getInstance.init argv).1 = true →
      DefinedStartUp (ConfigManager.getInstance.init argv).2 := by
  intro claimed
  have defined := claimed unknownMode (by decide)
  exact absurd (by decide) defined.controller

/-- A command line with a known mode and two threads in an unusual spelling. -/
def twoThreads : List String := ["vtb", "-l", "0-1", "--", "-m", "Back2Back", "-mth", " +02x"]

/-- The two threads are accepted and lead to a defined start-up. -/
theorem start_up_defined_two_threads :
    (ConfigManager.getInstance.init twoThreads).1 = true ∧
      DefinedStartUp (ConfigManager.getInstance.init twoThreads).2 := by
  have accepted : (ConfigManager.getInstance.init twoThreads).1 = true := by decide
  have mode : GivesKnownMode twoThreads := by
    intro mode given
    have last : lastGiven twoThreads "-m" = some "Back2Back" := by decide
    rw [last, Option.mem_some_iff] at given
    simp [knownModes, ← given]
  have threads : GivesOneOrTwo twoThreads := by
    intro text given
    have last : lastGiven twoThreads "--mode-threads" = some " +02x" := by decide
    rw [last, Option.mem_some_iff] at given
    have spaces : ∀ c ∈ [' '], CmdlineParser.isSpace c = true := by
      simp only [List.forall_mem_singleton]
      decide
    have rest : ∀ c ∈ ['x'].head?, c.isDigit = false := by
      simp only [List.head?_cons, Option.mem_some_iff, forall_eq']
      decide
    exact Or.inr ⟨[' '], ['+'], 1, ['x'], by rw [← given]; decide, spaces, by decide, rest⟩
  exact ⟨accepted, (start_up_defined_iff twoThreads accepted).mpr ⟨mode, threads⟩⟩

end Vtb

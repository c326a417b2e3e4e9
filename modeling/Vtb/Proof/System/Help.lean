import Vtb.Proof.System.StartUp

namespace Vtb
open Library

namespace CmdlineParser

/-- The groups do not change what the usage shows of an argument. -/
theorem usageRow_record (arguments : List CmdlineArgumentFormat) (group : Group) :
    (record arguments group).map usageRow = arguments.map usageRow := by
  induction arguments with
  | nil => simp [record, resolve]
  | cons arg rest ih =>
      have kept : usageRow (mark group arg) = usageRow arg := rfl
      rw [record_cons]
      split
      · rw [List.map_cons, List.map_cons, kept]
      · rw [List.map_cons, List.map_cons, ih]

theorem usageRow_foldl_record (arguments : List CmdlineArgumentFormat) (groups : List Group) :
    (groups.foldl record arguments).map usageRow = arguments.map usageRow := by
  induction groups generalizing arguments with
  | nil => rfl
  | cons group rest ih => rw [List.foldl_cons, ih, usageRow_record]

/-- The usage after an accepted command line is the usage of the table. -/
theorem printUsage_of_parse {calls : List AddArgument} {argv : List String} {parsed : CmdlineParser}
    (accepted : parse argv (registered calls) = .ok parsed) :
    parsed.printUsage = (registered calls).printUsage := by
  have rows : parsed.arguments.map usageRow = (registered calls).arguments.map usageRow := by
    rw [(parse_eq_ok.mp accepted).2, usageRow_foldl_record]
  unfold printUsage
  rw [rows]

/-- The value of a group does not begin with a dash. -/
theorem plain_of_mem {tokens : List String} {group : Group} (member : group ∈ groupsOf tokens)
    {value : String} (given : group.value = some value) : beginsWithDash value = false := by
  have splits := splits_iff.mpr (rfl : groupsOf tokens = groupsOf tokens)
  generalize groupsOf tokens = groups at member splits
  induction splits with
  | done => simp at member
  | last flag => simp_all
  | alone flag next rest groups dash tail ih =>
      rcases List.mem_cons.mp member with rfl | later
      · simp at given
      · exact ih later
  | valued flag value rest groups plain tail ih =>
      rcases List.mem_cons.mp member with rfl | later
      · obtain rfl := Option.some.inj given
        exact plain
      · exact ih later

end CmdlineParser

/-- The two names of the help flag. -/
def helpFlags : List String := ["--help", "-h"]

/-- The application part has a help flag that no value follows. -/
def AsksForHelp (argv : List String) : Prop :=
  ∃ before flag after, CmdlineParser.appTokens argv = before ++ flag :: after ∧ flag ∈ helpFlags ∧
    ∀ next ∈ after.head?, beginsWithDash next = true

/-- `init` prints the usage and returns false. -/
def ShowsHelp (argv : List String) : Prop :=
  ConfigManager.getInstance.initPrints argv = ConfigManager.getInstance.parser.printUsage ∧
    (ConfigManager.getInstance.init argv).1 = false

/-- The last value that the command line gives to the help flag, in either name, is an affirmative word. -/
def GivesHelpValue (argv : List String) : Prop :=
  ∃ text ∈ lastGiven argv "--help", text ∈ ["true", "1", "yes"]

/-- The row of the argument table for the help flag, with its default. -/
theorem helpArgument :
    CmdlineParser.resolve ConfigManager.arguments.arguments "--help" = some 0 ∧
      ConfigManager.arguments.arguments[0]? =
        some ⟨"--help", "-h", "Show this help menu", false, false, "false"⟩ := by
  decide

section
variable {argv : List String} {parsed : CmdlineParser}

/-- A given value of the help flag does not begin with a dash. -/
theorem plain_of_lastGiven {name text : String} (given : lastGiven argv name = some text) :
    beginsWithDash text = false := by
  obtain ⟨index, _, last⟩ := Option.bind_eq_some_iff.mp given
  obtain ⟨before, group, later, split, own, _⟩ := exists_of_latest last
  rw [CmdlineParser.setsValue] at own
  split at own
  · exact CmdlineParser.plain_of_mem (by rw [split]; simp) own
  · simp at own

/-- `get<bool>` of the help flag holds exactly after an affirmative value.
A flag without a value keeps the stored value, whose default is false. -/
theorem getBool_help_iff (accepted : ConfigManager.getInstance.parser.parse argv = .ok parsed) :
    parsed.getBool "--help" = true ↔ GivesHelpValue argv := by
  have stored : parsed.get "--help" = (lastGiven argv "--help").getD "false" := by
    obtain ⟨found, row⟩ := helpArgument
    rw [arguments_eq] at found row
    have parses : CmdlineParser.parse argv (CmdlineParser.registered configTable) = .ok parsed := accepted
    rw [CmdlineParser.get_of_parse parses found row, lastGiven, arguments_eq, found]
    rfl
  rw [CmdlineParser.getBool, stored, GivesHelpValue]
  cases given : lastGiven argv "--help" with
  | none => simp
  | some text =>
      have plain := plain_of_lastGiven given
      have notShort : text ≠ "-h" := by
        rintro rfl
        exact absurd plain (by decide)
      have notLong : text ≠ "--help" := by
        rintro rfl
        exact absurd plain (by decide)
      simp [notShort, notLong]

/-- `init` shows help exactly when the stored value of the help flag is affirmative. -/
theorem showsHelp_iff (accepted : ConfigManager.getInstance.parser.parse argv = .ok parsed) :
    ShowsHelp argv ↔ parsed.getBool "--help" = true := by
  have parses : CmdlineParser.parse argv (CmdlineParser.registered configTable) = .ok parsed := accepted
  have usage : parsed.printUsage = ConfigManager.getInstance.parser.printUsage :=
    (CmdlineParser.printUsage_of_parse parses).trans (congrArg CmdlineParser.printUsage arguments_eq.symm)
  simp only [ShowsHelp, ConfigManager.initPrints, ConfigManager.init, accepted]
  cases parsed.getBool "--help" with
  | true => simp [usage]
  | false => simp

end

/-- An accepted command line that asks for help gets it exactly when it also gives the help flag
an affirmative value last. -/
theorem help_shown_iff (argv : List String) (parsed : CmdlineParser)
    (accepted : ConfigManager.getInstance.parser.parse argv = .ok parsed) :
    (AsksForHelp argv → ShowsHelp argv) ↔ (AsksForHelp argv → GivesHelpValue argv) := by
  rw [showsHelp_iff accepted, getBool_help_iff accepted]

/-- A command line that only asks for help. -/
def onlyHelp : List String := ["vtb", "--", "--help"]

/-- The program starts as if help had not been asked for. -/
theorem not_showsHelp_onlyHelp :
    ¬ ∀ (argv : List String) (parsed : CmdlineParser),
      ConfigManager.getInstance.parser.parse argv = .ok parsed → AsksForHelp argv → ShowsHelp argv := by
  intro every
  have asks : AsksForHelp onlyHelp := ⟨[], "--help", [], by decide, by decide, by simp⟩
  have starts : (ConfigManager.getInstance.init onlyHelp).1 = true := by decide
  cases parsed : ConfigManager.getInstance.parser.parse onlyHelp with
  | error what => simp [ConfigManager.init, parsed] at starts
  | ok parser =>
      have shown := every onlyHelp parser parsed asks
      rw [shown.2] at starts
      simp at starts

/-- A command line that gives the help flag a value before it asks for help. -/
def helpAfterValue : List String := ["vtb", "-l", "1-2", "--", "-h", "yes", "--mode", "Emulator", "--help"]

/-- The stored value answers the later flag. -/
theorem help_shown_iff_after_value :
    AsksForHelp helpAfterValue ∧ ShowsHelp helpAfterValue := by
  have asks : AsksForHelp helpAfterValue :=
    ⟨["-h", "yes", "--mode", "Emulator"], "--help", [], by decide, by decide, by simp⟩
  have gives : GivesHelpValue helpAfterValue := ⟨"yes", by decide, by decide⟩
  exact ⟨asks, (help_shown_iff helpAfterValue _ rfl).mpr (fun _ => gives) asks⟩

end Vtb

import Mathlib.Data.List.TakeWhile
import Vtb.Proof.Parser.Table

namespace Vtb
open Library

/-- The application tokens split into flags, each with a value exactly when the next token
does not begin with a dash. -/
inductive Splits : List String → List Group → Prop where
  | done : Splits [] []
  | last (flag : String) : Splits [flag] [⟨flag, none⟩]
  | alone (flag next : String) (rest : List String) (groups : List Group)
      (dash : beginsWithDash next = true) (tail : Splits (next :: rest) groups) :
      Splits (flag :: next :: rest) (⟨flag, none⟩ :: groups)
  | valued (flag value : String) (rest : List String) (groups : List Group)
      (plain : beginsWithDash value = false) (tail : Splits rest groups) :
      Splits (flag :: value :: rest) (⟨flag, some value⟩ :: groups)

/-- The groups of a token list. -/
def groupsOf : List String → List Group
  | [] => []
  | [flag] => [⟨flag, none⟩]
  | flag :: next :: rest =>
      if beginsWithDash next then ⟨flag, none⟩ :: groupsOf (next :: rest)
      else ⟨flag, some next⟩ :: groupsOf rest

/-- Every token list splits in exactly one way. -/
theorem splits_iff {tokens : List String} {groups : List Group} :
    Splits tokens groups ↔ groups = groupsOf tokens := by
  constructor
  · intro splits
    induction splits with
    | done => rfl
    | last flag => rfl
    | alone flag next rest groups dash tail ih => rw [groupsOf, if_pos dash, ih]
    | valued flag value rest groups plain tail ih =>
        rw [groupsOf, if_neg (by simp [plain]), ih]
  · intro same
    subst same
    induction tokens using groupsOf.induct with
    | case1 => exact .done
    | case2 flag => exact .last flag
    | case3 flag next rest dash ih =>
        rw [groupsOf, if_pos dash]
        exact .alone flag next rest _ dash ih
    | case4 flag next rest plain ih =>
        rw [groupsOf, if_neg plain]
        exact .valued flag next rest _ (by simpa using plain) ih

namespace CmdlineParser

/-- The loop of `parse` over the groups of its tokens. -/
def parseGroups (arguments : List CmdlineArgumentFormat) :
    List Group → Except String (List CmdlineArgumentFormat)
  | [] => .ok arguments
  | group :: rest =>
      match resolve arguments group.flag with
      | none => .error (unknownArgument group.flag)
      | some index =>
          if group.value = none ∧
              ((arguments[index]?).any fun arg => arg.required && arg.value.isEmpty) = true then
            .error (missingValue group.flag)
          else parseGroups (record arguments group) rest

/-- The loop over the tokens is the loop over their groups. -/
theorem parseTokens_eq (arguments : List CmdlineArgumentFormat) (tokens : List String) :
    parseTokens arguments tokens = parseGroups arguments (groupsOf tokens) := by
  induction tokens using groupsOf.induct generalizing arguments with
  | case1 => rfl
  | case2 flag =>
      rw [parseTokens, matchToken_eq, groupsOf, parseGroups]
      cases resolve arguments flag with
      | none => rfl
      | some index =>
          by_cases missing : ((arguments[index]?).any fun arg => arg.required && arg.value.isEmpty) = true
          · simp [missing]
          · simp [missing, parseTokens, parseGroups]
  | case3 flag next rest dash ih =>
      have kept : ((some next).filter fun value => !beginsWithDash value) = none := by
        simp [Option.filter, dash]
      rw [parseTokens, matchToken_eq, groupsOf, if_pos dash, parseGroups, List.head?_cons, kept]
      cases resolve arguments flag with
      | none => rfl
      | some index =>
          by_cases missing : ((arguments[index]?).any fun arg => arg.required && arg.value.isEmpty) = true
          · simp [missing]
          · simp [missing, ih]
  | case4 flag next rest plain ih =>
      have taken : ((some next).filter fun value => !beginsWithDash value) = some next := by
        simp [Option.filter, plain]
      rw [parseTokens, matchToken_eq, groupsOf, if_neg plain, parseGroups, List.head?_cons, taken]
      cases resolve arguments flag with
      | none => rfl
      | some index => simp [ih]

/-- A group is acceptable when its flag is known and no required argument stays without a value. -/
def Acceptable (arguments : List CmdlineArgumentFormat) (group : Group) : Prop :=
  ∃ index arg, resolve arguments group.flag = some index ∧ arguments[index]? = some arg ∧
    (group.value = none → arg.required = true → arg.value ≠ "")

/-- The loop accepts a group list exactly when each group is acceptable after the groups before it. -/
theorem parseGroups_eq_ok {arguments result : List CmdlineArgumentFormat} {groups : List Group} :
    parseGroups arguments groups = .ok result ↔
      Admits (fun past group => Acceptable (past.foldl record arguments) group) groups ∧
        result = groups.foldl record arguments := by
  induction groups generalizing arguments with
  | nil =>
      simp only [parseGroups, Except.ok.injEq, admits_nil, List.foldl_nil, true_and]
      exact eq_comm
  | cons group rest ih =>
      rw [admits_cons, parseGroups]
      cases found : resolve arguments group.flag with
      | none => simp [Acceptable, found]
      | some index =>
          obtain ⟨arg, stored⟩ := exists_of_resolve found
          have acceptable : Acceptable arguments group ↔
              ¬ (group.value = none ∧
                ((arguments[index]?).any fun arg => arg.required && arg.value.isEmpty) = true) := by
            simp [Acceptable, found, stored]
          by_cases missing : group.value = none ∧
              ((arguments[index]?).any fun arg => arg.required && arg.value.isEmpty) = true
          · have rejected : ¬ Acceptable arguments group := fun fine => acceptable.mp fine missing
            simp only [if_pos missing, List.foldl_nil, rejected, reduceCtorEq, false_and]
          · have fine : Acceptable arguments group := acceptable.mpr missing
            simp only [if_neg missing, List.foldl_nil, fine, true_and, List.foldl_cons]
            exact ih

/-- The application tokens follow the first `--`; there are none when there is no `--`. -/
def appTokens (argv : List String) : List String := (argv.tail.dropWhile fun token => token ≠ "--").tail

/-- The separator test and the search for it agree. -/
theorem afterSeparator_eq (tokens : List String) :
    afterSeparator tokens =
      if "--" ∈ tokens then some (tokens.dropWhile fun token => token ≠ "--").tail else none := by
  induction tokens with
  | nil => rfl
  | cons token rest ih =>
      rw [afterSeparator]
      by_cases separator : token = "--"
      · simp [separator]
      · rw [if_neg separator, ih]
        simp [separator, Ne.symm separator]

/-- One call of `add_argument`. -/
structure AddArgument where
  longN : String
  shortN : String
  desc : String
  req : Bool
  defaultV : String

/-- The table that a sequence of `add_argument` calls builds. -/
def registered (calls : List AddArgument) : CmdlineParser :=
  calls.foldl (fun parser call =>
    parser.addArgument call.longN call.shortN call.desc call.req call.defaultV) empty

/-- The table has one argument for each call, not found yet, that stores its default. -/
theorem registered_arguments (calls : List AddArgument) :
    (registered calls).arguments = calls.map fun call =>
      ⟨call.longN, call.shortN, call.desc, call.req, false, call.defaultV⟩ := by
  induction calls using List.reverseRecOn with
  | nil => rfl
  | append_singleton past call ih =>
      rw [registered, List.foldl_append, List.map_append, ← ih]
      rfl

/-- No argument of a fresh table is found. -/
theorem not_found_of_registered (calls : List AddArgument) (index : Nat) (arg : CmdlineArgumentFormat)
    (stored : (registered calls).arguments[index]? = some arg) : arg.found = false := by
  rw [registered_arguments, List.getElem?_map, Option.map_eq_some_iff] at stored
  obtain ⟨call, _, rfl⟩ := stored
  rfl

/-- The value that an argument stores after some groups: the last one that a group gave to it,
or the default. -/
def storedValue (arguments : List CmdlineArgumentFormat) (groups : List Group) (index : Nat)
    (arg : CmdlineArgumentFormat) : String :=
  (latest (setsValue arguments index) groups).getD arg.value

/-- The application groups that the table accepts. -/
structure AcceptsGroups (arguments : List CmdlineArgumentFormat) (groups : List Group) : Prop where
  known : ∀ group ∈ groups, ∃ arg ∈ arguments, arg.named group.flag = true
  valued : ∀ past group rest, groups = past ++ group :: rest → group.value = none →
    ∀ index arg, resolve arguments group.flag = some index → arguments[index]? = some arg →
      arg.required = true → storedValue arguments past index arg ≠ ""
  complete : ∀ (index : Nat) (arg : CmdlineArgumentFormat), arguments[index]? = some arg →
    arg.required = true → ∃ group ∈ groups, resolve arguments group.flag = some index

/-- The grammar of a command line. -/
def Accepts (arguments : List CmdlineArgumentFormat) (argv : List String) : Prop :=
  (argv.length ≤ 1 ∨ "--" ∈ argv.tail) ∧
    ∃ groups, Splits (appTokens argv) groups ∧ AcceptsGroups arguments groups

section
variable {arguments : List CmdlineArgumentFormat} {groups : List Group}

/-- A token is known when it resolves to an argument. -/
theorem known_iff {token : String} :
    (∃ arg ∈ arguments, arg.named token = true) ↔ ∃ index, resolve arguments token = some index := by
  rw [← Option.isSome_iff_exists, resolve, List.findIdx?_isSome]
  simp

/-- Acceptable groups in terms of the fresh table. -/
theorem admits_acceptable_iff :
    Admits (fun past group => Acceptable (past.foldl record arguments) group) groups ↔
      (∀ group ∈ groups, ∃ arg ∈ arguments, arg.named group.flag = true) ∧
      ∀ past group rest, groups = past ++ group :: rest → group.value = none →
        ∀ index arg, resolve arguments group.flag = some index → arguments[index]? = some arg →
          arg.required = true → storedValue arguments past index arg ≠ "" := by
  constructor
  · intro admitted
    constructor
    · intro group member
      obtain ⟨past, rest, split⟩ := List.append_of_mem member
      obtain ⟨index, _, found, _⟩ := admitted past group rest split
      rw [resolve_foldl_record] at found
      exact known_iff.mpr ⟨index, found⟩
    · intro past group rest split bare index arg found stored required
      obtain ⟨other, now, foundNow, storedNow, present⟩ := admitted past group rest split
      rw [resolve_foldl_record, found] at foundNow
      obtain rfl := Option.some.inj foundNow
      rw [getElem?_foldl_record, stored, Option.map_some, Option.some.injEq] at storedNow
      subst storedNow
      exact present bare required
  · intro ⟨known, valued⟩ past group rest split
    obtain ⟨index, found⟩ := known_iff.mp (known group (by simp [split]))
    obtain ⟨arg, stored⟩ := exists_of_resolve found
    have after := getElem?_foldl_record arguments past index
    rw [stored, Option.map_some] at after
    refine ⟨index, _, by rw [resolve_foldl_record, found], after, ?_⟩
    intro bare required
    exact valued past group rest split bare index arg found stored required

/-- The final pass accepts exactly when each required argument is named by some group. -/
theorem checkRequired_foldl_iff (fresh : ∀ (index : Nat) (arg : CmdlineArgumentFormat),
      arguments[index]? = some arg → arg.found = false) :
    checkRequired (groups.foldl record arguments) = .ok () ↔
      ∀ (index : Nat) (arg : CmdlineArgumentFormat), arguments[index]? = some arg →
        arg.required = true → ∃ group ∈ groups, resolve arguments group.flag = some index := by
  rw [checkRequired_eq_ok]
  constructor
  · intro all index arg stored required
    have after := getElem?_foldl_record arguments groups index
    rw [stored, Option.map_some] at after
    have found := all index _ after required
    simpa [fresh index arg stored] using found
  · intro named index other stored required
    rw [getElem?_foldl_record, Option.map_eq_some_iff] at stored
    obtain ⟨arg, before, rfl⟩ := stored
    obtain ⟨group, member, found⟩ := named index arg before required
    simp only [Bool.or_eq_true, List.any_eq_true, beq_iff_eq]
    exact .inr ⟨group, member, found⟩

/-- A table without found arguments accepts groups exactly when each of them is acceptable at its place
and the final pass accepts. -/
theorem acceptsGroups_iff (fresh : ∀ (index : Nat) (arg : CmdlineArgumentFormat),
      arguments[index]? = some arg → arg.found = false) :
    AcceptsGroups arguments groups ↔
      Admits (fun past group => Acceptable (past.foldl record arguments) group) groups ∧
        checkRequired (groups.foldl record arguments) = .ok () := by
  rw [admits_acceptable_iff, checkRequired_foldl_iff fresh]
  constructor
  · intro accepted
    exact ⟨⟨accepted.known, accepted.valued⟩, accepted.complete⟩
  · intro ⟨⟨known, valued⟩, complete⟩
    exact ⟨known, valued, complete⟩

/-- The tokens of the application part have one reading. -/
theorem accepts_iff {argv : List String} :
    Accepts arguments argv ↔
      (argv.length ≤ 1 ∨ "--" ∈ argv.tail) ∧ AcceptsGroups arguments (groupsOf (appTokens argv)) := by
  simp only [Accepts, splits_iff, exists_eq_left]

/-- The parser ends with the final pass over its table. -/
theorem map_checkRequired_eq_ok {parsed : CmdlineParser} :
    ((checkRequired arguments).map fun _ => (⟨arguments⟩ : CmdlineParser)) = .ok parsed ↔
      checkRequired arguments = .ok () ∧ parsed.arguments = arguments := by
  cases checkRequired arguments with
  | error what => simp [Except.map]
  | ok value =>
      simp only [Except.map, Except.ok.injEq, true_and]
      constructor
      · intro same
        rw [← same]
      · intro same
        rw [← same]

/-- The loop over the groups and the final pass end well exactly when the table accepts the groups. -/
theorem parseGroups_bind_eq_ok (fresh : ∀ (index : Nat) (arg : CmdlineArgumentFormat),
      arguments[index]? = some arg → arg.found = false) {parsed : CmdlineParser} :
    ((parseGroups arguments groups).bind fun recorded =>
        (checkRequired recorded).map fun _ => (⟨recorded⟩ : CmdlineParser)) = .ok parsed ↔
      AcceptsGroups arguments groups ∧ parsed.arguments = groups.foldl record arguments := by
  rw [acceptsGroups_iff fresh]
  cases looped : parseGroups arguments groups with
  | error what =>
      have rejected : ¬ Admits (fun past group => Acceptable (past.foldl record arguments) group) groups := by
        intro admitted
        have accepted := parseGroups_eq_ok.mpr ⟨admitted, rfl⟩
        simp [looped] at accepted
      simp [rejected, Except.bind]
  | ok recorded =>
      obtain ⟨admitted, rfl⟩ := parseGroups_eq_ok.mp looped
      simp only [Except.bind, map_checkRequired_eq_ok, admitted, true_and]

end

/-- A command line without a separator has no application part. -/
theorem appTokens_of_not_mem {argv : List String} (missing : "--" ∉ argv.tail) : appTokens argv = [] := by
  have all : (argv.tail.dropWhile fun token => token ≠ "--") = [] := by
    apply List.dropWhile_eq_nil_iff.mpr
    intro token member
    have different : token ≠ "--" := fun same => missing (same ▸ member)
    simpa using different
  rw [appTokens, all]
  rfl

/-- A fresh table parses a command line exactly when it is grammatical,
and then the result is the table with all groups recorded. -/
theorem parse_eq_ok {calls : List AddArgument} {argv : List String} {parsed : CmdlineParser} :
    parse argv (registered calls) = .ok parsed ↔
      Accepts (registered calls).arguments argv ∧
        parsed.arguments = (groupsOf (appTokens argv)).foldl record (registered calls).arguments := by
  have fresh := not_found_of_registered calls
  have whole (groups : List Group) :
      ((parseGroups (registered calls).arguments groups).bind fun recorded =>
          (checkRequired recorded).map fun _ => (⟨recorded⟩ : CmdlineParser)) = .ok parsed ↔
        AcceptsGroups (registered calls).arguments groups ∧
          parsed.arguments = groups.foldl record (registered calls).arguments :=
    parseGroups_bind_eq_ok fresh
  rw [accepts_iff, parse, afterSeparator_eq]
  by_cases separated : "--" ∈ argv.tail
  · have tokens : (argv.tail.dropWhile fun token => token ≠ "--").tail = appTokens argv := rfl
    rw [if_pos separated]
    simp only [tokens, separated, or_true, true_and, parseTokens_eq]
    rw [← whole]
    cases parseGroups (registered calls).arguments (groupsOf (appTokens argv)) <;> rfl
  · rw [if_neg separated, appTokens_of_not_mem separated]
    by_cases short : argv.length ≤ 1
    · have few : ¬ 1 < argv.length := by omega
      simp only [if_neg few, short, true_or, true_and]
      exact whole []
    · have many : 1 < argv.length := by omega
      simp [many, separated]

/-- The parser returns without throwing exactly on its grammar. -/
theorem parse_accepts_iff (calls : List AddArgument) (argv : List String) :
    (∃ parsed, parse argv (registered calls) = .ok parsed) ↔
      Accepts (registered calls).arguments argv := by
  simp only [parse_eq_ok]
  constructor
  · intro ⟨_, accepted, _⟩
    exact accepted
  · intro accepted
    exact ⟨⟨(groupsOf (appTokens argv)).foldl record (registered calls).arguments⟩, accepted, rfl⟩

end CmdlineParser

end Vtb

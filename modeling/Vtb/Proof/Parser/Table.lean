import Vtb.Library.Latest
import Vtb.Library.Machine
import Vtb.Construction.CmdlineParser

namespace Vtb
open Library

/-- A flag of the application part with its value, when it has one. -/
structure Group where
  flag : String
  value : Option String
deriving DecidableEq

namespace CmdlineParser

/-- The first argument that has the token as a name. -/
def resolve (arguments : List CmdlineArgumentFormat) (token : String) : Option Nat :=
  arguments.findIdx? fun arg => arg.named token

/-- A group marks its argument as found and replaces the stored value by its own, when it has one. -/
def mark (group : Group) (arg : CmdlineArgumentFormat) : CmdlineArgumentFormat :=
  { arg with found := true, value := group.value.getD arg.value }

/-- A group updates the first argument that has its flag as a name. -/
def record (arguments : List CmdlineArgumentFormat) (group : Group) : List CmdlineArgumentFormat :=
  match resolve arguments group.flag with
  | none => arguments
  | some index => arguments.modify index (mark group)

/-- The value that a group gives to one argument of the table. -/
def setsValue (arguments : List CmdlineArgumentFormat) (index : Nat) (group : Group) : Option String :=
  if resolve arguments group.flag = some index then group.value else none

section
variable {arguments : List CmdlineArgumentFormat} {group : Group} {groups : List Group} {token : String}
  {arg : CmdlineArgumentFormat} {rest : List CmdlineArgumentFormat} {index : Nat}

theorem resolve_cons :
    resolve (arg :: rest) token =
      if arg.named token then some 0 else (resolve rest token).map Nat.succ := by
  rw [resolve, List.findIdx?_cons]
  rfl

/-- A resolved name has an argument of the table. -/
theorem exists_of_resolve (found : resolve arguments token = some index) :
    ∃ arg, arguments[index]? = some arg := by
  have inside := (List.findIdx?_eq_some_iff_getElem.mp found).1
  exact ⟨arguments[index], List.getElem?_eq_getElem inside⟩

theorem record_cons :
    record (arg :: rest) group =
      if arg.named group.flag then mark group arg :: rest else arg :: record rest group := by
  by_cases own : arg.named group.flag
  · simp [record, resolve_cons, own]
  · cases later : resolve rest group.flag with
    | none => simp [record, resolve_cons, own, later]
    | some index => simp [record, resolve_cons, own, later]

/-- A group changes the argument that its flag resolves to and no other argument. -/
theorem getElem?_record (arguments : List CmdlineArgumentFormat) (group : Group) (index : Nat) :
    (record arguments group)[index]? =
      (arguments[index]?).map fun arg =>
        if resolve arguments group.flag = some index then mark group arg else arg := by
  cases found : resolve arguments group.flag with
  | none => simp [record, found]
  | some own =>
      rw [record, found]
      simp only [List.getElem?_modify, Option.some.injEq]
      by_cases same : own = index <;> simp [same]

/-- A group keeps the names of the arguments. -/
@[simp] theorem resolve_record : resolve (record arguments group) token = resolve arguments token := by
  induction arguments with
  | nil => simp [record, resolve]
  | cons arg rest ih =>
      have kept : (mark group arg).named token = arg.named token := rfl
      rw [record_cons]
      split
      · rw [resolve_cons, resolve_cons, kept]
      · rw [resolve_cons, resolve_cons, ih]

@[simp] theorem resolve_foldl_record :
    resolve (groups.foldl record arguments) token = resolve arguments token := by
  induction groups generalizing arguments with
  | nil => rfl
  | cons group rest ih => rw [List.foldl_cons, ih, resolve_record]

/-- After a list of groups an argument is found when some group names it first,
and it stores the last value that a group gives to it. -/
theorem getElem?_foldl_record (arguments : List CmdlineArgumentFormat) (groups : List Group) (index : Nat) :
    (groups.foldl record arguments)[index]? =
      (arguments[index]?).map fun arg =>
        { arg with
          found := arg.found || groups.any fun group => resolve arguments group.flag == some index
          value := (latest (setsValue arguments index) groups).getD arg.value } := by
  induction groups using List.reverseRecOn with
  | nil => simp
  | append_singleton past group ih =>
      rw [List.foldl_append, List.foldl_cons, List.foldl_nil, getElem?_record, ih, Option.map_map,
        resolve_foldl_record]
      apply congrArg (fun update => (arguments[index]?).map update)
      funext arg
      rw [Function.comp_apply, latest_concat, setsValue, List.any_append, List.any_cons, List.any_nil]
      by_cases own : resolve arguments group.flag = some index
      · cases given : group.value with
        | none => simp [own, mark, given]
        | some value => simp [own, mark, given]
      · have other : (resolve arguments group.flag == some index) = false := by simpa using own
        simp [own, other]

/-- The scan for one token resolves it, and then it takes the next token, keeps the stored value,
or reports that the value is missing. -/
theorem matchToken_eq (token : String) (next : Option String)
    (arguments : List CmdlineArgumentFormat) :
    matchToken token next arguments =
      match resolve arguments token with
      | none => .ok none
      | some index =>
          match next.filter fun value => !beginsWithDash value with
          | some value => .ok (some (record arguments ⟨token, some value⟩, true))
          | none =>
              if (arguments[index]?).any fun arg => arg.required && arg.value.isEmpty then
                .error (missingValue token)
              else .ok (some (record arguments ⟨token, none⟩, false)) := by
  induction arguments with
  | nil => rfl
  | cons arg rest ih =>
      rw [matchToken, resolve_cons]
      by_cases own : arg.named token
      · rw [if_pos own, if_pos own]
        cases taken : next.filter fun value => !beginsWithDash value with
        | some value => simp [record_cons, own, mark]
        | none => simp [record_cons, own, mark]
      · rw [if_neg own, if_neg own, ih]
        cases found : resolve rest token with
        | none => rfl
        | some index =>
            cases taken : next.filter fun value => !beginsWithDash value with
            | some value => simp [Except.map, record_cons, own]
            | none =>
                simp only [Option.map_some, List.getElem?_cons_succ]
                split
                · rfl
                · simp [Except.map, record_cons, own]

/-- The final pass accepts exactly the tables whose required arguments are all found. -/
theorem checkRequired_eq_ok :
    checkRequired arguments = .ok () ↔
      ∀ (index : Nat) (arg : CmdlineArgumentFormat), arguments[index]? = some arg →
        arg.required = true → arg.found = true := by
  induction arguments with
  | nil => simp [checkRequired]
  | cons arg rest ih =>
      rw [checkRequired]
      by_cases missing : (arg.required && !arg.found) = true
      · rw [if_pos missing]
        simp only [Bool.and_eq_true, Bool.not_eq_true'] at missing
        simp only [reduceCtorEq, false_iff]
        intro all
        have present := all 0 arg rfl missing.1
        simp [missing.2] at present
      · rw [if_neg missing, ih]
        constructor
        · intro all index other stored required
          cases index with
          | zero =>
              obtain rfl : arg = other := by simpa using stored
              by_contra absent
              exact missing (by simp [required, absent])
          | succ index => exact all index other (by simpa using stored) required
        · intro all index other stored required
          exact all (index + 1) other (by simpa using stored) required

end

end CmdlineParser

end Vtb

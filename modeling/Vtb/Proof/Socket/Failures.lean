import Vtb.Construction.Socket

namespace Vtb

namespace SocketCall

/-- The descriptor that a call opens. -/
def openedDescriptor : SocketCall → Option Descriptor
  | .opened descriptor => some descriptor
  | .made _ => none

/-- The closes of one descriptor among the calls. -/
def closes (calls : List SocketCall) (descriptor : Descriptor) : Nat :=
  calls.count (.made (.close descriptor))

end SocketCall

open SocketCall (openedDescriptor closes)

/-- A helper reports a descriptor exactly on full success. It closes a descriptor that it opened
exactly once before it returns -1, and otherwise it returns the descriptor without closing it. -/
structure MeetsContract (path : List UInt8) (socket : Option Descriptor) (attached : Bool)
    (result : Int × List SocketCall) : Prop where
  reports : 0 ≤ result.1 ↔ path ≠ [] ∧ path.length < sunPathSize ∧ socket ≠ none ∧ attached = true
  cleans : result.1 = -1 → ∀ descriptor ∈ result.2.filterMap openedDescriptor, closes result.2 descriptor = 1
  keeps : result.1 ≠ -1 → ∃ descriptor : Descriptor, result.2.filterMap openedDescriptor = [descriptor] ∧
    result.1 = descriptor ∧ closes result.2 descriptor = 0

/-- Both helpers meet the contract of a path under the same answers. -/
def HelpersMeetContract (path : List UInt8) (outcomes : SocketOutcomes) : Prop :=
  MeetsContract path outcomes.socket outcomes.bind (outcomes.system.createServerSocket path []) ∧
    MeetsContract path outcomes.socket outcomes.connect (outcomes.system.createClientSocket path [])

section
variable {path : List UInt8} {socket : Option Descriptor} {attached : Bool} {descriptor : Descriptor}
  {calls : List SocketCall}

/-- A helper that never had a socket fails as it should. -/
theorem meets_early (nothing : path = [] ∨ socket = none) : MeetsContract path socket attached (-1, []) where
  reports := by
    constructor
    · intro positive
      simp at positive
    · intro ⟨named, _, granted, _⟩
      exact absurd nothing (not_or.mpr ⟨named, granted⟩)
  cleans := by simp
  keeps different := absurd rfl different

/-- A helper that closes its socket fails as it should when the path is too long or nothing was attached. -/
theorem meets_closed (failed : ¬ (path.length < sunPathSize ∧ attached = true))
    (opens : calls.filterMap openedDescriptor = [descriptor]) (kept : closes calls descriptor = 0) :
    MeetsContract path socket attached (-1, calls ++ [.made (.close descriptor)]) where
  reports := by
    constructor
    · intro positive
      simp at positive
    · intro ⟨_, short, _, success⟩
      exact absurd ⟨short, success⟩ failed
  cleans := by
    intro _ other member
    simp only [List.filterMap_append, opens, List.filterMap_cons, openedDescriptor, List.filterMap_nil,
      List.append_nil, List.mem_singleton] at member
    subst member
    rw [closes, List.count_append, ← closes, kept]
    simp
  keeps different := absurd rfl different

/-- A helper that returns its socket meets the contract exactly when the socket was attached. -/
theorem meets_returned_iff (named : path ≠ []) (short : path.length < sunPathSize)
    (granted : socket = some descriptor) (opens : calls.filterMap openedDescriptor = [descriptor])
    (kept : closes calls descriptor = 0) :
    MeetsContract path socket attached ((descriptor : Int), calls) ↔ attached = true := by
  have positive : (0 : Int) ≤ descriptor := Int.natCast_nonneg descriptor
  constructor
  · intro contract
    exact (contract.reports.mp positive).2.2.2
  · intro success
    constructor
    · simp [positive, named, short, granted, success]
    · intro failed
      simp only at failed
      omega
    · intro _
      exact ⟨descriptor, opens, rfl, kept⟩

end

/-- The server helper meets its contract on every path and under all answers. -/
theorem server_meets_contract (path : List UInt8) (outcomes : SocketOutcomes) :
    MeetsContract path outcomes.socket outcomes.bind (outcomes.system.createServerSocket path []) := by
  unfold SocketSystem.createServerSocket SocketOutcomes.system
  split
  · next empty => exact meets_early (Or.inl empty)
  · next named =>
      cases granted : outcomes.socket with
      | none => exact meets_early (Or.inr rfl)
      | some descriptor =>
          simp only [Option.map_some, List.nil_append]
          split
          · next long => exact meets_closed (by omega) rfl (by simp [closes])
          · next short =>
              split
              · cases bound : outcomes.bind with
                | false => exact meets_closed (by simp) rfl (by simp [closes])
                | true => exact (meets_returned_iff named (by omega) rfl rfl (by simp [closes])).mpr rfl
              · cases bound : outcomes.bind with
                | false => exact meets_closed (by simp) rfl (by simp [closes])
                | true => exact (meets_returned_iff named (by omega) rfl rfl (by simp [closes])).mpr rfl

/-- The client helper meets its contract exactly when it fails before it connects or the connection succeeds. -/
theorem client_meets_contract_iff (path : List UInt8) (outcomes : SocketOutcomes) :
    MeetsContract path outcomes.socket outcomes.connect (outcomes.system.createClientSocket path []) ↔
      path = [] ∨ sunPathSize ≤ path.length ∨ outcomes.socket = none ∨ outcomes.connect = true := by
  unfold SocketSystem.createClientSocket SocketOutcomes.system
  split
  · next empty =>
      simp only [empty, true_or, iff_true]
      exact meets_early (Or.inl rfl)
  · next named =>
      cases granted : outcomes.socket with
      | none =>
          simp only [true_or, or_true, iff_true]
          exact meets_early (Or.inr rfl)
      | some descriptor =>
          simp only [Option.map_some, List.nil_append]
          split
          · next long =>
              have beyond : sunPathSize ≤ path.length := long
              simp only [beyond, true_or, or_true, iff_true]
              exact meets_closed (by omega) rfl (by simp [closes])
          · next short =>
              have within : ¬ sunPathSize ≤ path.length := short
              simp only [named, within, reduceCtorEq, false_or]
              split
              · exact meets_returned_iff named (by omega) rfl rfl (by simp [closes])
              · exact meets_returned_iff named (by omega) rfl rfl (by simp [closes])

/-- The two helpers meet their contract exactly when the path is empty or too long, no socket is granted,
or the connection of the client succeeds. -/
theorem helpers_meet_contract_iff (path : List UInt8) (outcomes : SocketOutcomes) :
    HelpersMeetContract path outcomes ↔
      path = [] ∨ sunPathSize ≤ path.length ∨ outcomes.socket = none ∨ outcomes.connect = true := by
  rw [HelpersMeetContract, client_meets_contract_iff]
  exact and_iff_right (server_meets_contract path outcomes)

/-- The client reports a descriptor although nobody accepts its connection. -/
theorem not_helpersMeetContract_refused :
    ¬ ∀ (path : List UInt8) (outcomes : SocketOutcomes), HelpersMeetContract path outcomes := by
  intro every
  have client := (every [atSign, 118] ⟨some 3, true, false⟩).2
  have reported : (SocketOutcomes.system ⟨some 3, true, false⟩).createClientSocket [atSign, 118] [] =
      (3, [.opened 3, .made (.connect 3 (abstractAddress [atSign, 118]))]) := rfl
  have success := client.reports.mp (by rw [reported]; decide)
  simp at success

end Vtb

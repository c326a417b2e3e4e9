import Vtb.Library.Keyed
import Vtb.Proof.PortMap.Operations

namespace Vtb
open Library

namespace ConfigOperation

/-- The port whose entry the operation names. -/
def port : ConfigOperation → Int
  | .initVhostDevice portId _ _ => portId
  | .setQueueState portId _ _ => portId
  | .assignPortDataSocket portId _ _ => portId
  | .assignPortControlSocket portId _ => portId
  | .clearDevice vid => vid

/-- The entry that an operation leaves in place of the entry of its port. -/
def rewrite : ConfigOperation → Option PortMap → Option (Option PortMap)
  | .initVhostDevice _ vid nofPairs, entry =>
      let pm := entry.getD PortMap.zero
      ((List.range nofPairs.toNat).foldlM (ConfigManager.initPair nofPairs)
        { pm with vd := { pm.vd with vid, nofQueuePairs := nofPairs, ready := true } }).map some
  | .setQueueState _ vringId enable, some pm =>
      (ConfigManager.scanPairs vringId enable pm.vd.qp (List.range pm.vd.nofQueuePairs.toNat)).map
        fun qp => some { pm with vd := { pm.vd with qp } }
  | .assignPortDataSocket _ qpIdx socketFd, some pm =>
      if qpIdx < maxQueuePairs then
        (writeCell pm.pd.qp qpIdx ⟨socketFd, socketFd⟩).map fun qp =>
          some { pm with pd := { pm.pd with qp } }
      else some (some pm)
  | .assignPortControlSocket _ ctlFd, some pm => some (some { pm with pd := { pm.pd with ctlqId := ctlFd } })
  | .setQueueState _ _ _, none => some none
  | .assignPortDataSocket _ _ _, none => some none
  | .assignPortControlSocket _ _, none => some none
  | .clearDevice _, _ => some none

/-- The port map as entries that the operations name by their port. -/
def entries : Keyed Int PortMap ConfigOperation := ⟨port, rewrite⟩

/-- An initialisation makes an entry present, and a clear makes it absent. -/
def presence : ConfigOperation → Option Bool
  | .initVhostDevice _ _ _ => some true
  | .clearDevice _ => some false
  | _ => none

/-- The pair counts and pair indices that the arrays of an entry can hold. -/
def InBounds : ConfigOperation → Prop
  | .initVhostDevice _ _ nofPairs => nofPairs ≤ maxQueuePairs
  | .assignPortDataSocket _ qpIdx _ => 0 ≤ qpIdx ∧ qpIdx < maxQueuePairs
  | _ => True

instance : ∀ operation : ConfigOperation, Decidable operation.InBounds
  | .initVhostDevice _ _ _ => inferInstanceAs (Decidable (_ ≤ _))
  | .assignPortDataSocket _ _ _ => inferInstanceAs (Decidable (_ ∧ _))
  | .setQueueState _ _ _ => inferInstanceAs (Decidable True)
  | .assignPortControlSocket _ _ => inferInstanceAs (Decidable True)
  | .clearDevice _ => inferInstanceAs (Decidable True)

/-- The operation stays inside the arrays of an entry, which an assignment touches only when it is present. -/
def InsideArrays (present : Bool) : ConfigOperation → Prop
  | .initVhostDevice _ _ nofPairs => nofPairs ≤ maxQueuePairs
  | .assignPortDataSocket _ qpIdx _ => present = true → 0 ≤ qpIdx
  | _ => True

theorem InBounds.insideArrays {operation : ConfigOperation} (valid : operation.InBounds) (present : Bool) :
    operation.InsideArrays present := by
  cases operation with
  | initVhostDevice portId vid nofPairs => exact valid
  | assignPortDataSocket portId qpIdx socketFd => exact fun _ => valid.1
  | _ => trivial

/-- The last initialisation or clear of a port is an initialisation. -/
def lastInitialises (history : List ConfigOperation) (portId : Int) : Prop :=
  latest (entries.presenceAt presence portId) history = some true

/-- Only an initialisation creates an entry, and only a clear removes one. -/
theorem presence_decides : entries.Presents presence := by
  intro operation entry after rewritten
  cases operation <;> cases entry <;>
    simp only [entries, rewrite, presence, Option.map_eq_some_iff, Option.some.injEq] at rewritten ⊢
  case initVhostDevice.none =>
    obtain ⟨pm, _, rfl⟩ := rewritten
    rfl
  case initVhostDevice.some =>
    obtain ⟨pm, _, rfl⟩ := rewritten
    rfl
  case setQueueState.some =>
    obtain ⟨qp, _, rfl⟩ := rewritten
    rfl
  case assignPortDataSocket.some =>
    split at rewritten
    · obtain ⟨qp, _, rfl⟩ := Option.map_eq_some_iff.mp rewritten
      rfl
    · obtain rfl := Option.some.inj rewritten
      rfl
  all_goals
    subst rewritten
    rfl

end ConfigOperation

namespace ConfigManager

/-- The port map with one entry replaced or removed. -/
def place (config : ConfigManager) (portId : Int) : Option PortMap → ConfigManager
  | none => config.clearDevice portId
  | some pm => config.store portId pm

theorem place_pmap (config : ConfigManager) (portId key : Int) (entry : Option PortMap) :
    (config.place portId entry).pmap[key]? = if portId = key then entry else config.pmap[key]? := by
  cases entry with
  | none => exact config.clearDevice_pmap portId key
  | some pm => exact config.store_pmap portId key pm

@[simp] theorem parser_place (config : ConfigManager) (portId : Int) (entry : Option PortMap) :
    (config.place portId entry).parser = config.parser := by
  cases entry <;> rfl

/-- Two configurations with one command line and the same entries are equal. -/
theorem ext_pmap {config other : ConfigManager} (parsers : config.parser = other.parser)
    (entries : ∀ key : Int, config.pmap[key]? = other.pmap[key]?) : config = other := by
  have maps : config.pmap = other.pmap := Std.ExtTreeMap.ext_getElem? entries
  cases config
  cases other
  cases parsers
  cases maps
  rfl

/-- An entry that is replaced by itself leaves the port map as it was. -/
theorem place_same {config : ConfigManager} {portId : Int} {entry : Option PortMap}
    (found : config.pmap[portId]? = entry) : config.place portId entry = config := by
  apply ext_pmap (config.parser_place portId entry)
  intro key
  rw [place_pmap]
  split
  · next hit => rw [← hit, found]
  · rfl

/-- Each operation replaces the entry of its port and nothing else. -/
theorem operate_eq (config : ConfigManager) (operation : ConfigOperation) :
    config.operate operation =
      (operation.rewrite (config.pmap[operation.port]?)).map (config.place operation.port) := by
  cases operation with
  | initVhostDevice portId vid nofPairs =>
      simp only [operate, initVhostDevice, ConfigOperation.rewrite, ConfigOperation.port, Option.map_map]
      rfl
  | setQueueState portId vringId enable =>
      simp only [operate, setQueueState, ConfigOperation.port]
      cases found : config.pmap[portId]? with
      | none => simp only [ConfigOperation.rewrite, Option.map_some, place_same found]
      | some pm =>
          simp only [ConfigOperation.rewrite, Option.map_map]
          rfl
  | assignPortDataSocket portId qpIdx socketFd =>
      simp only [operate, assignPortDataSocket, ConfigOperation.port]
      cases found : config.pmap[portId]? with
      | none => simp only [ConfigOperation.rewrite, Option.map_some, place_same found]
      | some pm =>
          simp only [ConfigOperation.rewrite]
          split
          · rw [Option.map_map]
            rfl
          · rw [Option.map_some, place_same found]
  | assignPortControlSocket portId ctlFd =>
      simp only [operate, assignPortControlSocket, ConfigOperation.port]
      cases found : config.pmap[portId]? with
      | none => simp only [ConfigOperation.rewrite, Option.map_some, place_same found]
      | some pm => rfl
  | clearDevice vid => rfl

/-- A step of the port map replaces one entry. -/
theorem operate_step {config next : ConfigManager} {operation : ConfigOperation} {outputs : List Unit}
    (stepped : ConfigManager.machine.step config operation = some (next, outputs)) :
    ∃ entry, operation.rewrite (config.pmap[operation.port]?) = some entry ∧
      config.place operation.port entry = next := by
  simp only [machine, operate_eq, Option.map_map, Option.map_eq_some_iff] at stepped
  obtain ⟨entry, rewritten, same⟩ := stepped
  exact ⟨entry, rewritten, (Prod.mk.inj same).1⟩

/-- An operation on the port map leaves the command line as it is. -/
theorem operate_arguments {config next : ConfigManager} {operation : ConfigOperation}
    (operated : config.operate operation = some next) : next.parser = config.parser := by
  rw [operate_eq] at operated
  obtain ⟨entry, _, rfl⟩ := Option.map_eq_some_iff.mp operated
  exact parser_place config operation.port entry

/-- The port map is driven entry by entry. -/
theorem entries_drive :
    ConfigOperation.entries.Drives ConfigManager.machine fun config portId => config.pmap[portId]? where
  named config operation next outputs stepped := by
    obtain ⟨entry, rewritten, placed⟩ := operate_step stepped
    rw [← placed, ConfigOperation.entries, place_pmap, if_pos rfl]
    exact rewritten
  others config operation next outputs stepped portId different := by
    obtain ⟨entry, _, placed⟩ := operate_step stepped
    rw [← placed, place_pmap]
    exact if_neg (Ne.symm different)
  defined config operation entry rewritten := by
    refine ⟨config.place operation.port entry, [], ?_⟩
    have replaced : operation.rewrite (config.pmap[operation.port]?) = some entry := rewritten
    simp only [machine, operate_eq, replaced, Option.map_some]

/-- No entry records more queue pairs than its arrays hold. -/
def Fits (config : ConfigManager) : Prop :=
  ∀ (portId : Int) (pm : PortMap), config.pmap[portId]? = some pm → pm.vd.nofQueuePairs ≤ maxQueuePairs

theorem fits_initial (parser : CmdlineParser) : (initial parser).Fits := by
  intro portId pm found
  simp [initial] at found

/-- The scan of the queue pairs stays inside the array. -/
theorem scanPairs_defined (vringId : UInt16) (enable : Bool) (qp : Vector VhostQueuePair maxQueuePairs)
    {indices : List Nat} (inside : ∀ i ∈ indices, i < maxQueuePairs) :
    ∃ written, scanPairs vringId enable qp indices = some written := by
  induction indices with
  | nil => exact ⟨qp, rfl⟩
  | cons i rest ih =>
      have cell : i < maxQueuePairs := inside i (by simp)
      simp only [scanPairs, readCell_natCast, Vector.getElem?_eq_getElem cell, Option.bind_some]
      split
      · exact ⟨_, writeCell_natCast _ _ cell⟩
      · split
        · exact ⟨_, writeCell_natCast _ _ cell⟩
        · apply ih
          intro later member
          exact inside later (by simp [member])

/-- An operation inside the arrays is defined, and its entry still fits. -/
theorem rewrite_defined {operation : ConfigOperation} {entry : Option PortMap}
    (valid : operation.InsideArrays entry.isSome)
    (fits : ∀ pm ∈ entry, pm.vd.nofQueuePairs ≤ maxQueuePairs) :
    ∃ after, operation.rewrite entry = some after ∧
      ∀ pm ∈ after, pm.vd.nofQueuePairs ≤ maxQueuePairs := by
  cases operation with
  | initVhostDevice portId vid nofPairs =>
      have count : nofPairs.toNat ≤ maxQueuePairs := Int.toNat_le.mpr valid
      simp only [ConfigOperation.rewrite, initPair_loop nofPairs _ _ count, Option.map_some]
      refine ⟨_, rfl, ?_⟩
      intro pm here
      obtain rfl := Option.some.inj here
      exact valid
  | setQueueState portId vringId enable =>
      cases entry with
      | none => exact ⟨none, rfl, by simp⟩
      | some pm =>
          have count := fits pm rfl
          have inside : ∀ i ∈ List.range pm.vd.nofQueuePairs.toNat, i < maxQueuePairs := by
            intro i member
            have below := List.mem_range.mp member
            omega
          obtain ⟨qp, scanned⟩ := scanPairs_defined vringId enable pm.vd.qp inside
          simp only [ConfigOperation.rewrite, scanned, Option.map_some]
          refine ⟨_, rfl, ?_⟩
          intro pm here
          obtain rfl := Option.some.inj here
          exact count
  | assignPortDataSocket portId qpIdx socketFd =>
      cases entry with
      | none => exact ⟨none, rfl, by simp⟩
      | some pm =>
          have count := fits pm rfl
          obtain ⟨index, rfl⟩ := Int.eq_ofNat_of_zero_le (valid rfl)
          simp only [ConfigOperation.rewrite]
          by_cases high : (index : Int) < maxQueuePairs
          · have cell : index < maxQueuePairs := by omega
            simp only [if_pos high, writeCell_natCast _ _ cell, Option.map_some]
            refine ⟨_, rfl, ?_⟩
            intro pm here
            obtain rfl := Option.some.inj here
            exact count
          · rw [if_neg high]
            exact ⟨some pm, rfl, fits⟩
  | assignPortControlSocket portId ctlFd =>
      cases entry with
      | none => exact ⟨none, rfl, by simp⟩
      | some pm =>
          refine ⟨_, rfl, ?_⟩
          intro after here
          obtain rfl := Option.some.inj here
          exact fits pm rfl
  | clearDevice vid => exact ⟨none, rfl, by simp⟩

/-- Every operation inside the arrays is defined, and the entries still fit. -/
theorem operate_defined {config : ConfigManager} (fits : config.Fits) {operation : ConfigOperation}
    (valid : operation.InsideArrays (config.pmap[operation.port]?).isSome) :
    ∃ next, machine.step config operation = some (next, []) ∧ next.Fits := by
  obtain ⟨after, rewritten, smaller⟩ := rewrite_defined valid (fits operation.port)
  refine ⟨config.place operation.port after, ?_, ?_⟩
  · simp only [machine, operate_eq, rewritten, Option.map_some]
  · intro portId pm found
    rw [place_pmap] at found
    split at found
    · exact smaller pm found
    · exact fits portId pm found

/-- Every sequence of operations that stay inside the arrays of any entry is defined. -/
theorem operations_defined (parser : CmdlineParser) {history : List ConfigOperation}
    (valid : ∀ operation ∈ history, ∀ present, operation.InsideArrays present) :
    ∃ final outputs, machine.run (initial parser) history = some (final, outputs) := by
  have admitted : Admits (fun _ (operation : ConfigOperation) => ∀ present, operation.InsideArrays present)
      history := by
    rintro past operation rest rfl
    exact valid operation (by simp)
  obtain ⟨final, outputs, ran, _⟩ := Machine.run_defined machine
    (fun _ config _ => config.Fits) (fits_initial parser)
    (fun _ _ _ _ _ fits allowed =>
      let ⟨next, stepped, kept⟩ := operate_defined fits (allowed _)
      ⟨next, [], stepped, kept⟩) admitted
  exact ⟨final, outputs, ran⟩

/-- The entry of a port after any sequence of operations is the entry after the operations on
that port alone, and it is present exactly when the last of them to decide initialises it. -/
theorem ports_do_not_interfere (parser : CmdlineParser) (history : List ConfigOperation)
    (valid : ∀ operation ∈ history, operation.InBounds) (portId : Int) :
    ∃ final alone all own, machine.run (initial parser) history = some (final, all) ∧
      machine.run (initial parser) (history.filter fun operation => operation.port = portId) =
        some (alone, own) ∧
      final.pmap[portId]? = alone.pmap[portId]? ∧
      ((final.pmap[portId]?).isSome ↔ ConfigOperation.lastInitialises history portId) := by
  obtain ⟨final, all, ran⟩ := operations_defined parser fun operation member =>
    (valid operation member).insideArrays
  obtain ⟨alone, own, ranAlone, same⟩ := entries_drive.alone ran portId
  have present := entries_drive.present ConfigOperation.presence_decides ran portId
  refine ⟨final, alone, all, own, ran, ranAlone, same, ?_⟩
  have missing : ((initial parser).pmap[portId]?).isSome = false := by simp [initial]
  rw [present, missing, ConfigOperation.lastInitialises]
  cases latest (ConfigOperation.entries.presenceAt ConfigOperation.presence portId) history <;> simp

/-- Two ports that are set up, used and cleared in turns. -/
def twoPorts : List ConfigOperation :=
  [.initVhostDevice 0 0 2, .initVhostDevice 1 1 8, .setQueueState 0 3 true,
    .assignPortDataSocket 1 7 5, .clearDevice 0, .assignPortControlSocket 0 4]

/-- Port 1 keeps its entry while port 0 comes and goes. -/
theorem ports_do_not_interfere_two_ports :
    ∃ final alone all own, machine.run (initial arguments) twoPorts = some (final, all) ∧
      machine.run (initial arguments) (twoPorts.filter fun operation => operation.port = 1) =
        some (alone, own) ∧
      final.pmap[(1 : Int)]? = alone.pmap[(1 : Int)]? ∧ (final.pmap[(1 : Int)]?).isSome := by
  have initialised : ConfigOperation.lastInitialises twoPorts 1 := by
    unfold ConfigOperation.lastInitialises
    decide
  obtain ⟨final, alone, all, own, ran, ranAlone, same, present⟩ :=
    ports_do_not_interfere arguments twoPorts (by decide) 1
  exact ⟨final, alone, all, own, ran, ranAlone, same, present.mpr initialised⟩

end ConfigManager

end Vtb

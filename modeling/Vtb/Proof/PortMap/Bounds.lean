import Vtb.Proof.PortMap.Projection

namespace Vtb
open Library

namespace PortMapCall

/-- The operation of a call that writes the port map. -/
def operation? : PortMapCall → Option ConfigOperation
  | .operate operation => some operation
  | _ => none

/-- The port has an entry after the calls: its last initialisation or clear was an initialisation. -/
def Present (past : List PortMapCall) (portId : Int) : Prop :=
  ConfigOperation.lastInitialises (past.filterMap operation?) portId

instance (past : List PortMapCall) (portId : Int) : Decidable (Present past portId) :=
  inferInstanceAs (Decidable (_ = _))

/-- The arguments for which the code bounds its indices: the pair count of an initialisation,
and on a port with an entry the lower end of an assignment and the index of a query. -/
def Bounded (past : List PortMapCall) : PortMapCall → Prop
  | .operate (.initVhostDevice _ _ nofPairs) => nofPairs ≤ maxQueuePairs
  | .operate (.assignPortDataSocket portId qpIdx _) => Present past portId → 0 ≤ qpIdx
  | .isQueueReady vid qpid => Present past vid → 0 ≤ qpid ∧ qpid < maxQueuePairs
  | _ => True

instance (past : List PortMapCall) : ∀ call : PortMapCall, Decidable (call.Bounded past)
  | .operate (.initVhostDevice _ _ _) => inferInstanceAs (Decidable (_ ≤ _))
  | .operate (.assignPortDataSocket _ _ _) => inferInstanceAs (Decidable (_ → _))
  | .isQueueReady _ _ => inferInstanceAs (Decidable (_ → _))
  | .operate (.setQueueState _ _ _) => inferInstanceAs (Decidable True)
  | .operate (.assignPortControlSocket _ _) => inferInstanceAs (Decidable True)
  | .operate (.clearDevice _) => inferInstanceAs (Decidable True)
  | .getVhostQids _ _ => inferInstanceAs (Decidable True)
  | .printPortmap => inferInstanceAs (Decidable True)

end PortMapCall

namespace ConfigManager

/-- The loop of `init_vhost_device` leaves the arrays when there are more pairs than cells. -/
theorem initPair_loop_fits {nofPairs : Int} {count : Nat} {pm after : PortMap}
    (filled : (List.range count).foldlM (initPair nofPairs) pm = some after) : count ≤ maxQueuePairs := by
  cases count with
  | zero => omega
  | succ last =>
      rw [List.range_succ, List.foldlM_append] at filled
      obtain ⟨middle, _, stepped⟩ := Option.bind_eq_some_iff.mp filled
      simp only [List.foldlM_cons, List.foldlM_nil] at stepped
      obtain ⟨next, written, _⟩ := Option.bind_eq_some_iff.mp stepped
      obtain ⟨cells, stored, _⟩ := Option.bind_eq_some_iff.mp written
      have inside := (writeCell_defined.mp ⟨cells, stored⟩).2
      omega

/-- An operation on an entry that fits is defined exactly inside the arrays. -/
theorem rewrite_defined_iff {operation : ConfigOperation} {entry : Option PortMap}
    (fits : ∀ pm ∈ entry, pm.vd.nofQueuePairs ≤ maxQueuePairs) :
    (∃ after, operation.rewrite entry = some after) ↔ operation.InsideArrays entry.isSome := by
  constructor
  · intro ⟨after, rewritten⟩
    cases operation with
    | initVhostDevice portId vid nofPairs =>
        simp only [ConfigOperation.rewrite] at rewritten
        obtain ⟨pm, filled, _⟩ := Option.map_eq_some_iff.mp rewritten
        exact Int.toNat_le.mp (initPair_loop_fits filled)
    | assignPortDataSocket portId qpIdx socketFd =>
        intro present
        obtain ⟨pm, rfl⟩ := Option.isSome_iff_exists.mp present
        simp only [ConfigOperation.rewrite] at rewritten
        split at rewritten
        · obtain ⟨qp, stored, _⟩ := Option.map_eq_some_iff.mp rewritten
          exact (writeCell_defined.mp ⟨qp, stored⟩).1
        · omega
    | _ => trivial
  · intro inside
    obtain ⟨after, rewritten, _⟩ := rewrite_defined inside fits
    exact ⟨after, rewritten⟩

section
variable {config : ConfigManager}

/-- `get_vhost_qids` checks its queue against the pair count of the entry, which fits. -/
theorem getVhostQids_defined (fits : config.Fits) (portId qNum : Int) :
    ∃ qids, config.getVhostQids portId qNum = some qids := by
  unfold getVhostQids
  cases found : config.pmap[portId]? with
  | none => exact ⟨_, rfl⟩
  | some pm =>
      dsimp only
      split
      · exact ⟨_, rfl⟩
      · next inside =>
          have few := fits portId pm found
          obtain ⟨pair, read⟩ : ∃ pair, readCell pm.vd.qp qNum = some pair :=
            readCell_defined.mpr (by omega)
          exact ⟨_, by rw [read, Option.map_some]⟩

/-- `is_queue_ready` checks only that the port has an entry. -/
theorem isQueueReady_defined_iff (vid qpid : Int) :
    (∃ ready, config.isQueueReady vid qpid = some ready) ↔
      ((config.pmap[vid]?).isSome = true → 0 ≤ qpid ∧ qpid < maxQueuePairs) := by
  unfold isQueueReady
  cases config.pmap[vid]? with
  | none => simp
  | some pm =>
      simp only [Option.map_eq_some_iff, Option.isSome_some, forall_const]
      have exact : (∃ pair, readCell pm.vd.qp qpid = some pair) ↔ 0 ≤ qpid ∧ qpid < (maxQueuePairs : Nat) :=
        readCell_defined
      rw [← exact]
      constructor
      · intro ⟨ready, pair, read, _⟩
        exact ⟨pair, read⟩
      · intro ⟨pair, read⟩
        exact ⟨_, pair, read, rfl⟩

/-- A row reads the cells of its pair. -/
theorem portmapRow_defined (portId : Int) (pm : PortMap) {i : Nat} (inside : i < maxQueuePairs) :
    ∃ row, portmapRow portId pm i = some row := by
  simp only [portmapRow, readCell_natCast, Vector.getElem?_eq_getElem inside, Option.bind_some, Option.map_some]
  exact ⟨_, rfl⟩

/-- `print_portmap` reads the pairs of entries that fit. -/
theorem printPortmap_defined (fits : config.Fits) : ∃ lines, config.printPortmap = some lines := by
  have rows : ∀ entry ∈ config.pmap.toList, ∃ rows, portmapRows entry.1 entry.2 = some rows := by
    intro entry member
    have few := fits entry.1 entry.2 (Std.ExtTreeMap.mem_toList_iff_getElem?_eq_some.mp member)
    have cells : ∀ i ∈ List.range entry.2.vd.nofQueuePairs.toNat, ∃ row, portmapRow entry.1 entry.2 i = some row := by
      intro i below
      have small := List.mem_range.mp below
      exact portmapRow_defined entry.1 entry.2 (by omega)
    obtain ⟨rows, mapped⟩ := mapM_defined cells
    exact ⟨_, by rw [portmapRows, mapped, Option.map_some]⟩
  obtain ⟨ports, mapped⟩ := mapM_defined rows
  exact ⟨_, by rw [printPortmap, mapped, Option.map_some]⟩

/-- An operation that is defined keeps the entries inside their arrays. -/
theorem Fits.of_step (fits : config.Fits) {operation : ConfigOperation} {next : ConfigManager}
    {outputs : List Unit} (stepped : machine.step config operation = some (next, outputs)) : next.Fits := by
  obtain ⟨after, rewritten, _⟩ := operate_step stepped
  have inside := (rewrite_defined_iff (fits operation.port)).mp ⟨after, rewritten⟩
  obtain ⟨other, again, kept⟩ := operate_defined fits inside
  obtain ⟨rfl, _⟩ := Prod.mk.inj (Option.some.inj (stepped.symm.trans again))
  exact kept

end

/-- The calls so far ran the operations among them. -/
structure Operated (parser : CmdlineParser) (past : List PortMapCall) (config : ConfigManager) : Prop where
  ran : ∃ outputs, machine.run (initial parser) (past.filterMap PortMapCall.operation?) = some (config, outputs)
  fits : config.Fits

section
variable {parser : CmdlineParser} {past : List PortMapCall} {config next : ConfigManager} {call : PortMapCall}
  {answers : List PortMapAnswer}

/-- A port has an entry exactly when its last initialisation or clear was an initialisation. -/
theorem Operated.present (operated : Operated parser past config) (portId : Int) :
    (config.pmap[portId]?).isSome = true ↔ PortMapCall.Present past portId := by
  obtain ⟨outputs, ran⟩ := operated.ran
  have decided := entries_drive.present ConfigOperation.presence_decides ran portId
  have missing : ((initial parser).pmap[portId]?).isSome = false := by simp [initial]
  rw [decided, missing, PortMapCall.Present, ConfigOperation.lastInitialises]
  cases latest (ConfigOperation.entries.presenceAt ConfigOperation.presence portId)
    (past.filterMap PortMapCall.operation?) <;> simp

/-- A call that is defined extends the operations or reads the port map. -/
theorem Operated.advance (operated : Operated parser past config)
    (stepped : callMachine.step config call = some (next, answers)) :
    Operated parser (past ++ [call]) next := by
  have reads (silent : call.operation? = none) (same : next = config) : Operated parser (past ++ [call]) next := by
    subst same
    exact ⟨by simpa [silent] using operated.ran, operated.fits⟩
  cases call with
  | operate operation =>
      obtain ⟨outputs, ran⟩ := operated.ran
      obtain ⟨after, operates, same⟩ := Option.map_eq_some_iff.mp stepped
      obtain ⟨rfl, _⟩ := Prod.mk.inj same
      have wrote : machine.step config operation = some (after, []) := by
        simp only [machine, operates, Option.map_some]
      constructor
      · rw [List.filterMap_append]
        exact ⟨_, machine.run_concat_of_step ran wrote⟩
      · exact operated.fits.of_step wrote
  | getVhostQids portId qNum =>
      obtain ⟨qids, _, same⟩ := Option.map_eq_some_iff.mp stepped
      exact reads rfl (Prod.mk.inj same).1.symm
  | isQueueReady vid qpid =>
      obtain ⟨ready, _, same⟩ := Option.map_eq_some_iff.mp stepped
      exact reads rfl (Prod.mk.inj same).1.symm
  | printPortmap =>
      obtain ⟨lines, _, same⟩ := Option.map_eq_some_iff.mp stepped
      exact reads rfl (Prod.mk.inj same).1.symm

/-- An operation is defined exactly when it rewrites the entry of its port. -/
theorem operate_defined_iff (config : ConfigManager) (operation : ConfigOperation) :
    (∃ next, config.operate operation = some next) ↔
      ∃ after, operation.rewrite (config.pmap[operation.port]?) = some after := by
  rw [operate_eq]
  cases operation.rewrite (config.pmap[operation.port]?) <;> simp

/-- A call is defined exactly when its arguments are bounded. -/
theorem Operated.step_defined_iff (operated : Operated parser past config) (call : PortMapCall) :
    (∃ next answers, callMachine.step config call = some (next, answers)) ↔ call.Bounded past := by
  cases call with
  | operate operation =>
      simp only [callMachine, ConfigManager.call, map_defined_iff]
      rw [operate_defined_iff, rewrite_defined_iff (operated.fits operation.port)]
      cases operation with
      | initVhostDevice portId vid nofPairs => exact Iff.rfl
      | assignPortDataSocket portId qpIdx socketFd =>
          simp only [ConfigOperation.InsideArrays, PortMapCall.Bounded, ConfigOperation.port,
            operated.present portId]
      | _ => exact Iff.rfl
  | getVhostQids portId qNum =>
      simp only [callMachine, ConfigManager.call, map_defined_iff, PortMapCall.Bounded, iff_true]
      exact getVhostQids_defined operated.fits portId qNum
  | isQueueReady vid qpid =>
      simp only [callMachine, ConfigManager.call, map_defined_iff, PortMapCall.Bounded]
      rw [isQueueReady_defined_iff, operated.present vid]
  | printPortmap =>
      simp only [callMachine, ConfigManager.call, map_defined_iff, PortMapCall.Bounded, iff_true]
      exact printPortmap_defined operated.fits

end

/-- A sequence of calls stays inside the arrays exactly when each of them has bounded arguments. -/
theorem calls_inside_iff (parser : CmdlineParser) (calls : List PortMapCall) :
    (∃ final answers, callMachine.run (initial parser) calls = some (final, answers)) ↔
      Admits (fun past call => PortMapCall.Bounded past call) calls :=
  callMachine.run_defined_iff (Operated parser) ⟨⟨[], rfl⟩, fits_initial parser⟩
    (fun _ _ _ _ _ operated stepped => operated.advance stepped)
    (fun _ _ call operated => operated.step_defined_iff call)

/-- A device with nine queue pairs writes behind the arrays. -/
theorem not_inside_nine_pairs :
    ¬ ∀ calls : List PortMapCall,
      ∃ final answers, callMachine.run (initial arguments) calls = some (final, answers) := by
  intro every
  have outside : (callMachine.run (initial arguments) [.operate (.initVhostDevice 0 0 9)]).isNone = true := by
    decide
  obtain ⟨final, answers, ran⟩ := every [.operate (.initVhostDevice 0 0 9)]
  simp [ran] at outside

/-- Unbounded arguments are harmless on a port without an entry. -/
example : Admits (fun past call => PortMapCall.Bounded past call)
    [.isQueueReady 0 (-1), .operate (.assignPortDataSocket 0 (-5) 7), .operate (.initVhostDevice 0 0 8),
      .operate (.assignPortDataSocket 0 9 7), .getVhostQids 0 (-3), .operate (.clearDevice 0),
      .isQueueReady 0 12, .printPortmap] := by decide

end ConfigManager

end Vtb

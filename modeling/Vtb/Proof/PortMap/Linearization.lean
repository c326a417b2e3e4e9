import Vtb.Construction.PortMapThreads
import Vtb.Proof.PortMap.Projection

namespace Vtb
open Library

namespace ConfigManager

theorem store_same {config : ConfigManager} {portId : Int} {pm : PortMap}
    (present : config.pmap[portId]? = some pm) : config.store portId pm = config := place_same present

section
variable {config after : ConfigManager} {answer : List PortMapAnswer} {portId : Int} {pm : PortMap}

/-- The loop of `init_vhost_device` writes the entry in place, pair by pair. -/
theorem performs_filling (nofPairs : Int) (remaining : Nat) {i : Nat} (length : nofPairs.toNat - i = remaining)
    (present : config.pmap[portId]? = some pm) :
    procedures.Performs (.filling portId nofPairs i) config after answer ↔
      ((List.range' i remaining).foldlM (initPair nofPairs) pm).map (fun filled => (config.store portId filled, []))
        = some (after, answer) := by
  induction remaining generalizing i pm config with
  | zero =>
      have ended : ¬ (i : Int) < nofPairs := by omega
      have stepped : advanceCall (.filling portId nofPairs i) config = some (config, .inr []) := by
        simp [advanceCall, ended]
      rw [Procedures.performs_last stepped]
      simp [store_same present]
  | succ remaining ih =>
      have more : (i : Int) < nofPairs := by omega
      rw [List.range'_succ, List.foldlM_cons]
      cases filled : initPair nofPairs pm i with
      | none =>
          have stepped : advanceCall (.filling portId nofPairs i) config = none := by
            simp [advanceCall, more, present, filled]
          rw [Procedures.performs_undefined stepped]
          simp
      | some next =>
          have stepped : advanceCall (.filling portId nofPairs i) config =
              some (config.store portId next, .inl (.filling portId nofPairs (i + 1))) := by
            simp [advanceCall, more, present, filled]
          rw [Procedures.performs_next stepped, ih (by omega) (by rw [store_pmap, if_pos rfl])]
          simp [store_store]

/-- The scan of `set_queue_state` writes at the first pair that has the ring. -/
theorem performs_scanning (vringId : UInt16) (enable : Bool) (remaining : Nat) {i : Nat}
    (length : pm.vd.nofQueuePairs.toNat - i = remaining) (present : config.pmap[portId]? = some pm) :
    procedures.Performs (.scanning portId vringId enable i) config after answer ↔
      (scanPairs vringId enable pm.vd.qp (List.range' i remaining)).map
        (fun qp => (config.store portId { pm with vd := { pm.vd with qp } }, [])) = some (after, answer) := by
  induction remaining generalizing i with
  | zero =>
      have ended : ¬ (i : Int) < pm.vd.nofQueuePairs := by omega
      have stepped : advanceCall (.scanning portId vringId enable i) config = some (config, .inr []) := by
        simp [advanceCall, ended, present]
      rw [Procedures.performs_last stepped]
      simp [scanPairs, store_same present]
  | succ remaining ih =>
      have more : (i : Int) < pm.vd.nofQueuePairs := by omega
      have opened : advanceCall (.scanning portId vringId enable i) config =
          (readCell pm.vd.qp i).bind fun pair =>
            if pair.rxqId = vringId then
              (writeCell pm.vd.qp i { pair with rxqEnabled := enable }).map fun qp =>
                (config.store portId { pm with vd := { pm.vd with qp } }, .inr [])
            else if pair.txqId = vringId then
              (writeCell pm.vd.qp i { pair with txqEnabled := enable }).map fun qp =>
                (config.store portId { pm with vd := { pm.vd with qp } }, .inr [])
            else some (config, .inl (.scanning portId vringId enable (i + 1))) := by
        simp [advanceCall, present, more]
      have written : ∀ pair : VhostQueuePair,
          advanceCall (.scanning portId vringId enable i) config = (writeCell pm.vd.qp i pair).map (fun qp =>
            (config.store portId { pm with vd := { pm.vd with qp } }, .inr [])) →
          (procedures.Performs (.scanning portId vringId enable i) config after answer ↔
            (writeCell pm.vd.qp i pair).map (fun qp =>
              (config.store portId { pm with vd := { pm.vd with qp } }, [])) = some (after, answer)) := by
        intro pair stepped
        cases stored : writeCell pm.vd.qp i pair with
        | none =>
            rw [stored, Option.map_none] at stepped
            rw [Procedures.performs_undefined stepped]
            simp
        | some qp =>
            rw [stored, Option.map_some] at stepped
            rw [Procedures.performs_last stepped]
            simp
      rw [List.range'_succ, scanPairs]
      cases read : readCell pm.vd.qp i with
      | none =>
          rw [read, Option.bind_none] at opened
          rw [Procedures.performs_undefined opened]
          simp
      | some pair =>
          rw [read, Option.bind_some] at opened
          rw [Option.bind_some]
          by_cases rx : pair.rxqId = vringId
          · rw [if_pos rx] at opened ⊢
            exact written _ opened
          · rw [if_neg rx] at opened ⊢
            by_cases tx : pair.txqId = vringId
            · rw [if_pos tx] at opened ⊢
              exact written _ opened
            · rw [if_neg tx] at opened ⊢
              rw [Procedures.performs_next opened]
              exact ih (by omega)

/-- The rows of one port are logged pair by pair, and a rule ends them. -/
theorem performs_printingRows (ports : List Int) (remaining : Nat) {i : Nat} {lines : List String}
    (length : pm.vd.nofQueuePairs.toNat - i = remaining) (present : config.pmap[portId]? = some pm) :
    procedures.Performs (.printingRows portId ports i lines) config after answer ↔
      ∃ rows, (List.range' i remaining).mapM (portmapRow portId pm) = some rows ∧
        procedures.Performs (.printing ports (lines ++ rows ++ [portmapRule])) config after answer := by
  induction remaining generalizing i lines with
  | zero =>
      have ended : ¬ (i : Int) < pm.vd.nofQueuePairs := by omega
      have stepped : advanceCall (.printingRows portId ports i lines) config =
          some (config, .inl (.printing ports (lines ++ [portmapRule]))) := by
        simp [advanceCall, ended, present]
      rw [Procedures.performs_next stepped]
      simp
  | succ remaining ih =>
      have more : (i : Int) < pm.vd.nofQueuePairs := by omega
      rw [List.range'_succ, List.mapM_cons]
      cases printed : portmapRow portId pm i with
      | none =>
          have stepped : advanceCall (.printingRows portId ports i lines) config = none := by
            simp [advanceCall, more, present, printed]
          rw [Procedures.performs_undefined stepped]
          simp
      | some row =>
          have stepped : advanceCall (.printingRows portId ports i lines) config =
              some (config, .inl (.printingRows portId ports (i + 1) (lines ++ [row]))) := by
            simp [advanceCall, more, present, printed]
          rw [Procedures.performs_next stepped, ih (by omega)]
          simp only [List.append_assoc, List.singleton_append, Option.bind_eq_bind, Option.bind_some,
            Option.bind_eq_some_iff, Option.pure_def, Option.some.injEq]
          constructor
          · intro ⟨rows, later, rest⟩
            exact ⟨row :: rows, ⟨rows, later, rfl⟩, rest⟩
          · intro ⟨_, ⟨rows, later, same⟩, rest⟩
            subst same
            exact ⟨rows, later, rest⟩

/-- The ports are logged in key order, and the map stays as it is. -/
theorem performs_printing {entries : List (Int × PortMap)} {lines : List String}
    (present : ∀ entry ∈ entries, config.pmap[entry.1]? = some entry.2) :
    procedures.Performs (.printing (entries.map Prod.fst) lines) config after answer ↔
      (entries.mapM fun entry => portmapRows entry.1 entry.2).map
        (fun blocks => (config, [PortMapAnswer.printed (lines ++ blocks.flatten)])) = some (after, answer) := by
  induction entries generalizing lines with
  | nil =>
      have stepped : advanceCall (.printing [] lines) config = some (config, .inr [.printed lines]) := rfl
      rw [List.map_nil, Procedures.performs_last stepped]
      simp
  | cons entry entries ih =>
      have stepped : advanceCall (.printing (entry.1 :: entries.map Prod.fst) lines) config =
          some (config, .inl (.printingRows entry.1 (entries.map Prod.fst) 0 lines)) := rfl
      have here := present entry (by simp)
      rw [List.map_cons, Procedures.performs_next stepped, performs_printingRows _ _ rfl here, List.mapM_cons]
      simp only [Nat.sub_zero, ← List.range_eq_range', portmapRows]
      cases printed : (List.range entry.2.vd.nofQueuePairs.toNat).mapM (portmapRow entry.1 entry.2) with
      | none => simp
      | some rows =>
          simp only [Option.some.injEq, exists_eq_left']
          rw [ih fun later member => present later (by simp [member])]
          simp only [portmapRows]
          cases (entries.mapM fun entry => ((List.range entry.2.vd.nofQueuePairs.toNat).mapM
              (portmapRow entry.1 entry.2)).map fun rows => rows ++ [portmapRule]) with
          | none => simp
          | some blocks => simp

/-- The two writes of `assign_port_data_socket` leave one descriptor in both directions. -/
theorem performs_pairing (qpIdx socketFd : Int) :
    procedures.Performs (.entering (.operate (.assignPortDataSocket portId qpIdx socketFd))) config after answer ↔
      (config.assignPortDataSocket portId qpIdx socketFd).map (fun next => (next, [])) = some (after, answer) := by
  cases found : config.pmap[portId]? with
  | none =>
      have stepped : advanceCall (.entering (.operate (.assignPortDataSocket portId qpIdx socketFd))) config =
          some (config, .inr []) := by
        simp [advanceCall, enterCall, found]
      rw [Procedures.performs_last stepped]
      simp [assignPortDataSocket, found]
  | some pm =>
      by_cases low : qpIdx < maxQueuePairs
      · cases read : readCell pm.pd.qp qpIdx with
        | none =>
            have stepped : advanceCall (.entering (.operate (.assignPortDataSocket portId qpIdx socketFd))) config =
                none := by
              simp only [advanceCall, enterCall, found, if_pos low, read, Option.bind_none]
            have outside : writeCell pm.pd.qp qpIdx ⟨socketFd, socketFd⟩ = none := by
              cases stored : writeCell pm.pd.qp qpIdx ⟨socketFd, socketFd⟩ with
              | none => rfl
              | some qp =>
                  obtain ⟨pair, cell⟩ := readCell_defined.mpr (writeCell_defined.mp ⟨qp, stored⟩)
                  rw [read] at cell
                  simp at cell
            rw [Procedures.performs_undefined stepped]
            simp only [assignPortDataSocket, found, if_pos low, outside, Option.map_none, false_iff]
            exact Option.some_ne_none _ ∘ Eq.symm
        | some pair =>
            obtain ⟨positive, bounded⟩ := readCell_defined.mp ⟨pair, read⟩
            obtain ⟨index, rfl⟩ := Int.eq_ofNat_of_zero_le positive
            have inside : index < maxQueuePairs := by omega
            have first : advanceCall (.entering (.operate (.assignPortDataSocket portId index socketFd))) config =
                some (config.store portId { pm with pd := { pm.pd with
                  qp := pm.pd.qp.set index { pair with rxqId := socketFd } inside } },
                  .inl (.pairing portId index socketFd)) := by
              simp only [advanceCall, enterCall, found, if_pos low, read, writeCell_natCast _ _ inside,
                Option.bind_some, Option.map_some]
            have second : advanceCall (.pairing portId index socketFd) (config.store portId { pm with
                pd := { pm.pd with qp := pm.pd.qp.set index { pair with rxqId := socketFd } inside } }) =
                some (config.store portId { pm with
                  pd := { pm.pd with qp := pm.pd.qp.set index ⟨socketFd, socketFd⟩ inside } }, .inr []) := by
              simp [advanceCall, store_pmap, writeCell_natCast _ _ inside, store_store]
            rw [Procedures.performs_next first, Procedures.performs_last second]
            simp only [assignPortDataSocket, found, if_pos low, writeCell_natCast _ _ inside, Option.map_some,
              Option.some.injEq, Prod.mk.injEq, store]
      · have stepped : advanceCall (.entering (.operate (.assignPortDataSocket portId qpIdx socketFd))) config =
            some (config, .inr []) := by
          simp only [advanceCall, enterCall, found, if_neg low]
        rw [Procedures.performs_last stepped]
        simp only [assignPortDataSocket, found, if_neg low, Option.map_some, Option.some.injEq, Prod.mk.injEq]

/-- A query reads the map once and returns. -/
theorem performs_query {call : PortMapCall} {result : Option (ConfigManager × List PortMapAnswer)}
    (query : advanceCall (.entering call) config = result.map fun returned => (returned.1, .inr returned.2)) :
    procedures.Performs (.entering call) config after answer ↔ result = some (after, answer) := by
  cases result with
  | none =>
      rw [Option.map_none] at query
      rw [Procedures.performs_undefined query]
      simp
  | some returned =>
      rw [Option.map_some] at query
      rw [Procedures.performs_last query]
      simp [Prod.ext_iff]

/-- `init_vhost_device` makes the entry, writes its head and then its pairs. -/
theorem performs_initVhostDevice (vid nofPairs : Int) :
    procedures.Performs (.entering (.operate (.initVhostDevice portId vid nofPairs))) config after answer ↔
      (config.initVhostDevice portId vid nofPairs).map (fun next => (next, [])) = some (after, answer) := by
  have first : advanceCall (.entering (.operate (.initVhostDevice portId vid nofPairs))) config =
      some (config.store portId ((config.pmap[portId]?).getD PortMap.zero),
        .inl (.heading portId vid nofPairs)) := rfl
  rw [Procedures.performs_next first, initVhostDevice]
  generalize (config.pmap[portId]?).getD PortMap.zero = pm
  have second : advanceCall (.heading portId vid nofPairs) (config.store portId pm) =
      some (config.store portId { pm with vd := { pm.vd with vid, nofQueuePairs := nofPairs, ready := true } },
        .inl (.filling portId nofPairs 0)) := by
    simp [advanceCall, store_store]
  rw [Procedures.performs_next second, performs_filling nofPairs _ rfl (by rw [store_pmap, if_pos rfl])]
  rw [Nat.sub_zero, ← List.range_eq_range', Option.map_map]
  simp only [store_store, Function.comp_def]

/-- `set_queue_state` finds the entry and scans its pairs. -/
theorem performs_setQueueState (vringId : UInt16) (enable : Bool) :
    procedures.Performs (.entering (.operate (.setQueueState portId vringId enable))) config after answer ↔
      (config.setQueueState portId vringId enable).map (fun next => (next, [])) = some (after, answer) := by
  unfold setQueueState
  cases found : config.pmap[portId]? with
  | none =>
      have stepped : advanceCall (.entering (.operate (.setQueueState portId vringId enable))) config =
          some (config, .inr []) := by
        simp [advanceCall, enterCall, found]
      rw [Procedures.performs_last stepped]
      simp
  | some pm =>
      have stepped : advanceCall (.entering (.operate (.setQueueState portId vringId enable))) config =
          some (config, .inl (.scanning portId vringId enable 0)) := by
        simp [advanceCall, enterCall, found]
      rw [Procedures.performs_next stepped, performs_scanning vringId enable _ rfl found]
      rw [Nat.sub_zero, ← List.range_eq_range', Option.map_map]
      rfl

/-- `print_portmap` logs the header and then the ports. -/
theorem performs_printPortmap :
    procedures.Performs (.entering .printPortmap) config after answer ↔
      config.printPortmap.map (fun lines => (config, [.printed lines])) = some (after, answer) := by
  have first : advanceCall (.entering .printPortmap) config =
      some (config, .inl (.printing (config.pmap.toList.map Prod.fst) [portmapHeader, portmapRule])) := rfl
  have present : ∀ entry ∈ config.pmap.toList, config.pmap[entry.1]? = some entry.2 :=
    fun _ => Std.ExtTreeMap.mem_toList_iff_getElem?_eq_some.mp
  rw [Procedures.performs_next first, performs_printing present, printPortmap, Option.map_map]
  rfl

end

/-- Every call does in its small steps what the atomic call does. -/
theorem procedures_implement : procedures.Implements callMachine := by
  intro asked config after answer
  change procedures.Performs (.entering asked) config after answer ↔ config.call asked = some (after, answer)
  cases asked with
  | operate operation =>
      cases operation with
      | initVhostDevice portId vid nofPairs => exact performs_initVhostDevice vid nofPairs
      | setQueueState portId vringId enable => exact performs_setQueueState vringId enable
      | assignPortDataSocket portId qpIdx socketFd => exact performs_pairing qpIdx socketFd
      | assignPortControlSocket portId ctlFd => exact performs_query rfl
      | clearDevice vid => exact performs_query rfl
  | getVhostQids portId qNum =>
      exact performs_query (by simp [advanceCall, enterCall, call, Option.map_map, Function.comp_def])
  | isQueueReady vid qpid =>
      exact performs_query (by simp [advanceCall, enterCall, call, Option.map_map, Function.comp_def])
  | printPortmap => exact performs_printPortmap

/-- In every interleaving of any threads the returned calls are one sequence of atomic calls in the order of
their returns, with the same answers. The map is the map of this sequence whenever the mutex is free. The holder
of the mutex never leaves an array of the map as long as its call does not after this sequence. -/
theorem calls_linearize {Thread : Type*} [DecidableEq Thread] {config : ConfigManager}
    {actions : List (MonitorAction Thread PortMapCall)}
    {monitor : Monitor Thread PortMapCall PortMapPosition ConfigManager (List PortMapAnswer)}
    {returned : List (Returned Thread PortMapCall (List PortMapAnswer))}
    (ran : procedures.threads.run (Procedures.idle config) actions = some (monitor, returned)) :
    ∃ final, callMachine.run config (returned.map Returned.call) = some (final, returned.flatMap Returned.answer) ∧
      (monitor.holder = none → monitor.shared = final) ∧
      (∀ thread, ¬ (monitor.activity thread).Waits → monitor.holder = some thread) ∧
      ∀ thread call position, monitor.activity thread = .inside call position →
        (∃ result, callMachine.step final call = some result) →
        ∃ next, procedures.threads.step monitor (.work thread) = some next := by
  have linear := Procedures.linear_run procedures_implement ran
  obtain ⟨final, performed, serves⟩ := linear
  refine ⟨final, performed, ?_, serves.holds, ?_⟩
  · intro free
    cases serves with
    | free nobody unchanged others => exact unchanged
    | working thread call position holds here reaches others => simp [free] at holds
    | done thread call answer holds here given others => simp [free] at holds
  · intro thread call position inside defined
    exact serves.holder_proceeds procedures_implement inside defined

/-- A thread initialises a port while another one waits to ask for its queues. -/
def askedDuringInit : List (MonitorAction Bool PortMapCall) :=
  [.invoke true (.operate (.initVhostDevice 0 7 1)), .acquire true, .work true, .invoke false (.getVhostQids 0 0),
    .work true, .work true, .work true, .release true, .acquire false, .work false, .release false]

/-- The question is answered after the whole initialisation. -/
theorem calls_linearize_asked_during_init :
    ∃ monitor returned, procedures.threads.run (Procedures.idle (initial arguments)) askedDuringInit =
        some (monitor, returned) ∧
      returned.map Returned.call = [.operate (.initVhostDevice 0 7 1), .getVhostQids 0 0] ∧
      returned.flatMap Returned.answer = [.qids 7 0 1] ∧
      ∃ final, callMachine.run (initial arguments) (returned.map Returned.call) =
          some (final, returned.flatMap Returned.answer) ∧
        (monitor.holder = none → monitor.shared = final) ∧
        (∀ thread, ¬ (monitor.activity thread).Waits → monitor.holder = some thread) ∧
        ∀ thread call position, monitor.activity thread = .inside call position →
          (∃ result, callMachine.step final call = some result) →
          ∃ next, procedures.threads.step monitor (.work thread) = some next := by
  have answered : (procedures.threads.run (Procedures.idle (initial arguments)) askedDuringInit).map
      (fun result => (result.2.map Returned.call, result.2.flatMap Returned.answer)) =
      some ([.operate (.initVhostDevice 0 7 1), .getVhostQids 0 0], [.qids 7 0 1]) := by decide +kernel
  obtain ⟨⟨monitor, returned⟩, ran, same⟩ := Option.map_eq_some_iff.mp answered
  obtain ⟨calls, answers⟩ := Prod.mk.inj same
  exact ⟨monitor, returned, ran, calls, answers, calls_linearize ran⟩

end ConfigManager

end Vtb

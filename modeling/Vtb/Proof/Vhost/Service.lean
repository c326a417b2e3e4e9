import Vtb.Construction.VhostService
import Vtb.Proof.PortMap.Projection
import Vtb.Proof.Vhost.Lifecycle

namespace Vtb
open Library

/-- A callback leaves the mode and the command line as they are. -/
theorem VhostController.handle_keeps {controller next : VhostController} {callback : Callback}
    {sent : List PortDeviceRingState} (handled : controller.handle callback = some (next, sent)) :
    next.mode = controller.mode ∧ next.config.parser = controller.config.parser := by
  cases callback with
  | newDevice vid vringNum =>
      simp only [handle, onNewDevice, Option.bind_eq_some_iff, Option.map_eq_some_iff, Prod.mk.injEq] at handled
      obtain ⟨first, initialised, second, setFirst, third, setSecond, rfl, _⟩ := handled
      have one : controller.config.operate (.initVhostDevice _ _ _) = some first := initialised
      have two : first.operate (.setQueueState _ _ _) = some second := setFirst
      have three : second.operate (.setQueueState _ _ _) = some third := setSecond
      refine ⟨rfl, ?_⟩
      rw [ConfigManager.operate_arguments three, ConfigManager.operate_arguments two, ConfigManager.operate_arguments one]
  | destroyDevice vid =>
      obtain ⟨rfl, _⟩ := Prod.mk.inj (Option.some.inj handled)
      exact ⟨rfl, rfl⟩
  | vringStateChanged vid queueId enable =>
      simp only [handle, onVringStateChanged, Option.map_eq_some_iff, Prod.mk.injEq] at handled
      obtain ⟨changed, set, rfl, _⟩ := handled
      have one : controller.config.operate (.setQueueState _ _ _) = some changed := set
      exact ⟨rfl, ConfigManager.operate_arguments one⟩

namespace VhostService
open VhostProcess (idle holding)

/-- The callbacks that rte_vhost made, in their order. -/
def callbacks (inputs : List ServiceInput) : List Callback :=
  inputs.filterMap fun input =>
    match input with
    | .callback _ callback => some callback
    | _ => none

/-- The packets that were written, in their order. -/
def packets (outputs : List ServiceOutput) : List PortDeviceRingState :=
  outputs.filterMap fun output =>
    match output with
    | .sent _ pdrs => some pdrs
    | .effect _ => none

/-- What an ending controller has already undone. -/
def Undone (object : VhostObject) : Option Leaving → Prop
  | none => True
  | some (.unregistering address) => address = object.address
  | some (.unregistered address) => address = object.address ∧ object.driverRegistered = false
  | some (.cleaned address) =>
      address = object.address ∧ object.driverRegistered = false ∧ object.ealInitialised = false

/-- rte_vhost serves only the socket that the living controller has registered. -/
inductive Attended (parser : CmdlineParser) (service : VhostService) : Prop where
  | idle {nextAddress : Nat} (nobody : service.process = idle nextAddress) (quiet : service.serving = [])
      (still : service.leaving = none) : Attended parser service
  | holding {object : VhostObject} {nextAddress : Nat} (living : service.process = holding object nextAddress)
      (mode : object.mode = parser.get "-m")
      (registered : ∀ path ∈ service.serving, path = object.socketPath ∧ object.driverRegistered = true)
      (undone : Undone object service.leaving) : Attended parser service

theorem attended_initial (config : ConfigManager) : Attended config.parser (initial config) := .idle rfl rfl rfl

/-- The constructor reads the mode from the command line. -/
theorem constructed_mode (config : ConfigManager) (address : Nat) (socketPath : String) (clientFd : Int) :
    (VhostProcess.constructed config address socketPath clientFd).mode = config.parser.get "-m" := by
  unfold VhostProcess.constructed
  dsimp only
  split <;> rfl

section
variable {parser : CmdlineParser} {service next : VhostService} {outputs : List ServiceOutput}

/-- The callbacks that rte_vhost makes reach the controller that registered their socket. -/
theorem Attended.dispatches (attended : Attended parser service) {socketPath : String}
    (served : socketPath ∈ service.serving) :
    ∃ object, service.process.instance_ = some object.address ∧ service.process.alive = [object] ∧
      service.process.lookup object.address = some object ∧ object.socketPath = socketPath ∧
      object.driverRegistered = true ∧ object.mode = parser.get "-m" ∧
      (service.leaving = none ∨ service.leaving = some (.unregistering object.address)) := by
  cases attended with
  | idle nobody quiet still => simp [quiet] at served
  | @holding object nextAddress living mode registered undone =>
      obtain ⟨rfl, up⟩ := registered socketPath served
      refine ⟨object, by simp [living, VhostProcess.holding], by simp [living, VhostProcess.holding], ?_, rfl, up, mode, ?_⟩
      · rw [living, VhostProcess.lookup_holding, if_pos rfl]
      · cases stage : service.leaving with
        | none => exact Or.inl rfl
        | some leaving =>
            rw [stage] at undone
            cases leaving with
            | unregistering address =>
                obtain rfl : address = object.address := undone
                exact Or.inr rfl
            | unregistered address => simp [Undone, up] at undone
            | cleaned address => simp [Undone, up] at undone

/-- A lookup can only find the living controller. -/
theorem found_living {process : VhostProcess} {object found : VhostObject} {nextAddress address : Nat}
    (living : process = holding object nextAddress) (lookedUp : process.lookup address = some found) :
    found = object ∧ address = object.address := by
  rw [living, VhostProcess.lookup_holding] at lookedUp
  split at lookedUp
  · next same => exact ⟨(Option.some.inj lookedUp).symm, same.symm⟩
  · simp at lookedUp

/-- A call that finds its object finds the one controller that is alive. -/
theorem Attended.living (attended : Attended parser service) {address : Nat} {found : VhostObject}
    (lookedUp : service.process.lookup address = some found) :
    ∃ nextAddress, service.process = VhostProcess.holding found nextAddress ∧ found.mode = parser.get "-m" ∧
      (∀ path ∈ service.serving, path = found.socketPath ∧ found.driverRegistered = true) ∧
      Undone found service.leaving := by
  cases attended with
  | idle nobody => simp [nobody, VhostProcess.lookup, VhostProcess.idle] at lookedUp
  | holding living mode registered undone =>
      obtain ⟨rfl, _⟩ := found_living living lookedUp
      exact ⟨_, living, mode, registered, undone⟩

/-- The unregistration of the living controller leaves its flag down. -/
theorem unregister_living {object : VhostObject} {nextAddress : Nat}
    (living : service.process = holding object nextAddress) :
    (service.unregister object).1.process = holding { object with driverRegistered := false } nextAddress ∧
      (service.unregister object).1.leaving = some (.unregistered object.address) ∧
      (service.unregister object).2 =
        (if object.driverRegistered then [.driverUnregister object.socketPath] else []) ∧
      (service.unregister object).1.serving = (if object.driverRegistered then
        service.serving.filter fun path => path ≠ object.socketPath else service.serving) ∧
      (service.unregister object).1.config = service.config ∧
      (service.unregister object).1.portCntr = service.portCntr := by
  obtain ⟨address, socketPath, mode, abstractSockname, abstractFd, ealInitialised, driverRegistered⟩ := object
  cases driverRegistered <;> simp [VhostService.unregister, living, VhostProcess.holding, VhostProcess.update]

theorem cleanup_living {object : VhostObject} {nextAddress : Nat}
    (living : service.process = holding object nextAddress) :
    (service.cleanup object).1.process = holding { object with ealInitialised := false } nextAddress ∧
      (service.cleanup object).1.leaving = some (.cleaned object.address) ∧
      (service.cleanup object).2 = (if object.ealInitialised then [.ealCleanup] else []) ∧
      (service.cleanup object).1.serving = service.serving ∧
      (service.cleanup object).1.config = service.config ∧ (service.cleanup object).1.portCntr = service.portCntr := by
  obtain ⟨address, socketPath, mode, abstractSockname, abstractFd, ealInitialised, driverRegistered⟩ := object
  cases ealInitialised <;> simp [VhostService.cleanup, living, VhostProcess.holding, VhostProcess.update]

/-- The end of an object whose flags are down leaves nothing. -/
theorem clear_living {object : VhostObject} {nextAddress : Nat}
    (living : service.process = holding object nextAddress) (unregistered : object.driverRegistered = false)
    (cleaned : object.ealInitialised = false) :
    (service.clear object).1.process = idle nextAddress ∧ (service.clear object).1.leaving = none ∧
      (service.clear object).2 = [.instanceCleared] ∧ (service.clear object).1.serving = service.serving ∧
      (service.clear object).1.config = service.config ∧ (service.clear object).1.portCntr = service.portCntr := by
  simp [VhostService.clear, living, VhostProcess.holding, VhostProcess.idle, unregistered, cleaned]

end

theorem packets_effects (effects : List VhostEffect) : packets (effects.map .effect) = [] := by
  induction effects with
  | nil => rfl
  | cons effect effects ih => exact ih

theorem packets_sent (fd : Int) (sent : List PortDeviceRingState) : packets (sent.map (.sent fd)) = sent := by
  induction sent with
  | nil => rfl
  | cons pdrs sent ih => exact congrArg (List.cons pdrs) ih

section
variable {parser : CmdlineParser} {service next : VhostService} {outputs : List ServiceOutput}

/-- A construction of the service gives an attended service. -/
theorem Attended.construct (attended : Attended parser service) (parsers : service.config.parser = parser)
    (socketPath : String) (clientFd : Int) :
    Attended parser { service with process := (service.process.construct service.config socketPath clientFd).1 } := by
  cases attended with
  | @idle nextAddress nobody quiet still =>
      rw [nobody, VhostProcess.construct_idle]
      refine .holding rfl ?_ (by simp [quiet]) (by simp [Undone, still])
      rw [constructed_mode, parsers]
  | @holding object nextAddress living mode registered undone =>
      rw [living, VhostProcess.construct_holding]
      exact .holding rfl mode registered undone

/-- An initialisation of the EAL changes nothing that callbacks need. -/
theorem Attended.init {object : VhostObject} {nextAddress : Nat}
    (living : service.process = VhostProcess.holding object nextAddress) (mode : object.mode = parser.get "-m")
    (registered : ∀ path ∈ service.serving, path = object.socketPath ∧ object.driverRegistered = true)
    (still : service.leaving = none) (granted : Bool) :
    Attended parser { service with process := (service.process.init object granted).1 } := by
  rw [living, VhostProcess.init_holding]
  split
  · exact .holding rfl mode registered (by simp [Undone, still])
  · exact .holding rfl mode registered (by simp [Undone, still])

/-- A start adds the socket to the served ones only when it is registered. -/
theorem Attended.start {object : VhostObject} {nextAddress : Nat}
    (living : service.process = VhostProcess.holding object nextAddress) (mode : object.mode = parser.get "-m")
    (registered : ∀ path ∈ service.serving, path = object.socketPath ∧ object.driverRegistered = true)
    (still : service.leaving = none) (answers : DriverAnswers) :
    Attended parser { service with
      process := (service.process.start object answers).1
      serving := served service.serving object (service.process.start object answers).2 } := by
  rw [living, VhostProcess.start_holding]
  split
  · refine .holding rfl mode ?_ (by simp [Undone, still])
    intro path member
    refine ⟨?_, rfl⟩
    simp only [served] at member
    split at member
    · rcases List.mem_cons.mp member with same | older
      · exact same
      · exact (registered path older).1
    · exact (registered path member).1
  · refine .holding rfl mode ?_ (by simp [Undone, still])
    intro path member
    simp only [served, List.mem_singleton, reduceCtorEq, if_false] at member
    exact registered path member

/-- After the unregistration no socket is served. -/
theorem Attended.unregister {object : VhostObject} {nextAddress : Nat}
    (living : service.process = VhostProcess.holding object nextAddress) (mode : object.mode = parser.get "-m")
    (registered : ∀ path ∈ service.serving, path = object.socketPath ∧ object.driverRegistered = true) :
    Attended parser (service.unregister object).1 := by
  obtain ⟨process, leaving, _, serving, _, _⟩ := unregister_living living
  refine .holding process mode ?_ (by simp [Undone, leaving])
  intro path member
  rw [serving] at member
  split at member
  · simpa [(registered path (List.mem_of_mem_filter member)).1] using (List.mem_filter.mp member).2
  · next down => exact absurd (registered path member).2 down

/-- What one step does to the service and to the controller data that outlive the controllers. -/
structure Advances (parser : CmdlineParser) (service : VhostService) (input : ServiceInput) (next : VhostService)
    (outputs : List ServiceOutput) : Prop where
  attended : Attended parser next
  parsers : next.config.parser = parser
  handled : VhostController.machine.run ⟨service.config, service.portCntr, parser.get "-m"⟩ (callbacks [input]) =
    some (⟨next.config, next.portCntr, parser.get "-m"⟩, packets outputs)

/-- A step of a life makes no callback. -/
theorem Advances.life {input : ServiceInput} {effects : List VhostEffect} (attended : Attended parser next)
    (parsers : service.config.parser = parser) (silent : callbacks [input] = [])
    (config : next.config = service.config) (portCntr : next.portCntr = service.portCntr) :
    Advances parser service input next (effects.map .effect) where
  attended := attended
  parsers := config ▸ parsers
  handled := by rw [silent, packets_effects, config, portCntr, Machine.run_nil]

/-- Every step keeps the service attended, and a callback is handled as by the one controller. -/
theorem Attended.advance (attended : Attended parser service) (parsers : service.config.parser = parser)
    {input : ServiceInput} (stepped : service.operate input = some (next, outputs)) :
    Advances parser service input next outputs := by
  cases input with
  | construct socketPath clientFd =>
      obtain ⟨rfl, rfl⟩ := Prod.mk.inj (Option.some.inj stepped)
      exact .life (attended.construct parsers socketPath clientFd) parsers rfl rfl rfl
  | callback socketPath callback =>
      simp only [operate, Option.ite_none_right_eq_some] at stepped
      obtain ⟨served, dispatched⟩ := stepped
      obtain ⟨object, pointed, _, found, _, _, mode, _⟩ := attended.dispatches served
      simp only [dispatch, pointed, found, Option.bind_some, Option.map_eq_some_iff, Prod.mk.injEq] at dispatched
      obtain ⟨⟨controller, sent⟩, handled, rfl, rfl⟩ := dispatched
      obtain ⟨sameMode, sameParser⟩ := VhostController.handle_keeps handled
      refine ⟨?_, sameParser.trans parsers, ?_⟩
      · cases attended with
        | idle nobody quiet still => exact .idle nobody quiet still
        | holding living mode registered undone => exact .holding living mode registered undone
      · rw [packets_sent]
        have single : callbacks [.callback socketPath callback] = [callback] := rfl
        rw [single, Machine.run_singleton, ← mode]
        have whole : controller = ⟨controller.config, controller.portCntr, object.mode⟩ := by
          rw [← show controller.mode = object.mode from sameMode]
        exact handled.trans (by rw [← whole])
  | init address granted =>
      simp only [operate, Option.ite_none_right_eq_some, Option.map_eq_some_iff, Prod.mk.injEq] at stepped
      obtain ⟨still, found, lookedUp, rfl, rfl⟩ := stepped
      obtain ⟨nextAddress, living, mode, registered, undone⟩ := attended.living lookedUp
      exact .life (Attended.init living mode registered still granted) parsers rfl rfl rfl
  | start address answers =>
      simp only [operate, Option.ite_none_right_eq_some, Option.map_eq_some_iff, Prod.mk.injEq] at stepped
      obtain ⟨still, found, lookedUp, rfl, rfl⟩ := stepped
      obtain ⟨nextAddress, living, mode, registered, undone⟩ := attended.living lookedUp
      exact .life (Attended.start living mode registered still answers) parsers rfl rfl rfl
  | destroy address =>
      simp only [operate, Option.ite_none_right_eq_some, Option.map_eq_some_iff, Prod.mk.injEq] at stepped
      obtain ⟨still, found, lookedUp, rfl, rfl⟩ := stepped
      obtain ⟨nextAddress, living, mode, registered, undone⟩ := attended.living lookedUp
      change Advances parser service _ _ (([] : List VhostEffect).map ServiceOutput.effect)
      exact .life (.holding living mode registered (by simp [Undone])) parsers rfl rfl rfl
  | unregister address =>
      simp only [operate, Option.ite_none_right_eq_some, Option.map_eq_some_iff, Prod.mk.injEq] at stepped
      obtain ⟨stage, found, lookedUp, rfl, rfl⟩ := stepped
      obtain ⟨nextAddress, living, mode, registered, undone⟩ := attended.living lookedUp
      obtain ⟨_, _, _, _, config, portCntr⟩ := unregister_living living
      exact .life (Attended.unregister living mode registered) parsers rfl config portCntr
  | cleanup address =>
      simp only [operate, Option.ite_none_right_eq_some, Option.map_eq_some_iff, Prod.mk.injEq] at stepped
      obtain ⟨stage, found, lookedUp, rfl, rfl⟩ := stepped
      obtain ⟨nextAddress, living, mode, registered, undone⟩ := attended.living lookedUp
      obtain ⟨process, leaving, _, serving, config, portCntr⟩ := cleanup_living living
      rw [stage] at undone
      have after : Attended parser (service.cleanup found).1 :=
        .holding process mode (by rw [serving]; exact registered) (by simp [Undone, leaving, undone.2])
      exact .life after parsers rfl config portCntr
  | clear address =>
      simp only [operate, Option.ite_none_right_eq_some, Option.map_eq_some_iff, Prod.mk.injEq] at stepped
      obtain ⟨stage, found, lookedUp, rfl, rfl⟩ := stepped
      obtain ⟨nextAddress, living, mode, registered, undone⟩ := attended.living lookedUp
      rw [stage] at undone
      obtain ⟨process, leaving, _, serving, config, portCntr⟩ := clear_living living undone.2.1 undone.2.2
      have quiet : service.serving = [] := by
        apply List.eq_nil_iff_forall_not_mem.mpr
        intro path member
        have up := (registered path member).2
        rw [undone.2.1] at up
        exact Bool.noConfusion up
      exact .life (.idle process (serving.trans quiet) leaving) parsers rfl config portCntr

/-- In every run of lives and callbacks the service stays attended, and the callbacks of all controllers of the
process are one run of one controller with one port counter. -/
theorem advances_run {config : ConfigManager} {inputs : List ServiceInput}
    (ran : machine.run (initial config) inputs = some (service, outputs)) :
    Attended config.parser service ∧ service.config.parser = config.parser ∧
      VhostController.machine.run (VhostController.create config) (callbacks inputs) =
        some (⟨service.config, service.portCntr, config.getArg "-m"⟩, packets outputs) := by
  apply machine.run_history (fun past state emitted => Attended config.parser state ∧
    state.config.parser = config.parser ∧ VhostController.machine.run (VhostController.create config) (callbacks past) =
      some (⟨state.config, state.portCntr, config.getArg "-m"⟩, packets emitted))
    ⟨attended_initial config, rfl, rfl⟩ _ ran
  intro past state emitted input later sent _ before stepped
  obtain ⟨attended, parsers, handled⟩ := before
  obtain ⟨after, same, step⟩ := attended.advance parsers stepped
  refine ⟨after, same, ?_⟩
  have split : callbacks (past ++ [input]) = callbacks past ++ callbacks [input] := List.filterMap_append
  rw [split]
  exact Machine.run_append_eq_some _ |>.mpr ⟨_, _, _, handled, step, List.filterMap_append⟩

/-- Whenever rte_vhost makes a callback, also from inside the unregistration that a destructor waits for,
`instance_` points to the controller that registered the socket, which is alive: its destructor has not begun or
has not come past the unregistration. -/
theorem callbacks_reach_controller {config : ConfigManager} {inputs : List ServiceInput}
    (ran : machine.run (initial config) inputs = some (service, outputs)) {socketPath : String}
    (served : socketPath ∈ service.serving) :
    ∃ object, service.process.instance_ = some object.address ∧ service.process.alive = [object] ∧
      object.socketPath = socketPath ∧ object.driverRegistered = true ∧
      (service.leaving = none ∨ service.leaving = some (.unregistering object.address)) := by
  obtain ⟨object, pointed, alive, _, path, up, _, stage⟩ := (advances_run ran).1.dispatches served
  exact ⟨object, pointed, alive, path, up, stage⟩

/-- The callbacks of all controllers that a process has one after the other are one run of one controller: the port
counter and the port map go on from controller to controller, and the packets are the same. -/
theorem callbacks_are_one_run {config : ConfigManager} {inputs : List ServiceInput}
    (ran : machine.run (initial config) inputs = some (service, outputs)) :
    VhostController.machine.run (VhostController.create config) (callbacks inputs) =
      some (⟨service.config, service.portCntr, config.getArg "-m"⟩, packets outputs) := (advances_run ran).2.2

end

/-- Two controllers of one process, each with a device. The unregistration of the first one disconnects its device,
and a rival is rejected while it ends. -/
def twoControllers : List ServiceInput :=
  [.construct "/tmp/vhost.sock" 3, .init 0 true, .start 0 ⟨true, true, true⟩,
    .callback "/tmp/vhost.sock" (.newDevice 0 2), .destroy 0, .callback "/tmp/vhost.sock" (.destroyDevice 0),
    .unregister 0, .construct "/tmp/other.sock" 4, .cleanup 0, .clear 0, .construct "/tmp/vhost.sock" 5,
    .start 1 ⟨true, true, true⟩, .callback "/tmp/vhost.sock" (.newDevice 0 2)]

/-- The second controller has the socket, and its device has port 1. -/
theorem twoControllers_ran :
    ∃ service outputs, machine.run (initial (ConfigManager.initial ConfigManager.arguments)) twoControllers =
      some (service, outputs) ∧ service.serving = ["/tmp/vhost.sock"] ∧ service.portCntr = 2 ∧
      service.leaving = none ∧ (packets outputs).map PortDeviceRingState.portId = [0, 0, 1, 1, 1] := by
  have outcome : (machine.run (initial (ConfigManager.initial ConfigManager.arguments)) twoControllers).map
      (fun result => (result.1.serving, result.1.portCntr, result.1.leaving,
        (packets result.2).map PortDeviceRingState.portId)) =
      some (["/tmp/vhost.sock"], 2, none, [0, 0, 1, 1, 1]) := by decide +kernel
  obtain ⟨⟨service, outputs⟩, ran, same⟩ := Option.map_eq_some_iff.mp outcome
  simp only [Prod.mk.injEq] at same
  exact ⟨service, outputs, ran, same⟩

/-- The callback from inside the unregistration reaches the first controller, whose destructor has begun. -/
theorem callbacks_reach_controller_two_controllers :
    ∃ service outputs, machine.run (initial (ConfigManager.initial ConfigManager.arguments))
        (twoControllers.take 5) = some (service, outputs) ∧
      "/tmp/vhost.sock" ∈ service.serving ∧ service.leaving = some (.unregistering 0) ∧
      ∃ object, service.process.instance_ = some object.address ∧ service.process.alive = [object] ∧
        object.socketPath = "/tmp/vhost.sock" ∧ object.driverRegistered = true ∧
        (service.leaving = none ∨ service.leaving = some (.unregistering object.address)) := by
  have outcome : (machine.run (initial (ConfigManager.initial ConfigManager.arguments)) (twoControllers.take 5)).map
      (fun result => (result.1.serving, result.1.leaving)) =
      some (["/tmp/vhost.sock"], some (.unregistering 0)) := by decide +kernel
  obtain ⟨⟨service, outputs⟩, ran, same⟩ := Option.map_eq_some_iff.mp outcome
  obtain ⟨serving, stage⟩ := Prod.mk.inj same
  have served : "/tmp/vhost.sock" ∈ service.serving := by simp [show service.serving = _ from serving]
  exact ⟨service, outputs, ran, served, stage, callbacks_reach_controller ran served⟩

/-- The two devices of the two controllers have the ports 0 and 1. -/
theorem callbacks_are_one_run_two_controllers :
    ∃ service outputs, machine.run (initial (ConfigManager.initial ConfigManager.arguments)) twoControllers =
      some (service, outputs) ∧ service.portCntr = 2 ∧
      VhostController.machine.run (VhostController.create (ConfigManager.initial ConfigManager.arguments))
        (callbacks twoControllers) =
          some (⟨service.config, service.portCntr, (ConfigManager.initial ConfigManager.arguments).getArg "-m"⟩,
            packets outputs) := by
  obtain ⟨service, outputs, ran, _, count, _⟩ := twoControllers_ran
  exact ⟨service, outputs, ran, count, callbacks_are_one_run ran⟩

/-- The steps of the lives as operations; the last step of a destructor stands for the whole. -/
def operations (inputs : List ServiceInput) : List VhostOperation :=
  inputs.filterMap fun input =>
    match input with
    | .construct socketPath clientFd => some (.construct socketPath clientFd)
    | .init address granted => some (.init address granted)
    | .start address answers => some (.start address answers)
    | .clear address => some (.destroy address)
    | _ => none

/-- The effects of the lives, in their order. -/
def effects (outputs : List ServiceOutput) : List VhostEffect :=
  outputs.filterMap fun output =>
    match output with
    | .effect effect => some effect
    | .sent _ _ => none

/-- The process between the steps of a destructor, against the process before it, with the effects of the steps. -/
inductive Between (service : VhostService) (process : VhostProcess) (pending : List VhostEffect) : Prop where
  | settled (still : service.leaving = none) (same : service.process = process) (nothing : pending = [])
  | unregistering {object : VhostObject} {nextAddress : Nat}
      (stage : service.leaving = some (.unregistering object.address)) (before : process = holding object nextAddress)
      (same : service.process = process) (nothing : pending = [])
  | unregistered {object : VhostObject} {nextAddress : Nat}
      (stage : service.leaving = some (.unregistered object.address)) (before : process = holding object nextAddress)
      (now : service.process = holding { object with driverRegistered := false } nextAddress)
      (undone : pending = if object.driverRegistered then [.driverUnregister object.socketPath] else [])
  | cleaned {object : VhostObject} {nextAddress : Nat}
      (stage : service.leaving = some (.cleaned object.address)) (before : process = holding object nextAddress)
      (now : service.process =
        holding { object with driverRegistered := false, ealInitialised := false } nextAddress)
      (undone : pending ++ [.instanceCleared] = VhostProcess.teardown object)

theorem Between.of_still {service : VhostService} {process : VhostProcess} {pending : List VhostEffect}
    (between : Between service process pending) (still : service.leaving = none) :
    process = service.process ∧ pending = [] := by
  cases between with
  | settled _ same nothing => exact ⟨same.symm, nothing⟩
  | unregistering stage before same nothing => simp [still] at stage
  | unregistered stage before now undone => simp [still] at stage
  | cleaned stage before now undone => simp [still] at stage

/-- A process in which a controller is found has this controller only. -/
theorem holding_of_lookup {process : VhostProcess} {done : List VhostEffect} {address : Nat} {found : VhostObject}
    (balanced : VhostProcess.Balanced process done) (lookedUp : process.lookup address = some found) :
    ∃ object nextAddress, process = holding object nextAddress := by
  cases balanced with
  | idle past => simp [VhostProcess.lookup, VhostProcess.idle] at lookedUp
  | @holding object nextAddress _ past below eal driver => exact ⟨object, nextAddress, rfl⟩

/-- The run of whole operations that a run of steps stands for. -/
def Settles (config : ConfigManager) (inputs : List ServiceInput) (outputs : List ServiceOutput)
    (service : VhostService) : Prop :=
  ∃ process done pending, (VhostProcess.machine config).run VhostProcess.initial (operations inputs) =
    some (process, done) ∧ (effects outputs).Perm (done ++ pending) ∧ Between service process pending

theorem effects_effects (done : List VhostEffect) : effects (done.map .effect) = done := by
  induction done with
  | nil => rfl
  | cons effect done ih => exact congrArg (List.cons effect) ih

theorem effects_sent (fd : Int) (sent : List PortDeviceRingState) : effects (sent.map (.sent fd)) = [] := by
  induction sent with
  | nil => rfl
  | cons pdrs sent ih => exact ih

section
variable {config : ConfigManager} {past : List ServiceInput} {emitted outputs : List ServiceOutput}
  {service next : VhostService} {process after : VhostProcess} {pending done more : List VhostEffect}

/-- One step of the service stands for the operations of its input. -/
theorem settles_of_step (ran : (VhostProcess.machine config).run VhostProcess.initial (operations past) =
      some (process, done)) (counted : (effects emitted).Perm (done ++ pending)) {input : ServiceInput}
    (step : (VhostProcess.machine config).run process (operations [input]) = some (after, more))
    (rest : List VhostEffect) (between : Between next after rest)
    (kept : (pending ++ effects outputs).Perm (more ++ rest)) :
    Settles config (past ++ [input]) (emitted ++ outputs) next := by
  refine ⟨after, done ++ more, rest, ?_, ?_, between⟩
  · have split : operations (past ++ [input]) = operations past ++ operations [input] := List.filterMap_append
    rw [split]
    exact Machine.run_append_eq_some _ |>.mpr ⟨_, _, _, ran, step, rfl⟩
  · have split : effects (emitted ++ outputs) = effects emitted ++ effects outputs := List.filterMap_append
    rw [split, List.append_assoc]
    calc effects emitted ++ effects outputs
        |>.Perm (done ++ pending ++ effects outputs) := counted.append_right _
      _ |>.Perm (done ++ (more ++ rest)) := by
          rw [List.append_assoc]
          exact kept.append_left _

/-- A step that is one whole operation settles again. -/
theorem settles_whole (ran : (VhostProcess.machine config).run VhostProcess.initial (operations past) =
      some (service.process, done)) (counted : (effects emitted).Perm (done ++ [])) {input : ServiceInput}
    {operation : VhostOperation} (single : operations [input] = [operation])
    {called : VhostProcess × List VhostEffect}
    (operated : VhostProcess.operate config service.process operation = some called) (still : next.leaving = none)
    (same : next.process = called.1) :
    Settles config (past ++ [input]) (emitted ++ called.2.map .effect) next := by
  have step : (VhostProcess.machine config).run service.process (operations [input]) = some (called.1, called.2) := by
    rw [single, Machine.run_singleton]
    exact operated
  apply settles_of_step ran counted step [] (.settled still same rfl)
  rw [effects_effects, List.nil_append, List.append_nil]

/-- A construction reads the command line only. -/
theorem construct_congr {first second : ConfigManager} (same : first.parser = second.parser)
    (process : VhostProcess) (socketPath : String) (clientFd : Int) :
    process.construct first socketPath clientFd = process.construct second socketPath clientFd := by
  have args : ∀ name, first.getArg name = second.getArg name := by
    intro name
    rw [ConfigManager.getArg, ConfigManager.getArg, same]
  simp only [VhostProcess.construct, VhostProcess.constructed, args]

/-- A construction beside a living controller is rejected. -/
theorem rejected (config : ConfigManager) {object : VhostObject} {nextAddress : Nat}
    (before : process = holding object nextAddress) (socketPath : String) (clientFd : Int) :
    (VhostProcess.machine config).run process (operations [.construct socketPath clientFd]) =
      some (process, [.threw VhostProcess.onlyOneInstance]) := by
  rw [before]
  exact Machine.run_singleton _ _ _

/-- Every step keeps the account of whole operations. -/
theorem Settles.advance (settles : Settles config past emitted service)
    (parsers : service.config.parser = config.parser) {input : ServiceInput}
    (stepped : service.operate input = some (next, outputs)) :
    Settles config (past ++ [input]) (emitted ++ outputs) next := by
  obtain ⟨process, done, pending, ran, counted, between⟩ := settles
  cases input with
  | construct socketPath clientFd =>
      obtain ⟨rfl, rfl⟩ := Prod.mk.inj (Option.some.inj stepped)
      cases between with
      | settled still same nothing =>
          subst same nothing
          rw [construct_congr parsers]
          exact settles_whole ran counted rfl rfl still rfl
      | unregistering stage before same nothing =>
          have step := rejected config before socketPath clientFd
          rw [same, before, VhostProcess.construct_holding]
          apply settles_of_step ran counted step pending
          · exact .unregistering stage before before.symm nothing
          · exact List.perm_append_comm
      | unregistered stage before now undone =>
          have step := rejected config before socketPath clientFd
          rw [now, VhostProcess.construct_holding]
          apply settles_of_step ran counted step pending
          · exact .unregistered stage before rfl undone
          · exact List.perm_append_comm
      | cleaned stage before now undone =>
          have step := rejected config before socketPath clientFd
          rw [now, VhostProcess.construct_holding]
          apply settles_of_step ran counted step pending
          · exact .cleaned stage before rfl undone
          · exact List.perm_append_comm
  | callback socketPath callback =>
      simp only [operate, Option.ite_none_right_eq_some, dispatch, Option.bind_eq_some_iff, Option.map_eq_some_iff,
        Prod.mk.injEq] at stepped
      obtain ⟨_, address, _, object, _, handled, _, rfl, rfl⟩ := stepped
      apply settles_of_step ran counted (Machine.run_nil _ _) pending
      · cases between with
        | settled still same nothing => exact .settled still same nothing
        | unregistering stage before same nothing => exact .unregistering stage before same nothing
        | unregistered stage before now undone => exact .unregistered stage before now undone
        | cleaned stage before now undone => exact .cleaned stage before now undone
      · rw [effects_sent, List.append_nil, List.nil_append]
  | init address granted =>
      simp only [operate, Option.ite_none_right_eq_some, Option.map_eq_some_iff, Prod.mk.injEq] at stepped
      obtain ⟨still, found, lookedUp, rfl, rfl⟩ := stepped
      obtain ⟨rfl, rfl⟩ := between.of_still still
      have operated : VhostProcess.operate config service.process (.init address granted) =
          some (service.process.init found granted) := by rw [VhostProcess.operate, lookedUp, Option.map_some]
      exact settles_whole ran counted rfl operated still rfl
  | start address answers =>
      simp only [operate, Option.ite_none_right_eq_some, Option.map_eq_some_iff, Prod.mk.injEq] at stepped
      obtain ⟨still, found, lookedUp, rfl, rfl⟩ := stepped
      obtain ⟨rfl, rfl⟩ := between.of_still still
      have operated : VhostProcess.operate config service.process (.start address answers) =
          some (service.process.start found answers) := by rw [VhostProcess.operate, lookedUp, Option.map_some]
      exact settles_whole ran counted rfl operated still rfl
  | destroy address =>
      simp only [operate, Option.ite_none_right_eq_some, Option.map_eq_some_iff, Prod.mk.injEq] at stepped
      obtain ⟨still, found, lookedUp, rfl, rfl⟩ := stepped
      obtain ⟨rfl, rfl⟩ := between.of_still still
      obtain ⟨object, nextAddress, living⟩ := holding_of_lookup (VhostProcess.balanced_run ran) lookedUp
      obtain ⟨rfl, _⟩ := found_living living lookedUp
      exact settles_of_step ran counted (Machine.run_nil _ _) [] (.unregistering rfl living rfl rfl) (List.Perm.refl _)
  | unregister address =>
      simp only [operate, Option.ite_none_right_eq_some, Option.map_eq_some_iff, Prod.mk.injEq] at stepped
      obtain ⟨at_, found, lookedUp, rfl, rfl⟩ := stepped
      cases between with
      | settled still same nothing => simp [still] at at_
      | unregistered stage before now undone => simp [stage] at at_
      | cleaned stage before now undone => simp [stage] at at_
      | @unregistering object nextAddress stage before same nothing =>
          subst same nothing
          obtain ⟨rfl, _⟩ := found_living before lookedUp
          obtain ⟨now, stage, undone, _⟩ := unregister_living before
          apply settles_of_step ran counted (Machine.run_nil _ _) (service.unregister found).2
          · exact .unregistered stage before now undone
          · rw [effects_effects]
  | cleanup address =>
      simp only [operate, Option.ite_none_right_eq_some, Option.map_eq_some_iff, Prod.mk.injEq] at stepped
      obtain ⟨at_, found, lookedUp, rfl, rfl⟩ := stepped
      cases between with
      | settled still same nothing => simp [still] at at_
      | unregistering stage before same nothing => simp [stage] at at_
      | cleaned stage before now undone => simp [stage] at at_
      | @unregistered object nextAddress stage before now undone =>
          obtain ⟨rfl, _⟩ := found_living now lookedUp
          obtain ⟨after, next, cleaned, _⟩ := cleanup_living now
          apply settles_of_step ran counted (Machine.run_nil _ _)
            (pending ++ if object.ealInitialised then [.ealCleanup] else [])
          · refine @Between.cleaned _ _ _ object nextAddress next before after ?_
            rw [undone]
            rfl
          · rw [effects_effects, cleaned]
            rfl
  | clear address =>
      simp only [operate, Option.ite_none_right_eq_some, Option.map_eq_some_iff, Prod.mk.injEq] at stepped
      obtain ⟨at_, found, lookedUp, rfl, rfl⟩ := stepped
      cases between with
      | settled still same nothing => simp [still] at at_
      | unregistering stage before same nothing => simp [stage] at at_
      | unregistered stage before now undone => simp [stage] at at_
      | @cleaned object nextAddress stage before now undone =>
          obtain ⟨rfl, rfl⟩ := found_living now lookedUp
          obtain ⟨after, still, cleared, _⟩ := clear_living now rfl rfl
          have step : (VhostProcess.machine config).run process (operations [.clear object.address]) =
              some (idle nextAddress, VhostProcess.teardown object) := by
            rw [show operations [.clear object.address] = [.destroy object.address] from rfl, Machine.run_singleton,
              before]
            simp [VhostProcess.machine, VhostProcess.operate, VhostProcess.lookup_holding, VhostProcess.destroy_holding]
          apply settles_of_step ran counted step []
          · exact .settled still after rfl
          · rw [effects_effects, cleared, undone, List.append_nil]

/-- In every run in which no destructor is on its way, the process is as after whole operations, with the same
effects, although callbacks and rejected constructions came between the steps of the destructors. -/
theorem steps_settle {inputs : List ServiceInput}
    (ran : machine.run (initial config) inputs = some (service, outputs)) (still : service.leaving = none) :
    ∃ done, (VhostProcess.machine config).run VhostProcess.initial (operations inputs) =
      some (service.process, done) ∧ (effects outputs).Perm done := by
  have kept : Settles config inputs outputs service ∧ service.config.parser = config.parser := by
    apply machine.run_history (fun past state emitted => Settles config past emitted state ∧
      state.config.parser = config.parser) _ _ ran
    · exact ⟨⟨VhostProcess.initial, [], [], rfl, List.Perm.refl _, .settled rfl rfl rfl⟩, rfl⟩
    · intro past state emitted input later sent before held stepped
      have advanced := (advances_run before).1.advance held.2 stepped
      exact ⟨held.1.advance held.2 stepped, advanced.parsers⟩
  obtain ⟨⟨process, done, pending, whole, counted, between⟩, _⟩ := kept
  obtain ⟨rfl, rfl⟩ := between.of_still still
  rw [List.append_nil] at counted
  exact ⟨done, whole, counted⟩

end

/-- The first life of the sample is one destruction, and the rival was rejected during it. -/
theorem steps_settle_two_controllers :
    ∃ service outputs, machine.run (initial (ConfigManager.initial ConfigManager.arguments)) twoControllers =
      some (service, outputs) ∧ service.leaving = none ∧
      ∃ done, (VhostProcess.machine (ConfigManager.initial ConfigManager.arguments)).run VhostProcess.initial
        (operations twoControllers) = some (service.process, done) ∧ (effects outputs).Perm done := by
  obtain ⟨service, outputs, ran, _, _, still, _⟩ := twoControllers_ran
  exact ⟨service, outputs, ran, still, steps_settle ran still⟩

end VhostService

end Vtb

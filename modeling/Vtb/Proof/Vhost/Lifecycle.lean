import Vtb.Construction.VhostLifecycle

namespace Vtb
open Library

namespace VhostProcess

/-- No controller is alive, and DPDK holds nothing. -/
def idle (nextAddress : Nat) : VhostProcess := ⟨none, [], ⟨[], false⟩, nextAddress⟩

/-- One controller is alive, and DPDK holds what its flags record. -/
def holding (object : VhostObject) (nextAddress : Nat) : VhostProcess where
  instance_ := some object.address
  alive := [object]
  rte := ⟨if object.driverRegistered then [object.socketPath] else [], object.ealInitialised⟩
  nextAddress := nextAddress

/-- The effects only concern controllers that were constructed. -/
def Past (nextAddress : Nat) (effects : List VhostEffect) : Prop :=
  ∀ address, .ealInit address ∈ effects ∨ .driverRegister address ∈ effects → address < nextAddress

/-- The flags of the living controller record what succeeded in its life. -/
inductive Balanced : VhostProcess → List VhostEffect → Prop where
  | idle {nextAddress : Nat} {effects : List VhostEffect} (past : Past nextAddress effects) :
      Balanced (idle nextAddress) effects
  | holding {object : VhostObject} {nextAddress : Nat} {effects : List VhostEffect}
      (past : Past nextAddress effects) (below : object.address < nextAddress)
      (eal : object.ealInitialised = true ↔ .ealInit object.address ∈ effects)
      (driver : object.driverRegistered = true ↔ .driverRegister object.address ∈ effects) :
      Balanced (holding object nextAddress) effects

/-- The calls that the destructor makes, in their order. -/
def teardown (object : VhostObject) : List VhostEffect :=
  (if object.driverRegistered then [.driverUnregister object.socketPath] else []) ++
    (if object.ealInitialised then [.ealCleanup] else []) ++ [.instanceCleared]

section
variable {config : ConfigManager} {object : VhostObject} {nextAddress : Nat}
  {effects later : List VhostEffect}

/-- Effects that register nothing keep the past. -/
theorem Past.append (past : Past nextAddress effects)
    (bounded : Past nextAddress later) : Past nextAddress (effects ++ later) := by
  intro address happened
  simp only [List.mem_append] at happened
  rcases happened with (old | new) | (old | new)
  · exact past address (Or.inl old)
  · exact bounded address (Or.inl new)
  · exact past address (Or.inr old)
  · exact bounded address (Or.inr new)

theorem Past.succ (past : Past nextAddress effects) : Past (nextAddress + 1) effects := by
  intro address happened
  exact Nat.lt_succ_of_lt (past address happened)

/-- Only the living controller can be called. -/
theorem lookup_holding (address : Nat) :
    (holding object nextAddress).lookup address = if object.address = address then some object else none := by
  simp [lookup, holding, List.find?_singleton]

/-- A new controller has its own address and both flags down. -/
theorem constructed_flags (config : ConfigManager) (address : Nat) (socketPath : String) (clientFd : Int) :
    (constructed config address socketPath clientFd).address = address ∧
      (constructed config address socketPath clientFd).ealInitialised = false ∧
      (constructed config address socketPath clientFd).driverRegistered = false := by
  unfold constructed
  dsimp only
  split <;> exact ⟨rfl, rfl, rfl⟩

theorem construct_idle (socketPath : String) (clientFd : Int) :
    (idle nextAddress).construct config socketPath clientFd =
      (holding (constructed config nextAddress socketPath clientFd) (nextAddress + 1),
        [.constructed nextAddress]) := by
  obtain ⟨address, eal, driver⟩ := constructed_flags config nextAddress socketPath clientFd
  simp [VhostProcess.construct, idle, holding, address, eal, driver]

/-- A second construction is rejected and changes nothing. -/
theorem construct_holding (socketPath : String) (clientFd : Int) :
    (holding object nextAddress).construct config socketPath clientFd =
      (holding object nextAddress, [.threw onlyOneInstance]) := rfl

/-- An EAL initialisation succeeds at most once in a life. -/
theorem init_holding (granted : Bool) :
    (holding object nextAddress).init object granted =
      if granted ∧ object.ealInitialised = false then
        (holding { object with ealInitialised := true } nextAddress, [.ealInit object.address])
      else (holding object nextAddress, [.threw ealInitFailed]) := by
  simp only [init, holding, update, List.map_cons, List.map_nil, if_true]

/-- How `start` ends after its registration. -/
def startEnd (object : VhostObject) (answers : DriverAnswers) : VhostEffect :=
  if answers.callbackRegister = false then .threw callbackFailed
  else if answers.driverStart = false then .threw startFailed
  else .ready object.address

/-- A registration succeeds at most once in a life, and `start` may fail after it. -/
theorem start_holding (answers : DriverAnswers) :
    (holding object nextAddress).start object answers =
      if answers.register ∧ object.driverRegistered = false then
        (holding { object with driverRegistered := true } nextAddress,
          [.driverRegister object.address, startEnd object answers])
      else (holding object nextAddress, [.threw (registerFailed object.socketPath)]) := by
  obtain ⟨register, callbackRegister, driverStart⟩ := answers
  cases registered : object.driverRegistered <;> cases register <;> cases callbackRegister <;>
    cases driverStart <;> simp [start, holding, update, registered, startEnd]

/-- The end of `start` registers nothing. -/
theorem startEnd_ne (object : VhostObject) (answers : DriverAnswers) (address : Nat) :
    startEnd object answers ≠ .ealInit address ∧ startEnd object answers ≠ .driverRegister address := by
  unfold startEnd
  split
  · simp
  · split <;> simp

/-- The destructor undoes what succeeded in the life of the controller. -/
theorem destroy_holding :
    (holding object nextAddress).destroy object = (idle nextAddress, teardown object) := by
  cases registered : object.driverRegistered <;> cases initialised : object.ealInitialised <;>
    simp [destroy, holding, idle, teardown, registered, initialised]

end

/-- An operation that registers nothing and keeps the controller keeps the balance. -/
theorem Balanced.holding_quiet {object : VhostObject} {nextAddress : Nat} {effects later : List VhostEffect}
    (past : Past nextAddress effects) (below : object.address < nextAddress)
    (eal : object.ealInitialised = true ↔ .ealInit object.address ∈ effects)
    (driver : object.driverRegistered = true ↔ .driverRegister object.address ∈ effects)
    (quiet : ∀ address, .ealInit address ∉ later ∧ .driverRegister address ∉ later) :
    Balanced (VhostProcess.holding object nextAddress) (effects ++ later) := by
  refine .holding (past.append ?_) below ?_ ?_
  · intro address happened
    exact absurd happened (not_or.mpr (quiet address))
  · simp [eal, (quiet object.address).1]
  · simp [driver, (quiet object.address).2]

/-- A new controller starts balanced: nothing has succeeded in its life. -/
theorem balanced_constructed {config : ConfigManager} {nextAddress : Nat} {effects : List VhostEffect}
    (past : Past nextAddress effects) (socketPath : String) (clientFd : Int) :
    Balanced (VhostProcess.holding (constructed config nextAddress socketPath clientFd) (nextAddress + 1))
      (effects ++ [.constructed nextAddress]) := by
  obtain ⟨address, eal, driver⟩ := constructed_flags config nextAddress socketPath clientFd
  have unused : .ealInit nextAddress ∉ effects ∧ .driverRegister nextAddress ∉ effects := by
    constructor
    · intro happened
      exact lt_irrefl _ (past nextAddress (Or.inl happened))
    · intro happened
      exact lt_irrefl _ (past nextAddress (Or.inr happened))
  refine .holding (past.succ.append ?_) ?_ ?_ ?_
  · simp [Past]
  · rw [address]
    exact Nat.lt_succ_self nextAddress
  · simp [address, eal, unused.1]
  · simp [address, driver, unused.2]

/-- The destructor registers nothing. -/
theorem teardown_quiet (object : VhostObject) (address : Nat) :
    .ealInit address ∉ teardown object ∧ .driverRegister address ∉ teardown object := by
  unfold teardown
  cases object.driverRegistered <;> cases object.ealInitialised <;> simp

section
variable {object : VhostObject} {nextAddress : Nat} {effects : List VhostEffect}

/-- An EAL initialisation of the living controller keeps the balance. -/
theorem balanced_init (past : Past nextAddress effects) (below : object.address < nextAddress)
    (eal : object.ealInitialised = true ↔ .ealInit object.address ∈ effects)
    (driver : object.driverRegistered = true ↔ .driverRegister object.address ∈ effects) (granted : Bool) :
    Balanced ((VhostProcess.holding object nextAddress).init object granted).1
      (effects ++ ((VhostProcess.holding object nextAddress).init object granted).2) := by
  rw [init_holding]
  split
  · refine .holding (past.append ?_) below (by simp) (by simpa using driver)
    intro address happened
    obtain rfl : address = object.address := by simpa using happened
    exact below
  · exact .holding_quiet past below eal driver (by simp)

/-- A `start` of the living controller keeps the balance, wherever it fails. -/
theorem balanced_start (past : Past nextAddress effects) (below : object.address < nextAddress)
    (eal : object.ealInitialised = true ↔ .ealInit object.address ∈ effects)
    (driver : object.driverRegistered = true ↔ .driverRegister object.address ∈ effects)
    (answers : DriverAnswers) :
    Balanced ((VhostProcess.holding object nextAddress).start object answers).1
      (effects ++ ((VhostProcess.holding object nextAddress).start object answers).2) := by
  rw [start_holding]
  split
  · refine .holding (past.append ?_) below ?_ (by simp)
    · intro address happened
      have ended := startEnd_ne object answers address
      obtain rfl : address = object.address := by
        simpa [ended.1.symm, ended.2.symm] using happened
      exact below
    · have ended := startEnd_ne object answers object.address
      simpa [ended.1.symm] using eal
  · exact .holding_quiet past below eal driver (by simp)

/-- The destructor of the living controller leaves a balanced process without one. -/
theorem balanced_destroy (past : Past nextAddress effects) :
    Balanced ((VhostProcess.holding object nextAddress).destroy object).1
      (effects ++ ((VhostProcess.holding object nextAddress).destroy object).2) := by
  rw [destroy_holding]
  apply Balanced.idle
  apply past.append
  intro address happened
  exact absurd happened (not_or.mpr (teardown_quiet object address))

end

/-- Every operation keeps the flags and DPDK balanced. -/
theorem balanced_step {config : ConfigManager} {process next : VhostProcess} {operation : VhostOperation}
    {effects later : List VhostEffect} (balanced : Balanced process effects)
    (stepped : (machine config).step process operation = some (next, later)) :
    Balanced next (effects ++ later) := by
  cases balanced with
  | @idle nextAddress _ past =>
      cases operation with
      | construct socketPath clientFd =>
          simp only [machine, operate, construct_idle, Option.some.injEq, Prod.mk.injEq] at stepped
          obtain ⟨rfl, rfl⟩ := stepped
          exact balanced_constructed past socketPath clientFd
      | init address granted => simp [machine, operate, lookup, VhostProcess.idle] at stepped
      | start address answers => simp [machine, operate, lookup, VhostProcess.idle] at stepped
      | destroy address => simp [machine, operate, lookup, VhostProcess.idle] at stepped
  | @holding object nextAddress _ past below eal driver =>
      cases operation with
      | construct socketPath clientFd =>
          simp only [machine, operate, construct_holding, Option.some.injEq, Prod.mk.injEq] at stepped
          obtain ⟨rfl, rfl⟩ := stepped
          exact .holding_quiet past below eal driver (by simp)
      | init address granted =>
          simp only [machine, operate, lookup_holding, Option.map_eq_some_iff, Option.ite_none_right_eq_some,
            Option.some.injEq] at stepped
          obtain ⟨_, ⟨_, rfl⟩, same⟩ := stepped
          have kept := balanced_init past below eal driver granted
          rw [same] at kept
          exact kept
      | start address answers =>
          simp only [machine, operate, lookup_holding, Option.map_eq_some_iff, Option.ite_none_right_eq_some,
            Option.some.injEq] at stepped
          obtain ⟨_, ⟨_, rfl⟩, same⟩ := stepped
          have kept := balanced_start past below eal driver answers
          rw [same] at kept
          exact kept
      | destroy address =>
          simp only [machine, operate, lookup_holding, Option.map_eq_some_iff, Option.ite_none_right_eq_some,
            Option.some.injEq] at stepped
          obtain ⟨_, ⟨_, rfl⟩, same⟩ := stepped
          have kept : Balanced ((VhostProcess.holding object nextAddress).destroy object).1 _ := balanced_destroy past
          rw [same] at kept
          exact kept

theorem balanced_run {config : ConfigManager} {history : List VhostOperation} {process : VhostProcess}
    {effects : List VhostEffect}
    (ran : (machine config).run initial history = some (process, effects)) : Balanced process effects :=
  (machine config).run_history (fun _ state emitted => Balanced state emitted)
    (.idle (by simp [Past]))
    (fun _ _ _ _ _ _ _ balanced stepped => balanced_step balanced stepped) ran

/-- `instance_` points to the one controller that is alive, and it is null when none is. -/
def PointsToLiving (process : VhostProcess) : Prop :=
  (process.instance_ = none ∧ process.alive = []) ∨
    ∃ object, process.instance_ = some object.address ∧ process.alive = [object]

/-- DPDK holds nothing but what the living controller has to give back. -/
theorem nothing_leaks {config : ConfigManager} {history : List VhostOperation} {process : VhostProcess}
    {effects : List VhostEffect}
    (ran : (machine config).run initial history = some (process, effects))
    (nobody : process.alive = []) : process.rte = ⟨[], false⟩ := by
  cases balanced_run ran with
  | idle past => rfl
  | holding past below eal driver => simp [holding] at nobody

/-- Setup and teardown are balanced after every run: `instance_` points to the living controller, a
second construction leaves everything untouched, and a destruction makes exactly the calls that undo
the successes of that life, with the unregister first and `instance_` cleared last. -/
theorem setup_teardown_balanced (config : ConfigManager) (history : List VhostOperation)
    {process : VhostProcess} {effects : List VhostEffect}
    (ran : (machine config).run initial history = some (process, effects)) :
    process.PointsToLiving ∧
    (∀ socketPath clientFd, process.alive ≠ [] →
      (machine config).step process (.construct socketPath clientFd) =
        some (process, [.threw onlyOneInstance])) ∧
    (∀ address next emitted, (machine config).step process (.destroy address) = some (next, emitted) →
      ∃ object, process.alive = [object] ∧ object.address = address ∧ next.alive = [] ∧
        emitted =
          (if .driverRegister address ∈ effects then [.driverUnregister object.socketPath] else []) ++
            (if .ealInit address ∈ effects then [.ealCleanup] else []) ++ [.instanceCleared]) := by
  cases balanced_run ran with
  | @idle nextAddress _ past =>
      refine ⟨Or.inl ⟨rfl, rfl⟩, ?_, ?_⟩
      · simp [idle]
      · simp [machine, operate, lookup, idle]
  | @holding object nextAddress _ past below eal driver =>
      refine ⟨Or.inr ⟨object, rfl, rfl⟩, ?_, ?_⟩
      · intro socketPath clientFd _
        simp only [machine, operate, construct_holding]
      · intro address next emitted stepped
        simp only [machine, operate, lookup_holding] at stepped
        split at stepped
        · next same =>
            subst same
            simp only [Option.map_some, destroy_holding, Option.some.injEq, Prod.mk.injEq] at stepped
            obtain ⟨rfl, rfl⟩ := stepped
            refine ⟨object, rfl, rfl, rfl, ?_⟩
            simp only [teardown, driver, eal]
        · simp at stepped

/-- A life with a failed start, a rejected rival, a repeated initialisation and a destruction. -/
def sampleLives : List VhostOperation :=
  [.construct "/tmp/vhost.sock" 3, .init 0 true, .construct "/tmp/other.sock" 4,
    .start 0 ⟨true, true, false⟩, .init 0 true]

/-- The destructor of the sample unregisters, cleans up and clears, once each. -/
theorem setup_teardown_balanced_sample :
    ∃ process effects,
      (machine (ConfigManager.initial ConfigManager.arguments)).run initial sampleLives =
        some (process, effects) ∧ process.PointsToLiving ∧
      ∃ next, (machine (ConfigManager.initial ConfigManager.arguments)).step process (.destroy 0) =
        some (next, [.driverUnregister "/tmp/vhost.sock", .ealCleanup, .instanceCleared]) := by
  obtain ⟨process, effects, ran, next, stepped⟩ :
      ∃ process effects,
        (machine (ConfigManager.initial ConfigManager.arguments)).run initial sampleLives =
          some (process, effects) ∧
        ∃ next, (machine (ConfigManager.initial ConfigManager.arguments)).step process (.destroy 0) =
          some (next, [.driverUnregister "/tmp/vhost.sock", .ealCleanup, .instanceCleared]) :=
    ⟨_, _, rfl, _, rfl⟩
  exact ⟨process, effects, ran, (setup_teardown_balanced _ sampleLives ran).1, next, stepped⟩

end VhostProcess

end Vtb

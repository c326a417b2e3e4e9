import Vtb.Construction.WorkerThreads
import Vtb.Proof.Controller.Startup

namespace Vtb
open Library

/-- A worker serves its own side of the ring of its handler; a tx_rx worker serves both sides. -/
def WorkerTag.serves (side : Worker) (handler : Nat) (tag : WorkerTag) : Bool :=
  tag.handler == handler && (tag.worker == side || tag.worker == .txRx)

namespace PortControllerLoopback
open PortHandlerLoopback (pairNames)

/-- A notification that completes a pair starts its handler successfully and launches workers:
the settings have workers, nothing is refused, and none of the names of the pair is in use. -/
structure Launches (settings : HandlerSettings) (controller : PortControllerLoopback)
    (notification : Notification) (pair : Nat) : Prop where
  workers : settings.launches ≠ []
  ring : notification.pdrs.metaCode ≠ 1
  named : notification.pdrs.qid = 2 * (pair : Int) + 1
  complete : RingTable.completes controller.pmap[notification.pdrs.deviceId]? (2 * pair + 1)
    notification.pdrs.enable = some pair
  granted : notification.outcomes = .granted
  unused : ∀ name ∈ pairNames notification.pdrs.deviceId pair, controller.dpdk.inUse name = false

instance (settings : HandlerSettings) (controller : PortControllerLoopback) (notification : Notification)
    (pair : Nat) : Decidable (Launches settings controller notification pair) :=
  decidable_of_iff (settings.launches ≠ [] ∧ notification.pdrs.metaCode ≠ 1 ∧
      notification.pdrs.qid = 2 * (pair : Int) + 1 ∧
      RingTable.completes controller.pmap[notification.pdrs.deviceId]? (2 * pair + 1)
        notification.pdrs.enable = some pair ∧ notification.outcomes = .granted ∧
      ∀ name ∈ pairNames notification.pdrs.deviceId pair, controller.dpdk.inUse name = false)
    ⟨fun ⟨workers, ring, named, complete, granted, unused⟩ => ⟨workers, ring, named, complete, granted, unused⟩,
      fun launches => ⟨launches.workers, launches.ring, launches.named, launches.complete, launches.granted,
        launches.unused⟩⟩

section
variable {settings : HandlerSettings} {controller next : PortControllerLoopback}
  {notification : Notification} {calls : List HandlerCall}

/-- A notification names one pair. -/
theorem Launches.pair_eq {pair other : Nat} (launches : Launches settings controller notification pair)
    (named : notification.pdrs.qid = 2 * (other : Int) + 1) : pair = other := by
  have same := launches.named.symm.trans named
  omega

/-- Settings with workers have a number of threads. -/
theorem Launches.threads {pair : Nat} (launches : Launches settings controller notification pair) :
    ∃ nofThreads, settings.nofThreads = .ok nofThreads := by
  cases threads : settings.nofThreads with
  | error what => exact absurd (by rw [HandlerSettings.launches, threads]) launches.workers
  | ok nofThreads => exact ⟨nofThreads, rfl⟩

/-- A completed pair has a handler. -/
theorem Launches.inside {pair : Nat} (launches : Launches settings controller notification pair)
    (sized : controller.Sized) : pair < 8 := by
  obtain ⟨_, _, rings, table, partner⟩ := RingTable.completes_eq_some.mp launches.complete
  obtain ⟨inside, _⟩ := List.getElem?_eq_some_iff.mp partner
  have small : 2 * pair < 16 := lt_of_lt_of_eq inside (sized _ _ table)
  omega

/-- A guarded start that succeeds launches the workers of the settings, and it found its pair unused. -/
theorem attempt_launched {outcomes : CreateOutcomes} {call other : StartCall} {deviceId : Int}
    {pair : Nat} {inside : pair < 8} {workers : List Worker}
    (started : (attempt settings outcomes call (controller.bindPair deviceId pair inside)).2 =
      .started other workers) :
    other = call ∧ workers = settings.launches ∧ outcomes = .granted ∧
      ∀ name ∈ pairNames deviceId pair, controller.dpdk.inUse name = false := by
  unfold attempt at started
  cases result : PortHandlerLoopback.start settings outcomes
      (controller.bindPair deviceId pair inside) with
  | error what next => simp [result] at started
  | ok launched next =>
      rw [result] at started
      obtain ⟨rfl, rfl⟩ := HandlerCall.started.inj started
      obtain ⟨nofThreads, threads, own⟩ := PortHandlerLoopback.start_workers result
      obtain ⟨granted, txPool, rxPool, txRing⟩ := PortHandlerLoopback.start_unused result
      refine ⟨rfl, ?_, granted, ?_⟩
      · rw [own, HandlerSettings.launches, threads]
      · intro name member
        simp only [pairNames, List.mem_cons, List.not_mem_nil, or_false] at member
        rcases member with rfl | rfl | rfl
        · exact txPool
        · exact rxPool
        · exact txRing

/-- A notification launches the workers of one handler, or none. -/
theorem Effect.launched (effect : Effect settings controller notification next calls) :
    (∃ pair, Launches settings controller notification pair ∧
      calls.flatMap HandlerCall.launched = settings.launches.map (WorkerTag.mk pair)) ∨
    (∀ pair, ¬ Launches settings controller notification pair) ∧
      calls.flatMap HandlerCall.launched = [] := by
  cases effect with
  | destroyed gone =>
      refine Or.inr ⟨fun pair launches => launches.ring gone, ?_⟩
      simp [stopAll, HandlerCall.launched]
  | recorded qid ready ring named inside incomplete =>
      refine Or.inr ⟨?_, rfl⟩
      intro pair launches
      have same : qid = 2 * pair + 1 := by
        have numbers := named.symm.trans launches.named
        omega
      rw [same, launches.complete] at incomplete
      simp at incomplete
  | bound pair inside ring named complete result attempted =>
      subst attempted
      rcases attempt_event settings notification.outcomes (pairCall notification.pdrs.deviceId pair)
        (controller.bindPair notification.pdrs.deviceId pair inside) with
        ⟨workers, started⟩ | ⟨what, failed⟩
      · obtain ⟨_, own, granted, unused⟩ := attempt_launched started
        have tags : [(attempt settings notification.outcomes (pairCall notification.pdrs.deviceId pair)
            (controller.bindPair notification.pdrs.deviceId pair inside)).2].flatMap HandlerCall.launched =
              settings.launches.map (WorkerTag.mk pair) := by
          rw [started, List.flatMap_singleton, own]
          rfl
        by_cases none : settings.launches = []
        · exact Or.inr ⟨fun other launches => launches.workers none, by rw [tags, none, List.map_nil]⟩
        · exact Or.inl ⟨pair, ⟨none, ring, named, complete, granted, unused⟩, tags⟩
      · refine Or.inr ⟨?_, by simp [failed, HandlerCall.launched]⟩
        intro other launches
        obtain rfl := launches.pair_eq named
        obtain ⟨nofThreads, threads⟩ := launches.threads
        obtain ⟨workers, started⟩ := attempt_started threads
          (pairCall notification.pdrs.deviceId other) inside launches.unused
        rw [launches.granted, started] at failed
        simp at failed

end

end PortControllerLoopback

namespace ControllerThreads
open PortControllerLoopback (Launches)

/-- Each handler has at most one tx or tx_rx worker, and at most one rx or tx_rx worker, that was
launched and has not exited. -/
def OneWorkerPerRole (system : ControllerThreads) : Prop :=
  ∀ side ∈ [Worker.tx, Worker.rx], ∀ handler : Nat,
    unexited (WorkerTag.serves side handler) system.threads ≤ 1

/-- The notification launches workers for a handler of which a worker has not exited. -/
def Doubles (settings : HandlerSettings) (system : ControllerThreads) (notification : Notification) : Prop :=
  ∃ pair, Launches settings system.controller notification pair ∧
    ∃ thread ∈ system.threads, thread.tag.handler = pair ∧ thread.phase ≠ .exited

instance (settings : HandlerSettings) (system : ControllerThreads) (notification : Notification) :
    Decidable (Doubles settings system notification) :=
  decidable_of_iff (∃ thread ∈ system.threads,
    Launches settings system.controller notification thread.tag.handler ∧ thread.phase ≠ .exited)
    (by simp only [Doubles]; grind)

/-- A handler is started only when its earlier workers have exited. -/
def startsIdle (settings : HandlerSettings) (past : List ControllerEvent) : ControllerEvent → Prop
  | .notify notification => ∀ system calls, (machine settings).run initial past = some (system, calls) →
      ¬ Doubles settings system notification
  | .move _ _ => True

instance (settings : HandlerSettings) (past : List ControllerEvent) :
    ∀ event, Decidable (startsIdle settings past event)
  | .notify notification => decidable_of_iff (∀ result ∈ (machine settings).run initial past,
      ¬ Doubles settings result.1 notification) (by simp [startsIdle])
  | .move _ _ => inferInstanceAs (Decidable True)

/-- The tables have their sizes, and every worker has a role of the settings. -/
structure Staffed (settings : HandlerSettings) (system : ControllerThreads) : Prop where
  sized : system.controller.Sized
  roles : ∀ thread ∈ system.threads, thread.tag.worker ∈ settings.launches

section
variable {settings : HandlerSettings} {system next : ControllerThreads} {later : List HandlerCall}
  {notification : Notification} {index : Nat} {move : ThreadMove}

/-- A notification changes the controller as its processing does, and it launches the workers of one
handler or none. -/
theorem notify_cases (sized : system.controller.Sized)
    (stepped : step settings system (.notify notification) = some (next, later)) :
    next.controller.Sized ∧
      ((∃ pair, Launches settings system.controller notification pair ∧
        next.threads = launch (settings.launches.map (WorkerTag.mk pair)) system.threads) ∨
      (∀ pair, ¬ Launches settings system.controller notification pair) ∧ next.threads = system.threads) := by
  obtain ⟨⟨controller, calls⟩, processed, same⟩ := Option.map_eq_some_iff.mp stepped
  obtain ⟨rfl, rfl⟩ := Prod.mk.inj same
  have effect := PortControllerLoopback.effect_of_step sized processed
  refine ⟨effect.sized sized, ?_⟩
  rcases effect.launched with ⟨pair, launches, tags⟩ | ⟨none, tags⟩
  · exact Or.inl ⟨pair, launches, by dsimp only; rw [tags]⟩
  · exact Or.inr ⟨none, by dsimp only; rw [tags]; simp [launch]⟩

/-- A move changes the flag of one handler and the phase of one thread that had not exited. -/
theorem step_move (stepped : step settings system (.move index move) = some (next, later)) :
    ∃ thread handler raised phase portHandler, system.threads[index]? = some thread ∧
      readCell system.controller.portHandler thread.tag.handler = some handler ∧
      move.run handler.isRunning thread.phase = some (raised, phase) ∧
      next = ⟨{ system.controller with portHandler }, reach system.threads index phase⟩ := by
  simp only [step, PortHandlerLoopback.work, Option.bind_eq_some_iff, Option.map_eq_some_iff] at stepped
  obtain ⟨thread, found, handler, own, _, ⟨⟨raised, phase⟩, moved, rfl⟩, portHandler, _, same⟩ := stepped
  obtain ⟨rfl, _⟩ := Prod.mk.inj same
  exact ⟨thread, handler, raised, phase, portHandler, found, own, moved, rfl⟩

/-- Every step keeps the system staffed. -/
theorem Staffed.step (staffed : Staffed settings system) {event : ControllerEvent}
    (stepped : ControllerThreads.step settings system event = some (next, later)) :
    Staffed settings next := by
  cases event with
  | notify notification =>
      obtain ⟨sized, ⟨pair, _, threads⟩ | ⟨_, threads⟩⟩ := notify_cases staffed.sized stepped
      · refine ⟨sized, ?_⟩
        intro thread member
        rw [threads, mem_launch] at member
        rcases member with old | ⟨fresh, _⟩
        · exact staffed.roles thread old
        · obtain ⟨worker, own, same⟩ := List.mem_map.mp fresh
          rw [← same]
          exact own
      · exact ⟨sized, threads ▸ staffed.roles⟩
  | move index move =>
      obtain ⟨thread, handler, raised, phase, portHandler, found, own, moved, rfl⟩ := step_move stepped
      refine ⟨staffed.sized, ?_⟩
      intro other member
      rcases mem_reach found member with old | rfl
      · exact staffed.roles other old
      · exact staffed.roles thread (List.mem_of_getElem? found)

theorem staffed_run {history : List ControllerEvent} {calls : List HandlerCall}
    (ran : (machine settings).run initial history = some (system, calls)) : Staffed settings system :=
  (machine settings).run_invariant (Staffed settings)
    ⟨PortControllerLoopback.sized_initial, by simp [initial]⟩
    (fun _ _ _ _ staffed stepped => staffed.step stepped) ran

/-- The settings launch no worker, one for both sides, or one for each side. -/
theorem launches_cases (settings : HandlerSettings) :
    settings.launches = [] ∨ settings.launches = [.txRx] ∨ settings.launches = [.tx, .rx] := by
  unfold HandlerSettings.launches PortHandlerLoopback.workersOf
  cases settings.nofThreads with
  | error what => exact Or.inl rfl
  | ok nofThreads =>
      dsimp only
      split_ifs
      · exact Or.inr (Or.inl rfl)
      · exact Or.inr (Or.inr rfl)
      · exact Or.inl rfl
      · exact Or.inl rfl

/-- The workers of one start serve each side of their handler at most once, and no other handler. -/
theorem countP_launches_le (settings : HandlerSettings) {side : Worker} (sided : side ∈ [Worker.tx, Worker.rx])
    (pair handler : Nat) :
    (settings.launches.map (WorkerTag.mk pair)).countP (WorkerTag.serves side handler) ≤
      if pair = handler then 1 else 0 := by
  simp only [List.mem_cons, List.not_mem_nil, or_false] at sided
  by_cases same : pair = handler
  · rcases launches_cases settings with none | both | each
    · simp [none]
    · rcases sided with rfl | rfl <;> simp [both, WorkerTag.serves, same]
    · rcases sided with rfl | rfl <;> simp [each, WorkerTag.serves, same]
  · simp [List.countP_eq_zero, WorkerTag.serves, same]

/-- Each worker serves one of the two sides. -/
theorem exists_side (tag : WorkerTag) :
    ∃ side ∈ [Worker.tx, Worker.rx], WorkerTag.serves side tag.handler tag = true := by
  cases role : tag.worker with
  | tx => exact ⟨.tx, by simp, by simp [WorkerTag.serves, role]⟩
  | rx => exact ⟨.rx, by simp, by simp [WorkerTag.serves, role]⟩
  | txRx => exact ⟨.tx, by simp, by simp [WorkerTag.serves, role]⟩

/-- A notification keeps one worker per role exactly when it does not double the workers of a handler. -/
theorem oneWorker_notify (staffed : Staffed settings system) (one : system.OneWorkerPerRole)
    (stepped : step settings system (.notify notification) = some (next, later)) :
    next.OneWorkerPerRole ↔ ¬ Doubles settings system notification := by
  obtain ⟨_, ⟨pair, launches, threads⟩ | ⟨none, threads⟩⟩ := notify_cases staffed.sized stepped
  · constructor
    · rintro kept ⟨other, again, thread, member, own, alive⟩
      obtain rfl := again.pair_eq launches.named
      obtain ⟨side, sided, counted⟩ := exists_side thread.tag
      have old := unexited_pos member counted alive
      have fresh : 0 < (settings.launches.map (WorkerTag.mk other)).countP
          (WorkerTag.serves side thread.tag.handler) := by
        refine List.countP_pos_iff.mpr ⟨thread.tag, ?_, counted⟩
        exact List.mem_map.mpr ⟨thread.tag.worker, staffed.roles thread member, by rw [← own]⟩
      have bound := kept side sided thread.tag.handler
      rw [threads, unexited_launch] at bound
      omega
    · intro idle side sided handler
      have fresh := countP_launches_le settings sided pair handler
      rw [threads, unexited_launch]
      by_cases same : pair = handler
      · have gone : unexited (WorkerTag.serves side handler) system.threads = 0 := by
          rw [unexited_eq_zero]
          intro thread member counted
          by_contra alive
          simp only [WorkerTag.serves, Bool.and_eq_true, beq_iff_eq] at counted
          exact idle ⟨pair, launches, thread, member, counted.1.trans same.symm, alive⟩
        rw [if_pos same] at fresh
        omega
      · rw [if_neg same] at fresh
        have bound := one side sided handler
        omega
  · refine iff_of_true ?_ ?_
    · rw [OneWorkerPerRole, threads]
      exact one
    · rintro ⟨pair, launches, _⟩
      exact none pair launches

/-- A move launches nothing. -/
theorem oneWorker_move (one : system.OneWorkerPerRole)
    (stepped : step settings system (.move index move) = some (next, later)) : next.OneWorkerPerRole := by
  obtain ⟨thread, handler, raised, phase, portHandler, found, own, moved, rfl⟩ := step_move stepped
  intro side sided handler
  exact (unexited_reach_le _ found (run_ne_exited moved) phase).trans (one side sided handler)

end

/-- Every state of a run has one worker per role exactly when no notification of the run starts a
handler of which a worker has not exited. -/
theorem one_worker_per_role_iff (settings : HandlerSettings) {history : List ControllerEvent}
    {final : ControllerThreads} {calls : List HandlerCall}
    (ran : (machine settings).run initial history = some (final, calls)) :
    (∀ past, past <+: history → ∀ system emitted,
      (machine settings).run initial past = some (system, emitted) → system.OneWorkerPerRole) ↔
      Admits (startsIdle settings) history := by
  refine (machine settings).run_every_iff ran (fun _ system => system.OneWorkerPerRole) ?_ ?_
  · intro side _ handler
    simp [initial]
  · intro past system emitted event next later reached one stepped
    cases event with
    | notify notification =>
        rw [oneWorker_notify (staffed_run reached) one stepped]
        exact ((machine settings).forall_run_iff reached
          fun state => ¬ Doubles settings state notification).symm
    | move index move =>
        have moved : step settings system (.move index move) = some (next, later) := stepped
        exact iff_of_true (oneWorker_move one moved) trivial

/-- A notification names one of the sixteen rings, and DPDK refuses no creation. -/
def grantedEvent : ControllerEvent → Prop
  | .notify notification => 0 ≤ notification.pdrs.qid ∧ notification.pdrs.qid < 16 ∧
      notification.outcomes = .granted
  | .move _ _ => True

instance : ∀ event, Decidable (grantedEvent event)
  | .notify _ => inferInstanceAs (Decidable (_ ∧ _))
  | .move _ _ => inferInstanceAs (Decidable True)

/-- Two devices enable their first ring pair. -/
def twoDevices : List ControllerEvent :=
  [.notify (PortControllerLoopback.ringNotification 0 0 1),
    .notify (PortControllerLoopback.ringNotification 0 1 1),
    .notify (PortControllerLoopback.ringNotification 1 0 1),
    .notify (PortControllerLoopback.ringNotification 1 1 1)]

/-- Both devices share a handler, which then has two tx_rx workers. -/
theorem two_devices_double_workers :
    ¬ ∀ (settings : HandlerSettings) (history : List ControllerEvent) (system : ControllerThreads)
        (calls : List HandlerCall), (∀ event ∈ history, grantedEvent event) →
      (machine settings).run initial history = some (system, calls) → system.OneWorkerPerRole := by
  intro claimed
  obtain ⟨⟨system, calls⟩, ran⟩ := Option.isSome_iff_exists.mp (show ((machine
    PortControllerLoopback.loopbackSettings).run initial twoDevices).isSome = true by decide)
  have one := claimed PortControllerLoopback.loopbackSettings twoDevices system calls (by decide) ran
    .tx (by simp) 0
  have doubled : ((machine PortControllerLoopback.loopbackSettings).run initial twoDevices).map
      (fun result => unexited (WorkerTag.serves .tx 0) result.1.threads) = some 2 := by decide
  rw [ran, Option.map_some, Option.some.injEq] at doubled
  exact absurd (doubled.symm.trans_le one) (by decide)

/-- The first device is destroyed and its worker returns before the second device comes. -/
def deviceAfterDevice : List ControllerEvent :=
  [.notify (PortControllerLoopback.ringNotification 0 0 1),
    .notify (PortControllerLoopback.ringNotification 0 1 1), .move 0 .enter,
    .notify (PortControllerLoopback.destroyNotification 0), .move 0 .test, .move 0 .exit,
    .notify (PortControllerLoopback.ringNotification 1 0 1),
    .notify (PortControllerLoopback.ringNotification 1 1 1)]

/-- A handler whose worker returned has one worker per role again. -/
theorem one_worker_per_role_in_turn :
    ∃ system calls, (machine PortControllerLoopback.loopbackSettings).run initial deviceAfterDevice =
        some (system, calls) ∧ system.OneWorkerPerRole := by
  obtain ⟨⟨system, calls⟩, ran⟩ := Option.isSome_iff_exists.mp (show ((machine
    PortControllerLoopback.loopbackSettings).run initial deviceAfterDevice).isSome = true by decide +kernel)
  have idle : Admits (startsIdle PortControllerLoopback.loopbackSettings) deviceAfterDevice := by decide +kernel
  exact ⟨system, calls, ran, (one_worker_per_role_iff PortControllerLoopback.loopbackSettings ran).mpr idle
    deviceAfterDevice (List.prefix_refl _) system calls ran⟩

end ControllerThreads

end Vtb

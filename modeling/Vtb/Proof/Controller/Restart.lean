import Vtb.Proof.Controller.Startup

namespace Vtb
open Library

namespace PortHandlerLoopback
section
variable {settings : HandlerSettings} {outcomes : CreateOutcomes} {state : StartState} {name : String}

/-- The exception of a `start` whose transmit pool already exists. -/
def poolExists (vid txqid : Int) : String :=
  "Cannot create TX MBUF Pool: " ++ objectName "TX_MBUF_POOL_" vid txqid ++ " rte_errno:" ++ toString Dpdk.eexist

/-- `start` fails at once when a transmit pool of its name exists, whatever DPDK would answer. -/
theorem start_taken {nofThreads : Int} (threads : settings.nofThreads = .ok nofThreads)
    (taken : state.dpdk.inUse state.handler.txPoolName = true) :
    start settings outcomes state = .error (poolExists state.handler.vid state.handler.txqid)
      { state with handler := { state.handler with txMbufPool := none } } := by
  have failed : createTxPool outcomes.txPool state =
      .error (poolExists state.handler.vid state.handler.txqid)
        { state with handler := { state.handler with txMbufPool := none } } := by
    simp only [createTxPool, createObject, Dpdk.create, taken, if_true]
    rfl
  rw [start, threads]
  exact bind_of_error _ failed

/-- An object that exists still exists after one more creation. -/
theorem inUse_added_of_inUse {dpdk : Dpdk} (used : dpdk.inUse name = true) (other : String) :
    (added dpdk other).inUse name = true := by
  rw [inUse_added, used, Bool.or_true]

/-- `start` destroys nothing, on any of its paths. -/
theorem start_keeps (settings : HandlerSettings) (outcomes : CreateOutcomes)
    (used : state.dpdk.inUse name = true) :
    (stateAfter (start settings outcomes state)).dpdk.inUse name = true := by
  cases threads : settings.nofThreads with
  | error what =>
      rw [start_unread threads]
      exact used
  | ok nofThreads =>
      have ends := start_ends threads outcomes state
      generalize start settings outcomes state = result at ends ⊢
      cases ends with
      | noTxPool what refused => exact used
      | noRxPool what tx refused => exact inUse_added_of_inUse used _
      | noTxRing what tx rx refused => exact inUse_added_of_inUse (inUse_added_of_inUse used _) _
      | launched rxRing tx rx ring =>
          exact inUse_added_of_inUse (inUse_added_of_inUse (inUse_added_of_inUse used _) _) _

/-- A successful `start` leaves its transmit pool behind. -/
theorem start_takes {next : StartState} {workers : List Worker}
    (started : start settings outcomes state = .ok workers next) :
    next.dpdk.inUse state.handler.txPoolName = true := by
  obtain ⟨nofThreads, threads, _⟩ := start_workers started
  have ends := start_ends threads outcomes state
  rw [started] at ends
  cases ends with
  | launched rxRing tx rx ring =>
      apply inUse_added_of_inUse
      apply inUse_added_of_inUse
      rw [inUse_added, beq_self_eq_true, Bool.true_or]

end
end PortHandlerLoopback

/-- After a handler was started, the same call fails because its transmit pool exists. -/
def HandlerCall.RefusedAfter (earlier later : HandlerCall) : Prop :=
  ∀ call, earlier.startedCall = some call → later.startCall = some call →
    later = .failed call (PortHandlerLoopback.poolExists call.vid call.txqid)

instance (earlier later : HandlerCall) : Decidable (earlier.RefusedAfter later) :=
  match started : earlier.startedCall with
  | none => isTrue fun call own => by simp [started] at own
  | some call =>
      decidable_of_iff (later.startCall = some call →
        later = .failed call (PortHandlerLoopback.poolExists call.vid call.txqid))
        ⟨fun refused other own => by
            obtain rfl := Option.some.inj (started.symm.trans own)
            exact refused,
          fun refused => refused call started⟩

namespace PortControllerLoopback
open PortHandlerLoopback (objectName poolExists start_keeps start_taken start_takes start_workers stateAfter)

/-- The configuration could be read, and the transmit pool of every started handler exists. -/
def Taken (settings : HandlerSettings) (controller : PortControllerLoopback) (calls : List HandlerCall) : Prop :=
  ∀ call ∈ startedCalls calls, (∃ nofThreads, settings.nofThreads = .ok nofThreads) ∧
    controller.dpdk.inUse (objectName "TX_MBUF_POOL_" call.vid call.txqid) = true

section
variable {settings : HandlerSettings} {controller next final : PortControllerLoopback}
  {notification : Notification} {calls later : List HandlerCall} {history : List Notification}

/-- The handler of a ring pair names its transmit pool by the device and the odd ring. -/
theorem txPoolName_bindPair (deviceId : Int) {pair : Nat} (inside : pair < 8) :
    (controller.bindPair deviceId pair inside).handler.txPoolName =
      objectName "TX_MBUF_POOL_" deviceId (2 * (pair : Int) + 1) := by
  simp only [bindPair, PortHandlerLoopback.txPoolName, PortHandlerLoopback.setVid,
    PortHandlerLoopback.setRxqid, PortHandlerLoopback.setTxqid]

/-- A guarded start destroys nothing. -/
theorem attempt_keeps {outcomes : CreateOutcomes} {call : StartCall} {state : StartState} {name : String}
    (used : state.dpdk.inUse name = true) :
    (attempt settings outcomes call state).1.dpdk.inUse name = true := by
  have kept := start_keeps settings outcomes used
  unfold attempt
  cases result : PortHandlerLoopback.start settings outcomes state with
  | ok workers next =>
      rw [result] at kept
      exact kept
  | error what next =>
      rw [result] at kept
      exact kept

/-- No notification destroys an object. -/
theorem Effect.keeps (effect : Effect settings controller notification next later) {name : String}
    (used : controller.dpdk.inUse name = true) : next.dpdk.inUse name = true := by
  cases effect with
  | destroyed gone => exact used
  | recorded qid ready ring named inside incomplete => exact used
  | bound pair inside ring named complete result attempted =>
      rw [attempted]
      exact attempt_keeps used

/-- The call of a guarded start is the pair of its handler. -/
theorem attempt_startedCall {outcomes : CreateOutcomes} {call other : StartCall} {state : StartState}
    (own : (attempt settings outcomes call state).2.startedCall = some other) :
    other = call ∧ ∃ workers, PortHandlerLoopback.start settings outcomes state =
      .ok workers (attempt settings outcomes call state).1 := by
  revert own
  unfold attempt
  cases PortHandlerLoopback.start settings outcomes state with
  | ok workers after =>
      intro own
      exact ⟨(Option.some.inj own).symm, workers, rfl⟩
  | error what after =>
      intro own
      simp [HandlerCall.startedCall] at own

/-- Every notification keeps the pools of the started handlers and adds its own. -/
theorem Effect.taken (effect : Effect settings controller notification next later)
    (taken : Taken settings controller calls) : Taken settings next (calls ++ later) := by
  intro call started
  rw [startedCalls, List.filterMap_append, List.mem_append] at started
  rcases started with before | now
  · exact ⟨(taken call before).1, effect.keeps (taken call before).2⟩
  · cases effect with
    | destroyed gone => simp [stopAll, HandlerCall.startedCall] at now
    | recorded qid ready ring named inside incomplete => simp at now
    | bound pair inside ring named complete result attempted =>
        subst attempted
        obtain ⟨event, member, own⟩ := List.mem_filterMap.mp now
        rw [List.mem_singleton.mp member] at own
        obtain ⟨rfl, workers, started⟩ := attempt_startedCall own
        obtain ⟨nofThreads, threads, _⟩ := start_workers started
        have pool := start_takes started
        rw [txPoolName_bindPair] at pool
        exact ⟨⟨nofThreads, threads⟩, pool⟩

/-- A guarded start whose pool exists is refused for this reason. -/
theorem attempt_taken {nofThreads : Int} (threads : settings.nofThreads = .ok nofThreads)
    {outcomes : CreateOutcomes} {deviceId : Int} {pair : Nat} (inside : pair < 8)
    (taken : controller.dpdk.inUse
      (objectName "TX_MBUF_POOL_" (pairCall deviceId pair).vid (pairCall deviceId pair).txqid) = true) :
    (attempt settings outcomes (pairCall deviceId pair) (controller.bindPair deviceId pair inside)).2 =
      .failed (pairCall deviceId pair)
        (poolExists (pairCall deviceId pair).vid (pairCall deviceId pair).txqid) := by
  have used : (controller.bindPair deviceId pair inside).dpdk.inUse
      (controller.bindPair deviceId pair inside).handler.txPoolName = true := by
    rw [txPoolName_bindPair]
    exact taken
  simp only [attempt, start_taken threads used]
  rfl

/-- A notification after a successful start does not start the same pair again. -/
theorem Effect.refusedAfter (effect : Effect settings controller notification next later)
    (taken : Taken settings controller calls) :
    ∀ earlier ∈ calls, ∀ event ∈ later, earlier.RefusedAfter event := by
  intro earlier past event now call started again
  obtain ⟨⟨nofThreads, threads⟩, used⟩ := taken call (List.mem_filterMap.mpr ⟨earlier, past, started⟩)
  cases effect with
  | destroyed gone =>
      simp only [stopAll, List.mem_map] at now
      obtain ⟨handler, _, rfl⟩ := now
      simp [HandlerCall.startCall] at again
  | recorded qid ready ring named inside incomplete => simp at now
  | bound pair inside ring named complete result attempted =>
      subst attempted
      rw [List.mem_singleton] at now
      rw [now, attempt_startCall] at again
      obtain rfl := Option.some.inj again
      rw [now]
      exact attempt_taken threads inside used

/-- One notification reports at most one start. -/
theorem Effect.pairwise (effect : Effect settings controller notification next later) :
    later.Pairwise HandlerCall.RefusedAfter := by
  cases effect with
  | destroyed gone =>
      apply List.pairwise_of_forall_mem_list
      intro earlier member event _ call started
      obtain ⟨handler, _, rfl⟩ := List.mem_map.mp member
      simp [HandlerCall.startedCall] at started
  | recorded qid ready ring named inside incomplete => exact .nil
  | bound pair inside ring named complete result attempted => exact List.pairwise_singleton ..

/-- In a whole run a handler is started at most once for each ring pair of each device:
every later `start` for the pair is refused, because nothing frees the pool of the first one. -/
theorem refusedAfter_run (ran : (machine settings).run initial history = some (final, calls)) :
    calls.Pairwise HandlerCall.RefusedAfter := by
  have kept := (machine settings).run_history
    (fun _ state emitted => state.Sized ∧ Taken settings state emitted ∧ emitted.Pairwise HandlerCall.RefusedAfter)
    ⟨sized_initial, by simp [Taken, startedCalls], .nil⟩
    (by
      intro past state emitted input after more _ held stepped
      obtain ⟨sized, taken, refused⟩ := held
      have effect := effect_of_step sized stepped
      apply And.intro (effect.sized sized)
      apply And.intro (effect.taken taken)
      rw [List.pairwise_append]
      apply And.intro refused
      apply And.intro effect.pairwise
      exact effect.refusedAfter taken)
    ran
  exact kept.2.2

end
end PortControllerLoopback

end Vtb

import Vtb.Construction.PortHandler

namespace Vtb
namespace PortHandlerLoopback

/-- A decimal number has no underscore. -/
theorem underscore_not_mem_toString (number : Int) : '_' ∉ (toString number).toList := by
  rw [Int.toString_eq_repr, Int.repr_eq_if]
  split_ifs <;> simp

theorem toDigits_inj {first second : Nat} (same : Nat.toDigits 10 first = Nat.toDigits 10 second) :
    first = second := by
  have values := congrArg (fun digits => Nat.ofDigitChars 10 digits 0) same
  simpa using values

/-- The digits of a number do not start with a sign. -/
theorem toDigits_ne_sign (number : Nat) (rest : List Char) : Nat.toDigits 10 number ≠ '-' :: rest := by
  intro same
  have digit := Nat.isDigit_of_mem_toDigits (b := 10) (n := number) (c := '-') (by decide) (by decide)
    (by simp [same])
  exact absurd digit (by decide)

/-- `std::to_string` gives different texts to different numbers. -/
theorem toString_inj {first second : Int} (same : toString first = toString second) :
    first = second := by
  rw [Int.toString_eq_repr, Int.toString_eq_repr, Int.repr_eq_if, Int.repr_eq_if] at same
  have texts := congrArg String.toList same
  split_ifs at texts
  · have digits := toDigits_inj (by simpa using texts)
    omega
  · have sign : '-' :: Nat.toDigits 10 (-second).toNat = Nat.toDigits 10 first.toNat := by
      simpa using texts.symm
    exact absurd sign.symm (toDigits_ne_sign _ _)
  · have sign : '-' :: Nat.toDigits 10 (-first).toNat = Nat.toDigits 10 second.toNat := by
      simpa using texts
    exact absurd sign.symm (toDigits_ne_sign _ _)
  · have digits := toDigits_inj (by simpa using texts)
    omega

/-- Two texts split at their only underscore in one way. -/
theorem split_at_underscore {left right first second : List Char} (leftClean : '_' ∉ left)
    (firstClean : '_' ∉ first) (same : left ++ '_' :: right = first ++ '_' :: second) :
    left = first ∧ right = second := by
  induction left generalizing first with
  | nil =>
      cases first with
      | nil => simpa using same
      | cons char rest =>
          obtain ⟨rfl, _⟩ := List.cons.inj same
          simp at firstClean
  | cons char rest ih =>
      cases first with
      | nil =>
          obtain ⟨rfl, _⟩ := List.cons.inj same
          simp at leftClean
      | cons other more =>
          obtain ⟨rfl, tail⟩ := List.cons.inj same
          simp only [List.mem_cons, not_or] at leftClean firstClean
          obtain ⟨rfl, rest⟩ := ih leftClean.2 firstClean.2 tail
          exact ⟨rfl, rest⟩

/-- The names of one family are unique for each device and queue. -/
theorem objectName_inj {family : String} {vid queue otherVid otherQueue : Int} :
    objectName family vid queue = objectName family otherVid otherQueue ↔
      vid = otherVid ∧ queue = otherQueue := by
  constructor
  · intro same
    have texts := congrArg String.toList same
    simp only [objectName, String.toList_append, List.append_assoc, List.append_cancel_left_eq,
      show "_".toList = ['_'] from rfl, List.singleton_append] at texts
    obtain ⟨vids, queues⟩ := split_at_underscore (underscore_not_mem_toString vid)
      (underscore_not_mem_toString otherVid) texts
    exact ⟨toString_inj (String.toList_inj.mp vids), toString_inj (String.toList_inj.mp queues)⟩
  · rintro ⟨rfl, rfl⟩
    rfl

/-- The three objects that the handler of a ring pair creates for a device. -/
def pairNames (vid : Int) (pair : Nat) : List String :=
  [objectName "TX_MBUF_POOL_" vid (2 * (pair : Int) + 1),
    objectName "RX_MBUF_POOL_" vid (2 * (pair : Int)),
    objectName "TX_RING_" vid (2 * (pair : Int) + 1)]

/-- The families have different prefixes. -/
theorem objectName_families (vid queue otherVid otherQueue : Int) :
    objectName "TX_MBUF_POOL_" vid queue ≠ objectName "RX_MBUF_POOL_" otherVid otherQueue ∧
      objectName "TX_MBUF_POOL_" vid queue ≠ objectName "TX_RING_" otherVid otherQueue ∧
      objectName "RX_MBUF_POOL_" vid queue ≠ objectName "TX_RING_" otherVid otherQueue := by
  simp [objectName, ← String.toList_inj]

/-- An object belongs to one device and one ring pair. -/
theorem pairNames_inj {name : String} {vid otherVid : Int} {pair otherPair : Nat}
    (own : name ∈ pairNames vid pair) (other : name ∈ pairNames otherVid otherPair) :
    vid = otherVid ∧ pair = otherPair := by
  have families := objectName_families
  simp only [pairNames, List.mem_cons, List.not_mem_nil, or_false] at own other
  rcases own with rfl | rfl | rfl <;> rcases other with same | same | same
  · obtain ⟨rfl, queues⟩ := objectName_inj.mp same
    exact ⟨rfl, by omega⟩
  · exact absurd same (families ..).1
  · exact absurd same (families ..).2.1
  · exact absurd same.symm (families ..).1
  · obtain ⟨rfl, queues⟩ := objectName_inj.mp same
    exact ⟨rfl, by omega⟩
  · exact absurd same (families ..).2.2
  · exact absurd same.symm (families ..).2.1
  · exact absurd same.symm (families ..).2.2
  · obtain ⟨rfl, queues⟩ := objectName_inj.mp same
    exact ⟨rfl, by omega⟩

/-- DPDK grants a creation that is not refused under a name that is not in use. -/
def Grants (dpdk : Dpdk) (name : String) (refusal : Option Int) : Prop :=
  refusal = none ∧ dpdk.inUse name = false

instance (dpdk : Dpdk) (name : String) (refusal : Option Int) : Decidable (Grants dpdk name refusal) :=
  inferInstanceAs (Decidable (_ ∧ _))

/-- DPDK after one more creation. -/
def added (dpdk : Dpdk) (name : String) : Dpdk :=
  ⟨⟨dpdk.nextHandle, name⟩ :: dpdk.objects, dpdk.nextHandle + 1⟩

/-- A creation adds exactly its own name. -/
@[simp] theorem inUse_added (dpdk : Dpdk) (name other : String) :
    (added dpdk name).inUse other = (name == other || dpdk.inUse other) := rfl

/-- A granted creation assigns the next handle; every other one clears the pointer and throws. -/
theorem createObject_cases (message name : String) (refusal : Option Int)
    (assign : PortHandlerLoopback → Option Handle → PortHandlerLoopback) (state : StartState) :
    (Grants state.dpdk name refusal ∧ createObject message name refusal assign state =
      .ok () ⟨assign state.handler (some state.dpdk.nextHandle), added state.dpdk name⟩) ∨
    (¬ Grants state.dpdk name refusal ∧ ∃ what, createObject message name refusal assign state =
      .error what { state with handler := assign state.handler none }) := by
  unfold createObject Dpdk.create Grants
  cases used : state.dpdk.inUse name with
  | true => exact Or.inr ⟨by simp, _, rfl⟩
  | false =>
      cases refusal with
      | some errno => exact Or.inr ⟨by simp, _, rfl⟩
      | none => exact Or.inl ⟨by simp, rfl⟩

theorem createTxPool_cases (refusal : Option Int) (state : StartState) :
    (Grants state.dpdk state.handler.txPoolName refusal ∧ createTxPool refusal state = .ok ()
      ⟨{ state.handler with txMbufPool := some state.dpdk.nextHandle },
        added state.dpdk state.handler.txPoolName⟩) ∨
    (¬ Grants state.dpdk state.handler.txPoolName refusal ∧ ∃ what, createTxPool refusal state =
      .error what { state with handler := { state.handler with txMbufPool := none } }) :=
  createObject_cases ..

theorem createRxPool_cases (refusal : Option Int) (state : StartState) :
    (Grants state.dpdk state.handler.rxPoolName refusal ∧ createRxPool refusal state = .ok ()
      ⟨{ state.handler with rxMbufPool := some state.dpdk.nextHandle },
        added state.dpdk state.handler.rxPoolName⟩) ∨
    (¬ Grants state.dpdk state.handler.rxPoolName refusal ∧ ∃ what, createRxPool refusal state =
      .error what { state with handler := { state.handler with rxMbufPool := none } }) :=
  createObject_cases ..

theorem createTxRing_cases (refusal : Option Int) (state : StartState) :
    (Grants state.dpdk state.handler.txRingName refusal ∧ createTxRing refusal state = .ok ()
      ⟨{ state.handler with txRing := some state.dpdk.nextHandle },
        added state.dpdk state.handler.txRingName⟩) ∨
    (¬ Grants state.dpdk state.handler.txRingName refusal ∧ ∃ what, createTxRing refusal state =
      .error what { state with handler := { state.handler with txRing := none } }) :=
  createObject_cases ..

/-- The threads of one mode and number. -/
def workersOf (mode : String) (nofThreads : Int) : List Worker :=
  if mode = "Loopback" then
    if nofThreads = 1 then [.txRx] else if nofThreads = 2 then [.tx, .rx] else []
  else []

/-- The last part of `start` creates nothing and touches the rx ring only. -/
theorem launch_cases (mode : String) (nofThreads : Int) (state : StartState) :
    ∃ rxRing, launch mode nofThreads state =
      .ok (workersOf mode nofThreads) ⟨{ state.handler with rxRing }, state.dpdk⟩ := by
  unfold launch workersOf
  split_ifs <;> exact ⟨_, rfl⟩

/-- The four ends of a `start` behind its configuration: one of its creations is not granted, or all are.
Each creation takes the next handle. -/
inductive Ends (mode : String) (nofThreads : Int) (outcomes : CreateOutcomes) (state : StartState) :
    EStateM.Result String StartState (List Worker) → Prop where
  | noTxPool (what : String) (refused : ¬ Grants state.dpdk state.handler.txPoolName outcomes.txPool) :
      Ends mode nofThreads outcomes state
        (.error what { state with handler := { state.handler with txMbufPool := none } })
  | noRxPool (what : String) (tx : Grants state.dpdk state.handler.txPoolName outcomes.txPool)
      (refused : ¬ Grants (added state.dpdk state.handler.txPoolName) state.handler.rxPoolName outcomes.rxPool) :
      Ends mode nofThreads outcomes state (.error what
        ⟨{ state.handler with txMbufPool := some state.dpdk.nextHandle, rxMbufPool := none },
          added state.dpdk state.handler.txPoolName⟩)
  | noTxRing (what : String) (tx : Grants state.dpdk state.handler.txPoolName outcomes.txPool)
      (rx : Grants (added state.dpdk state.handler.txPoolName) state.handler.rxPoolName outcomes.rxPool)
      (refused : ¬ Grants (added (added state.dpdk state.handler.txPoolName) state.handler.rxPoolName)
        state.handler.txRingName outcomes.txRing) :
      Ends mode nofThreads outcomes state (.error what
        ⟨{ state.handler with
            txMbufPool := some state.dpdk.nextHandle
            rxMbufPool := some (state.dpdk.nextHandle + 1)
            txRing := none },
          added (added state.dpdk state.handler.txPoolName) state.handler.rxPoolName⟩)
  | launched (rxRing : Option Handle) (tx : Grants state.dpdk state.handler.txPoolName outcomes.txPool)
      (rx : Grants (added state.dpdk state.handler.txPoolName) state.handler.rxPoolName outcomes.rxPool)
      (ring : Grants (added (added state.dpdk state.handler.txPoolName) state.handler.rxPoolName)
        state.handler.txRingName outcomes.txRing) :
      Ends mode nofThreads outcomes state (.ok (workersOf mode nofThreads)
        ⟨{ state.handler with
            txMbufPool := some state.dpdk.nextHandle
            rxMbufPool := some (state.dpdk.nextHandle + 1)
            txRing := some (state.dpdk.nextHandle + 2)
            rxRing },
          added (added (added state.dpdk state.handler.txPoolName) state.handler.rxPoolName)
            state.handler.txRingName⟩)

section
variable {α β : Type} (call : EStateM String StartState α) {continuation : α → EStateM String StartState β}
  {state after : StartState}

theorem bind_of_ok {value : α} (returned : call state = .ok value after) :
    (call >>= continuation) state = continuation value after := by
  change EStateM.bind call continuation state = _
  rw [EStateM.bind, returned]

theorem bind_of_error {what : String} (thrown : call state = .error what after) :
    (call >>= continuation) state = .error what after := by
  change EStateM.bind call continuation state = _
  rw [EStateM.bind, thrown]

end

section
variable {settings : HandlerSettings} {nofThreads : Int} {outcomes : CreateOutcomes}

/-- Every `start` behind its configuration has one of the four ends. -/
theorem start_ends (threads : settings.nofThreads = .ok nofThreads) (outcomes : CreateOutcomes)
    (state : StartState) : Ends settings.mode nofThreads outcomes state (start settings outcomes state) := by
  have called : start settings outcomes = (do
      createTxPool outcomes.txPool
      createRxPool outcomes.rxPool
      createTxRing outcomes.txRing
      launch settings.mode nofThreads) := by
    rw [start, threads]
  rw [called]
  rcases createTxPool_cases outcomes.txPool state with ⟨tx, created⟩ | ⟨refused, what, failed⟩
  · rw [bind_of_ok _ created]
    rcases createRxPool_cases outcomes.rxPool _ with ⟨rx, created⟩ | ⟨refused, what, failed⟩
    · rw [bind_of_ok _ created]
      rcases createTxRing_cases outcomes.txRing _ with ⟨ring, created⟩ | ⟨refused, what, failed⟩
      · rw [bind_of_ok _ created]
        obtain ⟨rxRing, launched⟩ := launch_cases settings.mode nofThreads _
        rw [launched]
        exact .launched rxRing tx rx ring
      · rw [bind_of_error _ failed]
        exact .noTxRing what tx rx refused
    · rw [bind_of_error _ failed]
      exact .noRxPool what tx refused
  · rw [bind_of_error _ failed]
    exact .noTxPool what refused

/-- A `start` that cannot read its configuration changes nothing. -/
theorem start_unread {what : String} (unread : settings.nofThreads = .error what)
    (outcomes : CreateOutcomes) (state : StartState) : start settings outcomes state = .error what state := by
  rw [start, unread]
  rfl

/-- The state that a call leaves, whether it returns or throws. -/
def stateAfter {α : Type} : EStateM.Result String StartState α → StartState
  | .ok _ state => state
  | .error _ state => state

/-- The handler keeps its numbers, and DPDK gains only objects of the handler's names. -/
structure Grown (first last : StartState) : Prop where
  vid : last.handler.vid = first.handler.vid
  rxqid : last.handler.rxqid = first.handler.rxqid
  txqid : last.handler.txqid = first.handler.txqid
  names : ∀ name, last.dpdk.inUse name = true → first.dpdk.inUse name = true ∨
    name = first.handler.txPoolName ∨ name = first.handler.rxPoolName ∨ name = first.handler.txRingName

/-- `start` grows the state on every path. -/
theorem start_grown (settings : HandlerSettings) (outcomes : CreateOutcomes) (state : StartState) :
    Grown state (stateAfter (start settings outcomes state)) := by
  cases threads : settings.nofThreads with
  | error what =>
      rw [start_unread threads]
      exact ⟨rfl, rfl, rfl, fun _ used => Or.inl used⟩
  | ok nofThreads =>
      have ends := start_ends threads outcomes state
      generalize start settings outcomes state = result at ends ⊢
      cases ends with
      | noTxPool what refused => exact ⟨rfl, rfl, rfl, fun _ used => Or.inl used⟩
      | noRxPool what tx refused =>
          refine ⟨rfl, rfl, rfl, ?_⟩
          intro name used
          simp only [stateAfter, inUse_added, Bool.or_eq_true, beq_iff_eq] at used
          tauto
      | noTxRing what tx rx refused =>
          refine ⟨rfl, rfl, rfl, ?_⟩
          intro name used
          simp only [stateAfter, inUse_added, Bool.or_eq_true, beq_iff_eq] at used
          tauto
      | launched rxRing tx rx ring =>
          refine ⟨rfl, rfl, rfl, ?_⟩
          intro name used
          simp only [stateAfter, inUse_added, Bool.or_eq_true, beq_iff_eq] at used
          tauto

/-- `start` leaves `is_running_` to the threads that it launches. -/
theorem start_isRunning (settings : HandlerSettings) (outcomes : CreateOutcomes) (state : StartState) :
    (stateAfter (start settings outcomes state)).handler.isRunning = state.handler.isRunning := by
  cases threads : settings.nofThreads with
  | error what =>
      rw [start_unread threads]
      rfl
  | ok nofThreads =>
      have ends := start_ends threads outcomes state
      generalize start settings outcomes state = result at ends ⊢
      cases ends <;> rfl

/-- `start` succeeds when its three names are unused and nothing is refused. -/
theorem start_granted (threads : settings.nofThreads = .ok nofThreads) (state : StartState)
    (txUnused : state.dpdk.inUse state.handler.txPoolName = false)
    (rxUnused : state.dpdk.inUse state.handler.rxPoolName = false)
    (ringUnused : state.dpdk.inUse state.handler.txRingName = false) :
    ∃ workers next, start settings .granted state = .ok workers next := by
  have families := objectName_families state.handler.vid
  have txRx : state.handler.txPoolName ≠ state.handler.rxPoolName := (families ..).1
  have txRing : state.handler.txPoolName ≠ state.handler.txRingName := (families ..).2.1
  have rxRing : state.handler.rxPoolName ≠ state.handler.txRingName := (families ..).2.2
  have ends := start_ends threads .granted state
  cases ended : start settings .granted state with
  | ok workers next => exact ⟨workers, next, rfl⟩
  | error what next =>
      rw [ended] at ends
      cases ends with
      | noTxPool what refused => exact absurd ⟨rfl, txUnused⟩ refused
      | noRxPool what tx refused => exact absurd ⟨rfl, by simp [txRx, rxUnused]⟩ refused
      | noTxRing what tx rx refused => exact absurd ⟨rfl, by simp [txRing, rxRing, ringUnused]⟩ refused

/-- A successful `start` launches the threads of its mode and number. -/
theorem start_workers {state next : StartState} {workers : List Worker}
    (started : start settings outcomes state = .ok workers next) :
    ∃ nofThreads, settings.nofThreads = .ok nofThreads ∧ workers = workersOf settings.mode nofThreads := by
  cases threads : settings.nofThreads with
  | error what =>
      rw [start_unread threads] at started
      simp at started
  | ok nofThreads =>
      have ends := start_ends threads outcomes state
      rw [started] at ends
      cases ends with
      | launched rxRing tx rx ring => exact ⟨nofThreads, rfl, rfl⟩

/-- A successful `start` was refused nothing and found its three names unused. -/
theorem start_unused {state next : StartState} {workers : List Worker}
    (started : start settings outcomes state = .ok workers next) :
    outcomes = .granted ∧ state.dpdk.inUse state.handler.txPoolName = false ∧
      state.dpdk.inUse state.handler.rxPoolName = false ∧
      state.dpdk.inUse state.handler.txRingName = false := by
  obtain ⟨nofThreads, threads, _⟩ := start_workers started
  have ends := start_ends threads outcomes state
  rw [started] at ends
  cases ends with
  | launched rxRing tx rx ring =>
      simp only [Grants, inUse_added, Bool.or_eq_false_iff] at tx rx ring
      refine ⟨?_, tx.2, rx.2.2, ring.2.2.2⟩
      cases outcomes
      simp only [CreateOutcomes.granted, CreateOutcomes.mk.injEq]
      exact ⟨tx.1, rx.1, ring.1⟩

end

end PortHandlerLoopback

/-- The threads that a successful `start` launches under the settings. -/
def HandlerSettings.launches (settings : HandlerSettings) : List Worker :=
  match settings.nofThreads with
  | .error _ => []
  | .ok nofThreads => PortHandlerLoopback.workersOf settings.mode nofThreads

end Vtb

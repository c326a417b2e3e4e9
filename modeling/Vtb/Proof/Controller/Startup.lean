import Vtb.Proof.Controller.Refinement
import Vtb.Proof.Controller.Running

namespace Vtb
open Library

/-- The successful call of `start` that an event reports. -/
def HandlerCall.startedCall : HandlerCall → Option StartCall
  | .started call _ => some call
  | .stopped _ => none
  | .failed _ _ => none

/-- The handlers that a run started, each with its three numbers. -/
def startedCalls (calls : List HandlerCall) : List StartCall := calls.filterMap HandlerCall.startedCall

namespace PortControllerLoopback
open PortHandlerLoopback (pairNames pairNames_inj)

/-- A start call determines its device and its ring pair. -/
theorem pairCall_inj {deviceId otherId : Int} {pair other : Nat} :
    pairCall deviceId pair = pairCall otherId other ↔ deviceId = otherId ∧ pair = other := by
  simp only [pairCall, StartCall.mk.injEq]
  omega

/-- Every object that exists belongs to a ring pair of a known device. -/
def Registered (controller : PortControllerLoopback) : Prop :=
  ∀ name, controller.dpdk.inUse name = true →
    ∃ vid pair, (controller.pmap[vid]?).isSome ∧ name ∈ pairNames vid pair

section
variable {settings : HandlerSettings} {controller next : PortControllerLoopback}
  {notification : Notification} {calls later : List HandlerCall}

/-- A guarded start for a ring pair adds objects of that pair only. -/
theorem attempt_names {outcomes : CreateOutcomes} {call : StartCall} {deviceId : Int} {pair : Nat}
    (inside : pair < 8) {name : String}
    (used : (attempt settings outcomes call
      (controller.bindPair deviceId pair inside)).1.dpdk.inUse name = true) :
    controller.dpdk.inUse name = true ∨ name ∈ pairNames deviceId pair := by
  rcases attempt_grown.names name used with before | own
  · exact .inl before
  · apply Or.inr
    simp only [pairNames, List.mem_cons, List.not_mem_nil, or_false]
    exact own

/-- A guarded start succeeds when no object of its ring pair exists and DPDK refuses nothing. -/
theorem attempt_started {nofThreads : Int} (threads : settings.nofThreads = .ok nofThreads)
    (call : StartCall) {deviceId : Int} {pair : Nat} (inside : pair < 8)
    (unused : ∀ name ∈ pairNames deviceId pair, controller.dpdk.inUse name = false) :
    ∃ workers, (attempt settings .granted call (controller.bindPair deviceId pair inside)).2 =
      .started call workers := by
  obtain ⟨workers, after, success⟩ := PortHandlerLoopback.start_granted threads
    (controller.bindPair deviceId pair inside)
    (unused _ (by simp [pairNames, bindPair, PortHandlerLoopback.txPoolName,
      PortHandlerLoopback.setVid, PortHandlerLoopback.setRxqid, PortHandlerLoopback.setTxqid]))
    (unused _ (by simp [pairNames, bindPair, PortHandlerLoopback.rxPoolName,
      PortHandlerLoopback.setVid, PortHandlerLoopback.setRxqid, PortHandlerLoopback.setTxqid]))
    (unused _ (by simp [pairNames, bindPair, PortHandlerLoopback.txRingName,
      PortHandlerLoopback.setVid, PortHandlerLoopback.setRxqid, PortHandlerLoopback.setTxqid]))
  refine ⟨workers, ?_⟩
  rw [attempt, success]

/-- A ring notification keeps every known device and adds its own. -/
theorem isSome_storeRing {pdrs : PortDeviceRingState} {qid : Nat} {deviceId : Int}
    (known : (controller.pmap[deviceId]?).isSome ∨ deviceId = pdrs.deviceId) :
    ((controller.storeRing pdrs qid)[deviceId]?).isSome := by
  rw [getElem?_storeRing]
  split
  · rfl
  · next different => exact known.resolve_right (Ne.symm different)

/-- Every notification keeps the objects registered. -/
theorem Effect.registered (effect : Effect settings controller notification next later)
    (registered : controller.Registered) : next.Registered := by
  intro name used
  cases effect with
  | destroyed gone => exact registered name used
  | recorded qid ready ring named inside incomplete =>
      obtain ⟨vid, pair, known, own⟩ := registered name used
      exact ⟨vid, pair, isSome_storeRing (.inl known), own⟩
  | bound pair inside ring named complete result attempted =>
      subst attempted
      rcases attempt_names inside used with before | own
      · obtain ⟨vid, other, known, other_own⟩ := registered name before
        exact ⟨vid, other, isSome_storeRing (.inl known), other_own⟩
      · exact ⟨notification.pdrs.deviceId, pair, isSome_storeRing (.inr rfl), own⟩

/-- Every reachable state has registered objects only. -/
theorem registered_run {history : List Notification}
    (reached : (machine settings).run initial history = some (controller, calls)) :
    controller.Registered := by
  have both := (machine settings).run_invariant
    (fun state => state.Sized ∧ state.Registered)
    (by
      apply And.intro sized_initial
      intro name used
      simp [initial, Dpdk.empty, Dpdk.inUse] at used)
    (fun _ _ _ _ held stepped =>
      ⟨(effect_of_step held.1 stepped).sized held.1, (effect_of_step held.1 stepped).registered held.2⟩)
    reached
  exact both.2

/-- No object of an unknown device exists. -/
theorem Registered.unused (registered : controller.Registered) {deviceId : Int}
    (unknown : controller.pmap[deviceId]? = none) {pair : Nat} {name : String}
    (own : name ∈ pairNames deviceId pair) : controller.dpdk.inUse name = false := by
  rw [Bool.eq_false_iff]
  intro used
  obtain ⟨vid, other, known, registeredName⟩ := registered name used
  obtain ⟨rfl, _⟩ := pairNames_inj own registeredName
  simp [unknown] at known

end

/-- An enable of one of the sixteen rings of a device, with all creations granted. -/
def Enables (deviceId : Int) (notification : Notification) : Prop :=
  NamesRing deviceId notification ∧ notification.pdrs.enable = 1 ∧ notification.outcomes = .granted

instance (deviceId : Int) (notification : Notification) : Decidable (Enables deviceId notification) :=
  inferInstanceAs (Decidable (_ ∧ _))

/-- The rings that a sequence mentions. -/
def mentioned (history : List Notification) : List Int :=
  history.map fun notification => notification.pdrs.qid

/-- The table of a device after enables only: one for a mentioned ring, and -1 elsewhere. -/
def enabledTable (rings : List Int) : List Int :=
  (List.range RingTable.ringCount).map fun ring : Nat => if (ring : Int) ∈ rings then 1 else -1

/-- The table without enables is the table of a new device. -/
theorem enabledTable_nil : enabledTable [] = List.replicate RingTable.ringCount (-1) := by
  decide

/-- One more enable sets one ring. -/
theorem enabledTable_concat (rings : List Int) (qid : Nat) :
    (enabledTable rings).set qid 1 = enabledTable (rings ++ [(qid : Int)]) := by
  apply List.ext_getElem
  · simp [enabledTable]
  · intro ring inside _
    simp only [enabledTable, List.getElem_set, List.getElem_map, List.getElem_range, List.mem_append,
      List.mem_singleton, Int.natCast_inj]
    by_cases own : qid = ring
    · simp [own]
    · simp [own, Ne.symm own]

/-- The tables after enables of one device: its own table, and the tables of the start elsewhere. -/
def EnabledTables (start : PortControllerLoopback) (deviceId : Int) (past : List Notification)
    (controller : PortControllerLoopback) : Prop :=
  ∀ other : Int, controller.pmap[other]? =
    if other = deviceId ∧ past ≠ [] then some (enabledTable (mentioned past)) else start.pmap[other]?

/-- Each object of the device belongs to a pair whose handler was started, and every call of `start`
has a successful call with the same numbers. -/
structure Served (deviceId : Int) (controller : PortControllerLoopback) (calls : List HandlerCall) :
    Prop where
  objects : ∀ pair name, name ∈ pairNames deviceId pair → controller.dpdk.inUse name = true →
    pairCall deviceId pair ∈ startedCalls calls
  attempts : ∀ call ∈ calls.filterMap HandlerCall.startCall, call ∈ startedCalls calls

section
variable {settings : HandlerSettings} {nofThreads : Int} {start controller next final : PortControllerLoopback}
  {calls later : List HandlerCall} {deviceId : Int} {past history : List Notification}
  {notification : Notification}

/-- One more enable extends the table of its device. -/
theorem Effect.enabledTables (effect : Effect settings controller notification next later)
    (unknown : start.pmap[deviceId]? = none) (enables : Enables deviceId notification)
    (tables : EnabledTables start deviceId past controller) :
    EnabledTables start deviceId (past ++ [notification]) next := by
  obtain ⟨⟨present, named, _⟩, enabled, _⟩ := enables
  have before : (controller.pmap[deviceId]?).getD (List.replicate RingTable.ringCount (-1)) =
      enabledTable (mentioned past) := by
    rw [tables]
    by_cases fresh : past = []
    · simp [fresh, unknown, mentioned, enabledTable_nil]
    · simp [fresh]
  have stored : ∀ (qid : Nat) (other : Int), notification.pdrs.qid = qid →
      (controller.storeRing notification.pdrs qid)[other]? =
        if other = deviceId ∧ past ++ [notification] ≠ [] then
          some (enabledTable (mentioned (past ++ [notification])))
        else start.pmap[other]? := by
    intro qid other number
    rw [getElem?_storeRing, named]
    by_cases own : other = deviceId
    · have grown : mentioned (past ++ [notification]) = mentioned past ++ [(qid : Int)] := by
        simp [mentioned, number]
      simp only [own, if_true, RingTable.record, before, enabled, enabledTable_concat, grown,
        ne_eq, List.append_eq_nil_iff, List.cons_ne_self, and_false, not_false_eq_true, and_self]
    · rw [if_neg (Ne.symm own), tables other, if_neg (fun both => own both.1),
        if_neg (fun both => own both.1)]
  intro other
  cases effect with
  | destroyed gone => simp [present] at gone
  | recorded qid ready _ number inside incomplete => exact stored qid other number
  | bound pair inside _ number complete result attempted =>
      exact stored (2 * pair + 1) other (by rw [number]; simp)

/-- Enables of a new device store its table and leave the other tables alone. -/
theorem pmap_enables (sized : controller.Sized) (unknown : controller.pmap[deviceId]? = none)
    (enables : ∀ notification ∈ history, Enables deviceId notification)
    (ran : (machine settings).run controller history = some (final, calls)) :
    EnabledTables controller deviceId history final := by
  have both := (machine settings).run_history
    (fun past state _ => (∀ notification ∈ past, Enables deviceId notification) →
      state.Sized ∧ EnabledTables controller deviceId past state)
    (by
      intro _
      exact ⟨sized, fun other => by simp⟩)
    (by
      intro past state emitted input next later _ held stepped allowed
      obtain ⟨heldSized, tables⟩ := held fun notification member =>
        allowed notification (List.mem_append_left _ member)
      have effect := effect_of_step heldSized stepped
      exact ⟨effect.sized heldSized, effect.enabledTables unknown (allowed input (by simp)) tables⟩)
    ran
  exact (both enables).2

/-- One more enable keeps every call of `start` served: its pair was served before, or none of the
objects of the pair exists and the call succeeds. -/
theorem Effect.served (effect : Effect settings controller notification next later)
    (threads : settings.nofThreads = .ok nofThreads) (enables : Enables deviceId notification)
    (served : Served deviceId controller calls) : Served deviceId next (calls ++ later) := by
  obtain ⟨⟨present, named, _⟩, _, granted⟩ := enables
  cases effect with
  | destroyed gone => simp [present] at gone
  | recorded qid ready _ number inside incomplete =>
      rw [List.append_nil]
      exact ⟨served.objects, served.attempts⟩
  | bound pair inside _ number complete result attempted =>
      subst attempted
      rw [named, granted]
      have started : pairCall deviceId pair ∈ startedCalls (calls ++
          [(attempt settings .granted (pairCall deviceId pair)
            (controller.bindPair deviceId pair inside)).2]) := by
        rw [startedCalls, List.filterMap_append, List.mem_append]
        by_cases free : ∀ name ∈ pairNames deviceId pair, controller.dpdk.inUse name = false
        · obtain ⟨workers, success⟩ := attempt_started threads (pairCall deviceId pair) inside free
          exact .inr (by simp [success, HandlerCall.startedCall])
        · push Not at free
          obtain ⟨name, own, used⟩ := free
          exact .inl (served.objects pair name own (by simpa using used))
      constructor
      · intro other name own used
        rcases attempt_names inside used with before | added
        · rw [startedCalls, List.filterMap_append]
          exact List.mem_append_left _ (served.objects other name own before)
        · obtain ⟨_, rfl⟩ := pairNames_inj own added
          exact started
      · intro call member
        rw [List.filterMap_append, List.mem_append] at member
        rcases member with earlier | last
        · rw [startedCalls, List.filterMap_append]
          exact List.mem_append_left _ (served.attempts call earlier)
        · have same : call = pairCall deviceId pair := by simpa [attempt_startCall] using last
          rw [same]
          exact started

/-- Every call of `start` for a new device has a successful call with the same numbers. -/
theorem startedCalls_enables (threads : settings.nofThreads = .ok nofThreads) (sized : controller.Sized)
    (registered : controller.Registered) (unknown : controller.pmap[deviceId]? = none)
    (enables : ∀ notification ∈ history, Enables deviceId notification)
    (ran : (machine settings).run controller history = some (final, calls)) {call : StartCall} :
    call ∈ startedCalls calls ↔ call ∈ calls.filterMap HandlerCall.startCall := by
  have succeeded : ∀ event call, HandlerCall.startedCall event = some call →
      event.startCall = some call := by
    intro event call
    cases event <;> simp [HandlerCall.startedCall, HandlerCall.startCall]
  have unserved : Served deviceId controller [] := by
    refine ⟨?_, by simp⟩
    intro pair name own used
    simp [registered.unused unknown own] at used
  have served := (machine settings).run_history
    (fun past state emitted => (∀ notification ∈ past, Enables deviceId notification) →
      state.Sized ∧ Served deviceId state emitted)
    (fun _ => ⟨sized, unserved⟩)
    (by
      intro past state emitted input next later _ held stepped allowed
      obtain ⟨heldSized, before⟩ := held fun notification member =>
        allowed notification (List.mem_append_left _ member)
      have effect := effect_of_step heldSized stepped
      exact ⟨effect.sized heldSized, effect.served threads (allowed input (by simp)) before⟩)
    ran
  constructor
  · intro member
    obtain ⟨event, inside, started⟩ := List.mem_filterMap.mp member
    exact List.mem_filterMap.mpr ⟨event, inside, succeeded event call started⟩
  · exact (served enables).2.attempts call

/-- Enables of a new device start the handler of a ring pair exactly when an enable of the odd ring
comes after an enable of the even ring. -/
theorem mem_startedCalls_iff (threads : settings.nofThreads = .ok nofThreads) (sized : controller.Sized)
    (registered : controller.Registered) (unknown : controller.pmap[deviceId]? = none)
    (enables : ∀ notification ∈ history, Enables deviceId notification)
    (ran : (machine settings).run controller history = some (final, calls)) (call : StartCall) :
    call ∈ startedCalls calls ↔ ∃ pair : Nat, pair < 8 ∧ call = pairCall deviceId pair ∧
      [2 * (pair : Int), 2 * (pair : Int) + 1].Sublist (mentioned history) := by
  have about : AboutRings deviceId history := by
    intro notification member
    have named := (enables notification member).1
    exact ⟨by rw [named.1]; decide, named.2.1⟩
  have allOn : ∀ setting ∈ history.map ringSetting, setting.2 = true := by
    intro setting member
    obtain ⟨notification, inside, rfl⟩ := List.mem_map.mp member
    simpa [ringSetting] using (enables notification inside).2.1
  have closed : ∀ ring, enabledRings controller deviceId ring = false := by
    intro ring
    simp [enabledRings, RingEnabled, unknown]
  have rings : (history.map ringSetting).map Prod.fst = mentioned history := by
    simp [mentioned, ringSetting]
  rw [startedCalls_enables threads sized registered unknown enables ran, run_refines sized about ran,
    Wiring.mem_fires_iff allOn, rings]
  constructor
  · rintro ⟨qid, partner, wired, ordered⟩
    obtain ⟨odd, rfl, rfl⟩ := ringWiring_guard.mp wired
    simp only [closed, Bool.false_eq_true, false_and, false_or] at ordered
    have member : qid ∈ mentioned history := ordered.subset (by simp)
    obtain ⟨notification, inside, named⟩ := List.mem_map.mp member
    have bounds := (enables notification inside).1.2.2
    rw [named] at bounds
    have even : 2 * ((qid / 2).toNat : Int) = qid - 1 := by omega
    have own : 2 * ((qid / 2).toNat : Int) + 1 = qid := by omega
    refine ⟨(qid / 2).toNat, by omega, rfl, ?_⟩
    rw [own, even]
    exact ordered
  · rintro ⟨pair, _, made, ordered⟩
    have half : (2 * (pair : Int) + 1) / 2 = pair := by omega
    refine ⟨2 * (pair : Int) + 1, 2 * (pair : Int), ringWiring_guard.mpr ⟨by omega, by omega, ?_⟩,
      .inr ordered⟩
    rw [made, half, Int.toNat_natCast]

end

/-- Both ring enables of a pair, in the order that the controller expects. -/
def EvenFirst (pair : Nat) (history : List Notification) : Prop :=
  [2 * (pair : Int), 2 * (pair : Int) + 1].Sublist (mentioned history)

instance (pair : Nat) (history : List Notification) : Decidable (EvenFirst pair history) :=
  inferInstanceAs (Decidable (List.Sublist _ _))

/-- Two runs started the same handlers with the same numbers, and stored the same tables. -/
structure SameStartup (one two : PortControllerLoopback × List HandlerCall) : Prop where
  tables : one.1.pmap = two.1.pmap
  handlers : ∀ call, call ∈ startedCalls one.2 ↔ call ∈ startedCalls two.2

/-- The handler of each ring pair was started exactly when both rings were enabled. -/
def StartsEnabledPairs (deviceId : Int) (history : List Notification) (calls : List HandlerCall) : Prop :=
  ∀ pair : Nat, pair < 8 → (pairCall deviceId pair ∈ startedCalls calls ↔
    2 * (pair : Int) ∈ mentioned history ∧ 2 * (pair : Int) + 1 ∈ mentioned history)

section
variable {settings : HandlerSettings} {nofThreads : Int} {controller final other : PortControllerLoopback}
  {calls otherCalls : List HandlerCall} {deviceId : Int} {first second : List Notification}

/-- The handler of a pair was started exactly when the even ring was enabled first. -/
theorem pairCall_mem_startedCalls (threads : settings.nofThreads = .ok nofThreads)
    (sized : controller.Sized) (registered : controller.Registered)
    (unknown : controller.pmap[deviceId]? = none)
    (enables : ∀ notification ∈ first, Enables deviceId notification)
    (ran : (machine settings).run controller first = some (final, calls)) {pair : Nat} (small : pair < 8) :
    pairCall deviceId pair ∈ startedCalls calls ↔ EvenFirst pair first := by
  rw [mem_startedCalls_iff threads sized registered unknown enables ran]
  constructor
  · rintro ⟨_, _, made, ordered⟩
    obtain ⟨_, rfl⟩ := pairCall_inj.mp made
    exact ordered
  · intro ordered
    exact ⟨pair, small, rfl, ordered⟩

/-- Enables of the same rings store the same tables. -/
theorem pmap_eq_of_same_rings (sized : controller.Sized) (unknown : controller.pmap[deviceId]? = none)
    (firstEnables : ∀ notification ∈ first, Enables deviceId notification)
    (secondEnables : ∀ notification ∈ second, Enables deviceId notification)
    (same : ∀ ring, ring ∈ mentioned first ↔ ring ∈ mentioned second)
    (ran : (machine settings).run controller first = some (final, calls))
    (ranOther : (machine settings).run controller second = some (other, otherCalls)) :
    final.pmap = other.pmap := by
  apply Std.ExtTreeMap.ext_getElem?
  intro key
  rw [pmap_enables sized unknown firstEnables ran, pmap_enables sized unknown secondEnables ranOther]
  have table : enabledTable (mentioned first) = enabledTable (mentioned second) := by
    simp only [enabledTable, same]
  have empty : first ≠ [] ↔ second ≠ [] := by
    have rings : mentioned first = [] ↔ mentioned second = [] := by
      rw [List.eq_nil_iff_forall_not_mem, List.eq_nil_iff_forall_not_mem]
      simp only [same]
    simpa [mentioned] using not_congr rings
  simp only [table, empty]

end

/-- Two enable sequences of a new device that mention the same rings start the same handlers, namely
those whose rings are both enabled, exactly when each such pair has an enable of its even ring
before an enable of its odd ring in both sequences. -/
theorem startup_order_iff (settings : HandlerSettings) {nofThreads : Int}
    (threads : settings.nofThreads = .ok nofThreads) {past : List Notification}
    {controller : PortControllerLoopback} {earlier : List HandlerCall}
    (reached : (machine settings).run initial past = some (controller, earlier))
    {deviceId : Int} (unknown : controller.pmap[deviceId]? = none) {first second : List Notification}
    (firstEnables : ∀ notification ∈ first, Enables deviceId notification)
    (secondEnables : ∀ notification ∈ second, Enables deviceId notification)
    (same : ∀ ring, ring ∈ mentioned first ↔ ring ∈ mentioned second) :
    ∃ one two, (machine settings).run controller first = some one ∧
      (machine settings).run controller second = some two ∧
      (SameStartup one two ∧ StartsEnabledPairs deviceId first one.2 ↔
        ∀ pair : Nat, pair < 8 → 2 * (pair : Int) ∈ mentioned first →
          2 * (pair : Int) + 1 ∈ mentioned first → EvenFirst pair first ∧ EvenFirst pair second) := by
  have sized := sized_run sized_initial reached
  have registered := registered_run reached
  obtain ⟨final, calls, ran⟩ := run_defined sized
    (fun notification member _ => (firstEnables notification member).1.2.2)
  obtain ⟨other, otherCalls, ranOther⟩ := run_defined sized
    (fun notification member _ => (secondEnables notification member).1.2.2)
  have started := mem_startedCalls_iff threads sized registered unknown firstEnables ran
  have startedOther := mem_startedCalls_iff threads sized registered unknown secondEnables ranOther
  have startedPair := fun (pair : Nat) (small : pair < 8) =>
    pairCall_mem_startedCalls threads sized registered unknown firstEnables ran small
  have tables := pmap_eq_of_same_rings sized unknown firstEnables secondEnables same ran ranOther
  refine ⟨(final, calls), (other, otherCalls), ran, ranOther, ?_⟩
  constructor
  · intro ⟨agree, enabled⟩ pair small even odd
    have present := (enabled pair small).mpr ⟨even, odd⟩
    have ordered := (startedPair pair small).mp present
    have orderedOther := (pairCall_mem_startedCalls threads sized registered unknown secondEnables
      ranOther small).mp ((agree.handlers _).mp present)
    exact ⟨ordered, orderedOther⟩
  · intro ordered
    have both : ∀ {history : List Notification} {pair : Nat}, EvenFirst pair history →
        2 * (pair : Int) ∈ mentioned history ∧ 2 * (pair : Int) + 1 ∈ mentioned history :=
      fun inOrder => ⟨inOrder.subset (by simp), inOrder.subset (by simp)⟩
    refine ⟨⟨tables, ?_⟩, ?_⟩
    · intro call
      rw [started, startedOther]
      constructor
      · intro ⟨pair, small, made, inOrder⟩
        have rings := both inOrder
        exact ⟨pair, small, made, (ordered pair small rings.1 rings.2).2⟩
      · intro ⟨pair, small, made, inOrder⟩
        have rings := both inOrder
        exact ⟨pair, small, made,
          (ordered pair small ((same _).mpr rings.1) ((same _).mpr rings.2)).1⟩
    · intro pair small
      rw [startedPair pair small]
      constructor
      · exact both
      · intro ⟨even, odd⟩
        exact (ordered pair small even odd).1

/-- The two rings of one pair start its handler in one order only. -/
theorem startup_depends_on_order :
    ¬ ∀ (settings : HandlerSettings) (nofThreads : Int) (deviceId : Int)
        (first second : List Notification) (one two : PortControllerLoopback × List HandlerCall),
      settings.nofThreads = .ok nofThreads →
      (∀ notification ∈ first, Enables deviceId notification) →
      (∀ notification ∈ second, Enables deviceId notification) →
      (∀ ring, ring ∈ mentioned first ↔ ring ∈ mentioned second) →
      (machine settings).run initial first = some one →
      (machine settings).run initial second = some two →
      SameStartup one two ∧ StartsEnabledPairs deviceId first one.2 := by
  intro claimed
  obtain ⟨one, calls, ran⟩ : ∃ one calls, (machine loopbackSettings).run initial
      [ringNotification 0 0 1, ringNotification 0 1 1] = some (one, calls) :=
    run_defined sized_initial (by decide)
  obtain ⟨two, otherCalls, ranOther⟩ : ∃ two calls, (machine loopbackSettings).run initial
      [ringNotification 0 1 1, ringNotification 0 0 1] = some (two, calls) :=
    run_defined sized_initial (by decide)
  have agree := (claimed loopbackSettings 1 0 _ _ _ _ rfl (by decide) (by decide)
    (by simp [mentioned, ringNotification, or_comm]) ran ranOther).1
  have started : ((machine loopbackSettings).run initial
      [ringNotification 0 0 1, ringNotification 0 1 1]).map (fun result => startedCalls result.2) =
      some [pairCall 0 0] := by decide
  have missing : ((machine loopbackSettings).run initial
      [ringNotification 0 1 1, ringNotification 0 0 1]).map (fun result => startedCalls result.2) =
      some [] := by decide
  rw [ran, Option.map_some, Option.some.injEq] at started
  rw [ranOther, Option.map_some, Option.some.injEq] at missing
  have impossible : pairCall 0 0 ∈ startedCalls otherCalls := by
    rw [← agree.handlers, started]
    simp
  simp [missing] at impossible

/-- The enables of a pair in the unexpected order, and the odd one again. -/
def repeatedEnable : List Notification := [ringNotification 0 1 1, ringNotification 0 0 1, ringNotification 0 1 1]

/-- A repeated enable in the expected order starts the handler as the plain order does. -/
theorem startup_order_repeated :
    ∃ one two,
      (machine loopbackSettings).run initial [ringNotification 0 0 1, ringNotification 0 1 1] = some one ∧
        (machine loopbackSettings).run initial repeatedEnable = some two ∧ SameStartup one two ∧
        StartsEnabledPairs 0 [ringNotification 0 0 1, ringNotification 0 1 1] one.2 := by
  have ordered : ∀ pair : Nat, pair < 8 →
      2 * (pair : Int) ∈ mentioned [ringNotification 0 0 1, ringNotification 0 1 1] →
      2 * (pair : Int) + 1 ∈ mentioned [ringNotification 0 0 1, ringNotification 0 1 1] →
      EvenFirst pair [ringNotification 0 0 1, ringNotification 0 1 1] ∧ EvenFirst pair repeatedEnable := by decide
  have firstEnables : ∀ notification ∈ [ringNotification 0 0 1, ringNotification 0 1 1],
      Enables 0 notification := by decide
  have secondEnables : ∀ notification ∈ repeatedEnable, Enables 0 notification := by decide
  obtain ⟨one, two, ran, ranOther, exact⟩ := startup_order_iff loopbackSettings
    (show loopbackSettings.nofThreads = .ok 1 from rfl)
    (show (machine loopbackSettings).run initial [] = some (initial, []) from rfl)
    (show initial.pmap[(0 : Int)]? = none by decide) firstEnables secondEnables
    (by simp [mentioned, repeatedEnable, ringNotification, or_comm])
  exact ⟨one, two, ran, ranOther, exact.mpr ordered⟩

end PortControllerLoopback

end Vtb

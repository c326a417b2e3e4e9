import Vtb.Proof.Controller.Start

namespace Vtb
open Library

namespace PortHandlerLoopback

/-- The pointers that the destructor frees. -/
def pointers (handler : PortHandlerLoopback) : List Handle :=
  handler.txMbufPool.toList ++ handler.rxMbufPool.toList ++ handler.txRing.toList

/-- How far a `start` comes. Each of its creations takes the next handle. -/
inductive Creates (before after : StartState) : List Handle → Prop where
  | noTxPool (tx : after.handler.txMbufPool = none) (rx : after.handler.rxMbufPool = before.handler.rxMbufPool)
      (ring : after.handler.txRing = before.handler.txRing)
      (next : after.dpdk.nextHandle = before.dpdk.nextHandle) : Creates before after []
  | noRxPool (tx : after.handler.txMbufPool = some before.dpdk.nextHandle)
      (rx : after.handler.rxMbufPool = none) (ring : after.handler.txRing = before.handler.txRing)
      (next : after.dpdk.nextHandle = before.dpdk.nextHandle + 1) :
      Creates before after [before.dpdk.nextHandle]
  | noTxRing (tx : after.handler.txMbufPool = some before.dpdk.nextHandle)
      (rx : after.handler.rxMbufPool = some (before.dpdk.nextHandle + 1)) (ring : after.handler.txRing = none)
      (next : after.dpdk.nextHandle = before.dpdk.nextHandle + 2) :
      Creates before after [before.dpdk.nextHandle, before.dpdk.nextHandle + 1]
  | all (tx : after.handler.txMbufPool = some before.dpdk.nextHandle)
      (rx : after.handler.rxMbufPool = some (before.dpdk.nextHandle + 1))
      (ring : after.handler.txRing = some (before.dpdk.nextHandle + 2))
      (next : after.dpdk.nextHandle = before.dpdk.nextHandle + 3) :
      Creates before after
        [before.dpdk.nextHandle, before.dpdk.nextHandle + 1, before.dpdk.nextHandle + 2]

/-- Each path of `start` behind its configuration creates the objects up to its first failure. -/
theorem start_creates {settings : HandlerSettings} {nofThreads : Int}
    (threads : settings.nofThreads = .ok nofThreads) (outcomes : CreateOutcomes) (state : StartState) :
    ∃ handles, Creates state (stateAfter (start settings outcomes state)) handles := by
  have ends := start_ends threads outcomes state
  generalize start settings outcomes state = result at ends ⊢
  cases ends with
  | noTxPool what refused => exact ⟨_, .noTxPool rfl rfl rfl rfl⟩
  | noRxPool what tx refused => exact ⟨_, .noRxPool rfl rfl rfl rfl⟩
  | noTxRing what tx rx refused => exact ⟨_, .noTxRing rfl rfl rfl rfl⟩
  | launched rxRing tx rx ring => exact ⟨_, .all rfl rfl rfl rfl⟩

theorem mem_pointers_iff {handler : PortHandlerLoopback} {handle : Handle} :
    handle ∈ pointers handler ↔ some handle = handler.txMbufPool ∨ some handle = handler.rxMbufPool ∨
      some handle = handler.txRing := by
  simp only [pointers, List.mem_append, Option.mem_toList, or_assoc, eq_comm]

section
variable {before after : StartState} {handles : List Handle}

/-- The created objects are those that DPDK numbered in between. -/
theorem Creates.createdBetween_eq (creates : Creates before after handles) :
    createdBetween before.dpdk after.dpdk = handles.map .created := by
  unfold createdBetween
  cases creates with
  | noTxPool tx rx ring next => simp [next]
  | noRxPool tx rx ring next => simp [next]
  | noTxRing tx rx ring next => simp [next, List.range']
  | all tx rx ring next => simp [next, List.range']

/-- A handler without objects owns exactly the new ones, each once. -/
theorem Creates.pointers_eq (creates : Creates before after handles)
    (empty : pointers before.handler = []) :
    pointers after.handler = handles ∧ handles.Nodup ∧ (after.handler.txMbufPool = none → handles = []) ∧
      ∀ handle ∈ handles, handle < after.dpdk.nextHandle := by
  simp only [pointers, List.append_eq_nil_iff, Option.toList_eq_nil_iff] at empty
  unfold pointers
  cases creates with
  | noTxPool tx rx ring next => simp [tx, rx, ring, empty]
  | noRxPool tx rx ring next => simp [tx, rx, ring, empty, next]
  | noTxRing tx rx ring next =>
      simp [tx, rx, ring, next]
  | all tx rx ring next =>
      simp [tx, rx, ring, next]

/-- The old tx pool is not owned any more: what a handler owns is new, or it was in the other pointers. -/
theorem Creates.mem_pointers (creates : Creates before after handles) {handle : Handle}
    (owned : handle ∈ pointers after.handler) :
    before.dpdk.nextHandle ≤ handle ∨ some handle = before.handler.rxMbufPool ∨
      some handle = before.handler.txRing := by
  simp only [pointers, List.mem_append, Option.mem_toList] at owned
  cases creates with
  | noTxPool tx rx ring next =>
      rw [tx, rx, ring] at owned
      rcases owned with (none | same) | same
      · simp at none
      · exact Or.inr (Or.inl same.symm)
      · exact Or.inr (Or.inr same.symm)
  | noRxPool tx rx ring next =>
      rw [tx, rx, ring] at owned
      rcases owned with (fresh | none) | same
      · exact Or.inl (Option.some.inj fresh).le
      · simp at none
      · exact Or.inr (Or.inr same.symm)
  | noTxRing tx rx ring next =>
      rw [tx, rx, ring] at owned
      rcases owned with (fresh | fresh) | none
      · exact Or.inl (Option.some.inj fresh).le
      · rw [← Option.some.inj fresh]
        exact Or.inl (Nat.le_add_right _ _)
      · simp at none
  | all tx rx ring next =>
      rw [tx, rx, ring] at owned
      rcases owned with (fresh | fresh) | fresh
      · exact Or.inl (Option.some.inj fresh).le
      · rw [← Option.some.inj fresh]
        exact Or.inl (Nat.le_add_right _ _)
      · rw [← Option.some.inj fresh]
        exact Or.inl (Nat.le_add_right _ _)

/-- DPDK numbers its objects upwards. -/
theorem Creates.nextHandle_le (creates : Creates before after handles) :
    before.dpdk.nextHandle ≤ after.dpdk.nextHandle := by
  cases creates with
  | noTxPool tx rx ring next => exact next.ge
  | noRxPool tx rx ring next => exact next ▸ Nat.le_add_right _ _
  | noTxRing tx rx ring next => exact next ▸ Nat.le_add_right _ _
  | all tx rx ring next => exact next ▸ Nat.le_add_right _ _

end

/-- The destructor frees what the pointers own. -/
theorem destroy_freed (state : StartState) : (destroy state).2 = pointers state.handler := by
  simp only [destroy, pointers]
  cases state.handler.txMbufPool <;> cases state.handler.rxMbufPool <;> cases state.handler.txRing <;> rfl

end PortHandlerLoopback

/-- The object that an output brings into being. -/
def HandlerOutput.handle : HandlerOutput → Option Handle
  | .created handle => some handle
  | .launched _ => none

/-- Every object that was created has been freed exactly once. -/
def Released (created freed : List Handle) : Prop := ∀ handle ∈ created, freed.count handle = 1

namespace PortHandlerLoopback

/-- A `start` that reads its configuration finds no tx pool from an earlier one. -/
def startsEmpty (settings : HandlerSettings) (dpdk : Dpdk) (past : List HandlerOperation) :
    HandlerOperation → Prop
  | .start _ => settings.nofThreads.isOk = false ∨
      ((machine settings).run ⟨initial, dpdk⟩ past).all
        (fun reached => reached.1.handler.txMbufPool.isNone) = true
  | _ => True

instance (settings : HandlerSettings) (dpdk : Dpdk) (past : List HandlerOperation) :
    ∀ operation, Decidable (startsEmpty settings dpdk past operation)
  | .start _ => inferInstanceAs (Decidable (_ ∨ _))
  | .setVid _ => inferInstanceAs (Decidable True)
  | .setRxqid _ => inferInstanceAs (Decidable True)
  | .setTxqid _ => inferInstanceAs (Decidable True)
  | .stop => inferInstanceAs (Decidable True)

/-- What the handler owns of the objects that were created for it. -/
inductive Account (settings : HandlerSettings) (dpdk : Dpdk) (past : List HandlerOperation)
    (state : StartState) (created : List Handle) : Prop where
  | held (admitted : Admits (startsEmpty settings dpdk) past) (owned : created = pointers state.handler)
      (unique : (pointers state.handler).Nodup)
      (first : state.handler.txMbufPool = none → pointers state.handler = [])
      (below : ∀ handle ∈ pointers state.handler, handle < state.dpdk.nextHandle)
  | lost (forbidden : ¬ Admits (startsEmpty settings dpdk) past) (handle : Handle)
      (made : handle ∈ created) (gone : handle ∉ pointers state.handler)
      (below : handle < state.dpdk.nextHandle)

/-- A call that moves no pointer and creates nothing keeps the account. -/
theorem Account.quiet {settings : HandlerSettings} {dpdk : Dpdk} {past : List HandlerOperation}
    {state next : StartState} {created : List Handle} (operation : HandlerOperation)
    (account : Account settings dpdk past state created)
    (tx : next.handler.txMbufPool = state.handler.txMbufPool)
    (owns : pointers next.handler = pointers state.handler)
    (handles : next.dpdk.nextHandle = state.dpdk.nextHandle)
    (allowed : startsEmpty settings dpdk past operation) :
    Account settings dpdk (past ++ [operation]) next created := by
  cases account with
  | held admitted owned unique first below =>
      exact .held (admits_concat.mpr ⟨admitted, allowed⟩) (by rw [owns, owned]) (by rw [owns]; exact unique)
        (by rw [owns, tx]; exact first) (by rw [owns, handles]; exact below)
  | lost forbidden handle made gone below =>
      exact .lost (fun admitted => forbidden (admits_concat.mp admitted).1) handle made
        (by rw [owns]; exact gone) (by rw [handles]; exact below)

/-- A `start` keeps the account, and it loses an object exactly when the tx pool was there already. -/
theorem Account.start {settings : HandlerSettings} {dpdk : Dpdk} {past : List HandlerOperation}
    {state next : StartState} {created handles : List Handle} {outputs : List HandlerOutput}
    {nofThreads : Int} (threads : settings.nofThreads = .ok nofThreads) {outcomes : CreateOutcomes}
    (ran : (machine settings).run ⟨initial, dpdk⟩ past = some (state, outputs))
    (account : Account settings dpdk past state created) (creates : Creates state next handles) :
    Account settings dpdk (past ++ [.start outcomes]) next (created ++ handles) := by
  have rule : startsEmpty settings dpdk past (.start outcomes) ↔ state.handler.txMbufPool = none := by
    simp [startsEmpty, threads, ran, Except.isOk, Except.toBool]
  cases account with
  | lost forbidden handle made gone below =>
      refine .lost (fun admitted => forbidden (admits_concat.mp admitted).1) handle
        (List.mem_append_left _ made) ?_ (lt_of_lt_of_le below creates.nextHandle_le)
      intro owned
      rcases creates.mem_pointers owned with fresh | rx | ring
      · exact absurd below (Nat.not_lt.mpr fresh)
      · exact gone (mem_pointers_iff.mpr (Or.inr (Or.inl rx)))
      · exact gone (mem_pointers_iff.mpr (Or.inr (Or.inr ring)))
  | held admitted owned unique first below =>
      cases empty : state.handler.txMbufPool with
      | none =>
          obtain ⟨news, once, order, under⟩ := creates.pointers_eq (first empty)
          refine .held (admits_concat.mpr ⟨admitted, rule.mpr empty⟩) ?_ (news ▸ once) ?_ (news ▸ under)
          · rw [owned, first empty, news, List.nil_append]
          · intro none
            rw [news, order none]
      | some handle =>
          have own : handle ∈ pointers state.handler := mem_pointers_iff.mpr (Or.inl empty.symm)
          refine .lost ?_ handle (List.mem_append_left _ (owned ▸ own)) ?_
            (lt_of_lt_of_le (below handle own) creates.nextHandle_le)
          · intro admits
            have none := rule.mp (admits_concat.mp admits).2
            simp [empty] at none
          · intro owns
            have apart := unique
            simp only [pointers, empty, Option.toList_some, List.cons_append, List.nil_append,
              List.nodup_cons, List.mem_append, Option.mem_toList, not_or] at apart
            rcases creates.mem_pointers owns with fresh | rx | ring
            · exact absurd (below handle own) (Nat.not_lt.mpr fresh)
            · exact apart.1.1 rx.symm
            · exact apart.1.2 ring.symm

/-- The state and the outputs of a `start`, whether it returns or throws. -/
theorem operate_start (settings : HandlerSettings) (outcomes : CreateOutcomes) (state : StartState) :
    ∃ workers : List Worker, operate settings state (.start outcomes) =
      (stateAfter (start settings outcomes state),
        createdBetween state.dpdk (stateAfter (start settings outcomes state)).dpdk ++
          workers.map .launched) := by
  rw [operate]
  cases start settings outcomes state with
  | ok workers after => exact ⟨workers, rfl⟩
  | error what after => exact ⟨[], (congrArg _ (List.append_nil _)).symm⟩

@[simp] theorem filterMap_created (handles : List Handle) :
    (handles.map HandlerOutput.created).filterMap HandlerOutput.handle = handles := by
  simp [List.filterMap_map, Function.comp_def, HandlerOutput.handle]

@[simp] theorem filterMap_launched (workers : List Worker) :
    (workers.map HandlerOutput.launched).filterMap HandlerOutput.handle = [] := by
  simp [List.filterMap_map, Function.comp_def, HandlerOutput.handle]

/-- Every call keeps the account. -/
theorem account_step {settings : HandlerSettings} {dpdk : Dpdk} {past : List HandlerOperation}
    {state next : StartState} {outputs later : List HandlerOutput} {operation : HandlerOperation}
    (ran : (machine settings).run ⟨initial, dpdk⟩ past = some (state, outputs))
    (account : Account settings dpdk past state (outputs.filterMap HandlerOutput.handle))
    (stepped : (machine settings).step state operation = some (next, later)) :
    Account settings dpdk (past ++ [operation]) next ((outputs ++ later).filterMap HandlerOutput.handle) := by
  rw [List.filterMap_append]
  have produced : operate settings state operation = (next, later) := Option.some.inj stepped
  cases operation with
  | setVid vid =>
      obtain ⟨rfl, rfl⟩ := Prod.mk.inj produced
      rw [List.filterMap_nil, List.append_nil]
      exact account.quiet (.setVid vid) rfl rfl rfl trivial
  | setRxqid rxqid =>
      obtain ⟨rfl, rfl⟩ := Prod.mk.inj produced
      rw [List.filterMap_nil, List.append_nil]
      exact account.quiet (.setRxqid rxqid) rfl rfl rfl trivial
  | setTxqid txqid =>
      obtain ⟨rfl, rfl⟩ := Prod.mk.inj produced
      rw [List.filterMap_nil, List.append_nil]
      exact account.quiet (.setTxqid txqid) rfl rfl rfl trivial
  | stop =>
      obtain ⟨rfl, rfl⟩ := Prod.mk.inj produced
      rw [List.filterMap_nil, List.append_nil]
      exact account.quiet .stop rfl rfl rfl trivial
  | start outcomes =>
      obtain ⟨workers, called⟩ := operate_start settings outcomes state
      obtain ⟨rfl, rfl⟩ := Prod.mk.inj (called.symm.trans produced)
      rw [List.filterMap_append, filterMap_launched, List.append_nil]
      cases threads : settings.nofThreads with
      | error what =>
          have kept : stateAfter (start settings outcomes state) = state := by
            rw [start_unread threads]
            rfl
          have allowed : startsEmpty settings dpdk past (.start outcomes) := Or.inl (by rw [threads]; rfl)
          rw [kept, createdBetween, Nat.sub_self, List.range'_zero, List.map_nil, List.filterMap_nil,
            List.append_nil]
          exact account.quiet (.start outcomes) rfl rfl rfl allowed
      | ok nofThreads =>
          obtain ⟨handles, creates⟩ := start_creates threads outcomes state
          rw [creates.createdBetween_eq, filterMap_created]
          exact account.start threads ran creates

/-- The calls of a controller always return to it. -/
theorem operations_defined (settings : HandlerSettings) (dpdk : Dpdk) (history : List HandlerOperation) :
    ∃ final outputs, (machine settings).run ⟨initial, dpdk⟩ history = some (final, outputs) := by
  have admitted : Admits (fun _ (_ : HandlerOperation) => True) history := fun _ _ _ _ => trivial
  obtain ⟨final, outputs, ran, _⟩ : ∃ final outputs,
      (machine settings).run ⟨initial, dpdk⟩ history = some (final, outputs) ∧ True :=
    Machine.run_defined (machine settings) (fun _ _ _ => True) trivial
      (fun _ _ _ _ _ _ _ => ⟨_, _, rfl, trivial⟩) admitted
  exact ⟨final, outputs, ran⟩

theorem account_run {settings : HandlerSettings} {dpdk : Dpdk} {history : List HandlerOperation}
    {final : StartState} {outputs : List HandlerOutput}
    (ran : (machine settings).run ⟨initial, dpdk⟩ history = some (final, outputs)) :
    Account settings dpdk history final (outputs.filterMap HandlerOutput.handle) := by
  have fresh : Account settings dpdk [] ⟨initial, dpdk⟩ [] :=
    .held admits_nil rfl List.nodup_nil (fun _ => rfl) (by simp [pointers, initial])
  exact (machine settings).run_history
    (fun past state emitted => Account settings dpdk past state (emitted.filterMap HandlerOutput.handle))
    fresh (fun _ _ _ _ _ _ before account stepped => account_step before account stepped) ran

/-- The destructor releases everything exactly when the account has lost nothing. -/
theorem Account.released_iff {settings : HandlerSettings} {dpdk : Dpdk} {past : List HandlerOperation}
    {state : StartState} {created : List Handle} (account : Account settings dpdk past state created) :
    Released created (destroy state).2 ↔ Admits (startsEmpty settings dpdk) past := by
  rw [destroy_freed]
  cases account with
  | held admitted owned unique first below =>
      refine ⟨fun _ => admitted, ?_⟩
      intro _ handle made
      exact List.count_eq_one_of_mem unique (owned ▸ made)
  | lost forbidden handle made gone below =>
      refine ⟨?_, fun admitted => absurd admitted forbidden⟩
      intro released
      have once := released handle made
      rw [List.count_eq_zero_of_not_mem gone] at once
      simp at once

/-- After any calls and the destructor, every created object is freed exactly once exactly when no
`start` found the tx pool of an earlier one. -/
theorem resources_released_iff (settings : HandlerSettings) (dpdk : Dpdk)
    (history : List HandlerOperation) :
    (∃ final outputs, (machine settings).run ⟨initial, dpdk⟩ history = some (final, outputs) ∧
      Released (outputs.filterMap HandlerOutput.handle) (destroy final).2) ↔
      Admits (startsEmpty settings dpdk) history := by
  obtain ⟨final, outputs, ran⟩ := operations_defined settings dpdk history
  have balance := (account_run ran).released_iff
  constructor
  · rintro ⟨last, emitted, again, released⟩
    obtain ⟨rfl, rfl⟩ := Prod.mk.inj (Option.some.inj (ran.symm.trans again))
    exact balance.mp released
  · intro admitted
    exact ⟨final, outputs, ran, balance.mpr admitted⟩

/-- The settings of one worker thread in mode Loopback. -/
def oneThread : HandlerSettings := ⟨"Loopback", .ok 1⟩

/-- The same start twice: the second one finds its names in use. -/
def startTwice : List HandlerOperation := [.start .granted, .start .granted]

/-- The pool of the first start is lost when the second start fails. -/
theorem second_start_leaks :
    ¬ ∀ (settings : HandlerSettings) (dpdk : Dpdk) (history : List HandlerOperation),
      ∃ final outputs, (machine settings).run ⟨initial, dpdk⟩ history = some (final, outputs) ∧
        Released (outputs.filterMap HandlerOutput.handle) (destroy final).2 := by
  intro claimed
  obtain ⟨final, outputs, ran, released⟩ := claimed oneThread .empty startTwice
  have once := (account_run ran).released_iff.mp released
  exact absurd once (by decide)

end PortHandlerLoopback

end Vtb

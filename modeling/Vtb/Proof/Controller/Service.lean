import Vtb.Proof.Controller.Running
import Vtb.Proof.Controller.Refinement

namespace Vtb
open Library
namespace PortControllerLoopback

/-- Every handler that runs has both of its rings enabled in the table of its device. -/
def Serves (controller : PortControllerLoopback) (calls : List HandlerCall) : Prop :=
  ∀ handler : Fin 8, Running calls handler →
    RingEnabled controller.pmap (controller.portHandler.get handler).vid (controller.portHandler.get handler).rxqid ∧
    RingEnabled controller.pmap (controller.portHandler.get handler).vid (controller.portHandler.get handler).txqid

instance (controller : PortControllerLoopback) (calls : List HandlerCall) :
    Decidable (Serves controller calls) :=
  inferInstanceAs (Decidable (∀ _, _))

/-- The notification disables a ring of a handler that runs for its device. -/
def CutsService (controller : PortControllerLoopback) (calls : List HandlerCall)
    (pdrs : PortDeviceRingState) : Prop :=
  pdrs.metaCode ≠ 1 ∧ pdrs.enable ≠ 1 ∧ ∃ handler : Fin 8, controller.BoundTo calls pdrs.deviceId handler ∧
    ((controller.portHandler.get handler).rxqid = pdrs.qid ∨ (controller.portHandler.get handler).txqid = pdrs.qid)

instance (controller : PortControllerLoopback) (calls : List HandlerCall) (pdrs : PortDeviceRingState) :
    Decidable (CutsService controller calls pdrs) :=
  inferInstanceAs (Decidable (_ ∧ _ ∧ ∃ _ : Fin 8, _))

section
variable {settings : HandlerSettings} {controller next : PortControllerLoopback}
  {notification : Notification} {calls later : List HandlerCall}

/-- One effect keeps every running handler served unless it disables a ring of one of them. -/
theorem Effect.serves (effect : Effect settings controller notification next later)
    (sized : controller.Sized) (serves : Serves controller calls)
    (spared : ¬ CutsService controller calls notification.pdrs) : Serves next (calls ++ later) := by
  intro handler running
  cases effect with
  | destroyed gone => exact absurd running (not_running_stopAll controller calls handler.isLt)
  | recorded qid ready ring named inside incomplete =>
      rw [List.append_nil] at running
      have served := serves handler running
      have kept : ∀ own, (controller.portHandler.get handler).rxqid = own ∨
          (controller.portHandler.get handler).txqid = own →
          RingEnabled controller.pmap (controller.portHandler.get handler).vid own →
          RingEnabled (controller.storeRing notification.pdrs qid)
            (controller.portHandler.get handler).vid own := by
        intro own used enabled
        rw [ringEnabled_storeRing sized _ inside]
        split
        · next hit =>
            by_contra disabled
            refine spared ⟨ring, disabled, handler, ⟨hit.1.symm, running⟩, ?_⟩
            rw [named, ← hit.2]
            exact used
        · exact enabled
      exact ⟨kept _ (.inl rfl) served.1, kept _ (.inr rfl) served.2⟩
  | bound pair inside ring named complete result attempted =>
      obtain ⟨_, enabled, rings, table, partner⟩ := RingTable.completes_eq_some.mp complete
      have fits : 2 * pair + 1 < 16 := by omega
      have odd : (2 * (pair : Int) + 1) = ((2 * pair + 1 : Nat) : Int) := by simp
      have stored := fun deviceId ring =>
        ringEnabled_storeRing sized notification.pdrs fits deviceId ring
      have raised : ∀ deviceId own, RingEnabled controller.pmap deviceId own →
          RingEnabled (controller.storeRing notification.pdrs (2 * pair + 1)) deviceId own := by
        intro deviceId own held
        rw [stored]
        split
        · exact enabled
        · exact held
      by_cases same : pair = handler.val
      · have grown : PortHandlerLoopback.Grown
            (controller.bindPair notification.pdrs.deviceId pair inside) result.1 := by
          rw [attempted]
          exact attempt_grown
        have vid : result.1.handler.vid = notification.pdrs.deviceId := grown.vid
        have rxqid : result.1.handler.rxqid = 2 * (pair : Int) := grown.rxqid
        have txqid : result.1.handler.txqid = 2 * (pair : Int) + 1 := grown.txqid
        simp only [get_set, ← same, if_true, vid, rxqid, txqid]
        constructor
        · refine raised _ _ ?_
          rw [RingEnabled, table, Option.bind_some,
            show 2 * (pair : Int) = ((2 * pair : Nat) : Int) by simp, readAt_natCast]
          exact partner
        · rw [stored, if_pos ⟨rfl, odd⟩]
          exact enabled
      · have silent : result.2.status handler.val = none := by
          rw [attempted]
          exact status_attempt_of_ne same
        rw [Running, latest_concat_of_none calls silent] at running
        have served := serves handler running
        simp only [get_set, if_neg same]
        exact ⟨raised _ _ served.1, raised _ _ served.2⟩

/-- A notification that disables a ring of a running handler leaves the handler running. -/
theorem Effect.unserved (effect : Effect settings controller notification next later)
    (sized : controller.Sized) (cuts : CutsService controller calls notification.pdrs) :
    ¬ Serves next (calls ++ later) := by
  obtain ⟨ring, disabled, handler, ⟨vid, running⟩, used⟩ := cuts
  cases effect with
  | destroyed gone => exact absurd gone ring
  | recorded qid ready _ named inside incomplete =>
      intro serves
      rw [List.append_nil] at serves
      obtain ⟨rx, tx⟩ := serves handler running
      rw [ringEnabled_storeRing sized _ inside] at rx tx
      rcases used with own | own
      · rw [if_pos ⟨vid.symm, own.trans named⟩] at rx
        exact disabled rx
      · rw [if_pos ⟨vid.symm, own.trans named⟩] at tx
        exact disabled tx
  | bound pair inside _ named complete result attempted =>
      exact absurd (RingTable.completes_eq_some.mp complete).2.1 disabled

end

/-- The run over these notifications ends in a state that serves enabled rings only. -/
def ServesAfter (settings : HandlerSettings) (history : List Notification) : Prop :=
  ∃ controller calls, (machine settings).run initial history = some (controller, calls) ∧
    Serves controller calls

/-- The condition on one step: the notification disables no ring of a running handler. -/
def SparesService (settings : HandlerSettings) (past : List Notification) (notification : Notification) :
    Prop :=
  ∀ controller calls, (machine settings).run initial past = some (controller, calls) →
    ¬ CutsService controller calls notification.pdrs

instance (settings : HandlerSettings) (past : List Notification) (notification : Notification) :
    Decidable (SparesService settings past notification) :=
  decidable_of_iff (∀ result ∈ (machine settings).run initial past,
    ¬ CutsService result.1 result.2 notification.pdrs) (by simp [SparesService])

/-- Every state of a run serves enabled rings only, exactly when no notification of the run
disables a ring of a handler that runs for its device. -/
theorem every_state_serves_iff (settings : HandlerSettings) {history : List Notification}
    (valid : ∀ notification ∈ history, notification.pdrs.WellFormed) :
    (∀ past, past <+: history → ServesAfter settings past) ↔ Admits (SparesService settings) history := by
  have oneStep : ∀ past notification, past ++ [notification] <+: history →
      ServesAfter settings past → ∃ controller calls next later,
        (machine settings).run initial past = some (controller, calls) ∧ Serves controller calls ∧
        controller.Sized ∧ Effect settings controller notification next later ∧
        (machine settings).run initial (past ++ [notification]) = some (next, calls ++ later) := by
    rintro past notification within ⟨controller, calls, ran, serves⟩
    have sized := sized_run sized_initial ran
    have listed : notification ∈ history := within.subset (by simp)
    obtain ⟨next, later, stepped⟩ := step_defined sized (valid _ listed)
    exact ⟨controller, calls, next, later, ran, serves, sized, effect_of_step sized stepped,
      (machine settings).run_concat_of_step ran stepped⟩
  apply every_prefix_iff_admits (ServesAfter settings)
  · exact ⟨initial, [], rfl, by intro handler running; simp [Running] at running⟩
  · intro past notification within _ good spared
    obtain ⟨controller, calls, next, later, ran, serves, sized, effect, ranNext⟩ :=
      oneStep past notification within good
    exact ⟨next, calls ++ later, ranNext, effect.serves sized serves (spared controller calls ran)⟩
  · rintro past notification within _ good cut ⟨next', calls', ran', serves'⟩
    obtain ⟨controller, calls, next, later, ran, serves, sized, effect, ranNext⟩ :=
      oneStep past notification within good
    obtain ⟨rfl, rfl⟩ := Prod.mk.inj (Option.some.inj (ranNext.symm.trans ran'))
    refine cut ?_
    intro controller' calls' ran'' cuts
    obtain ⟨rfl, rfl⟩ := Prod.mk.inj (Option.some.inj (ran.symm.trans ran''))
    exact effect.unserved sized cuts serves'

/-- The rx ring of a served pair is disabled afterwards. -/
def disabledPair : List Notification :=
  [ringNotification 0 0 1, ringNotification 0 1 1, ringNotification 0 0 0]

/-- The handler of a disabled ring keeps running. -/
theorem disabled_ring_keeps_handler :
    ¬ ∀ (settings : HandlerSettings) (history : List Notification)
        (controller : PortControllerLoopback) (calls : List HandlerCall),
      (∀ notification ∈ history, 0 ≤ notification.pdrs.qid ∧ notification.pdrs.qid < 16 ∧
        (notification.pdrs.enable = 0 ∨ notification.pdrs.enable = 1) ∧
        (notification.pdrs.metaCode = 0 ∨ notification.pdrs.metaCode = 1)) →
      (machine settings).run initial history = some (controller, calls) → Serves controller calls := by
  intro claimed
  obtain ⟨controller, calls, ran⟩ : ∃ controller calls,
      (machine loopbackSettings).run initial disabledPair = some (controller, calls) :=
    run_defined sized_initial (by decide)
  have serves := claimed loopbackSettings disabledPair controller calls (by decide) ran
  have unserved : ((machine loopbackSettings).run initial disabledPair).map
      (fun result => decide (Serves result.1 result.2)) = some false := by decide
  rw [ran, Option.map_some, Option.some.injEq, decide_eq_false_iff_not] at unserved
  exact unserved serves

/-- The enables of one pair keep its handler served. -/
theorem every_state_serves_one_pair :
    Admits (SparesService loopbackSettings) (disabledPair.take 2) ∧
      ∀ past, past <+: disabledPair.take 2 → ServesAfter loopbackSettings past := by
  have spared : Admits (SparesService loopbackSettings) (disabledPair.take 2) := by decide
  exact ⟨spared, (every_state_serves_iff loopbackSettings (by decide)).mpr spared⟩

end PortControllerLoopback

end Vtb

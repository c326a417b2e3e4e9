import Vtb.Proof.PortMap.Tracking
import Vtb.Proof.Controller.Refinement

namespace Vtb
open Library

namespace Callback

/-- The value that the packets of one callback give to a ring of the controller.
A new device announces rings 0 and 1, and a change of these two rings is not forwarded. -/
def forwarded (vid : Int) (ring : Nat) : Callback → Option Int
  | .newDevice other _ => if other = vid ∧ ring < 2 then some 1 else none
  | .destroyDevice _ => none
  | .vringStateChanged other queueId enable =>
      if other = vid ∧ queueId.toNat = ring ∧ 2 ≤ ring then some enable else none

/-- The enable value that a callback reports about a ring. -/
def reported (vid : Int) (ring : Nat) : Callback → Option Int
  | .newDevice _ _ => none
  | .destroyDevice _ => none
  | .vringStateChanged other queueId enable =>
      if other = vid ∧ queueId.toNat = ring then some enable else none

/-- The packets of one callback. -/
def packets (portCntr : Int) : Callback → List PortDeviceRingState
  | .newDevice vid _ => [⟨0, portCntr, vid, 0, 1⟩, ⟨0, portCntr, vid, 1, 1⟩]
  | .destroyDevice vid => [⟨1, portCntr, vid, 0, 0⟩]
  | .vringStateChanged vid queueId enable =>
      if queueId ≥ 2 then [⟨0, portCntr, vid, queueId.toNat, enable⟩] else []

end Callback

/-- A vring change names a ring below the ring count of its device. -/
def changesOwnRing (past : List Callback) : Callback → Prop
  | .vringStateChanged vid queueId _ =>
      (vringCount past vid).any fun vringNum => decide ((queueId.toNat : Int) < vringNum)
  | _ => True

instance (past : List Callback) : ∀ callback, Decidable (changesOwnRing past callback)
  | .vringStateChanged _ _ _ => inferInstanceAs (Decidable (_ = true))
  | .newDevice _ _ => inferInstanceAs (Decidable True)
  | .destroyDevice _ => inferInstanceAs (Decidable True)

section
variable {controller next : VhostController} {callback : Callback} {sent : List PortDeviceRingState}

/-- A callback changes the mode and the counter and sends packets as its statements outside of the port map do. -/
theorem handle_notified (stepped : controller.handle callback = some (next, sent)) :
    next.mode = (controller.notified callback).1.mode ∧
      next.portCntr = (controller.notified callback).1.portCntr ∧ sent = (controller.notified callback).2 := by
  cases callback with
  | newDevice vid vringNum =>
      simp only [VhostController.handle, VhostController.onNewDevice, Option.bind_eq_some_iff,
        Option.map_eq_some_iff, Prod.mk.injEq] at stepped
      obtain ⟨_, _, _, _, _, _, rfl, rfl⟩ := stepped
      exact ⟨rfl, rfl, rfl⟩
  | destroyDevice vid =>
      simp only [VhostController.handle, VhostController.onDestroyDevice, Option.some.injEq,
        Prod.mk.injEq] at stepped
      obtain ⟨rfl, rfl⟩ := stepped
      exact ⟨rfl, rfl, rfl⟩
  | vringStateChanged vid queueId enable =>
      simp only [VhostController.handle, VhostController.onVringStateChanged, Option.map_eq_some_iff,
        Prod.mk.injEq] at stepped
      obtain ⟨_, _, rfl, rfl⟩ := stepped
      exact ⟨rfl, rfl, rfl⟩

/-- In a mode with a port controller the packets of a callback are its own under the counter. -/
theorem notified_packets (sends : controller.mode = "Loopback" ∨ controller.mode = "Back2Back")
    (callback : Callback) : (controller.notified callback).2 = callback.packets controller.portCntr := by
  have notify : ∀ metaCode vid queueId enable,
      controller.notifyPortController metaCode vid queueId enable =
        [⟨metaCode, controller.portCntr, vid, queueId.toNat, enable⟩] := by
    intro metaCode vid queueId enable
    rw [VhostController.notifyPortController, if_pos sends]
  cases callback with
  | newDevice vid vringNum =>
      rw [VhostController.notified, notify, notify]
      rfl
  | destroyDevice vid => exact notify ..
  | vringStateChanged vid queueId enable =>
      rw [VhostController.notified, notify]
      rfl

/-- In a mode without one a callback sends nothing. -/
theorem notified_silent (quiet : ¬ (controller.mode = "Loopback" ∨ controller.mode = "Back2Back"))
    (callback : Callback) : (controller.notified callback).2 = [] := by
  have notify : ∀ metaCode vid queueId enable,
      controller.notifyPortController metaCode vid queueId enable = [] := by
    intro metaCode vid queueId enable
    rw [VhostController.notifyPortController, if_neg quiet]
  cases callback with
  | newDevice vid vringNum =>
      rw [VhostController.notified, notify, notify]
      rfl
  | destroyDevice vid => exact notify ..
  | vringStateChanged vid queueId enable =>
      rw [VhostController.notified, notify]
      exact ite_self _

@[simp] theorem notified_mode (controller : VhostController) (callback : Callback) :
    (controller.notified callback).1.mode = controller.mode := by
  cases callback <;> rfl

@[simp] theorem notified_portCntr (controller : VhostController) (callback : Callback) :
    (controller.notified callback).1.portCntr =
      controller.portCntr + (if callback.isNewDevice then 1 else 0) := by
  cases callback with
  | newDevice vid vringNum => rfl
  | destroyDevice vid => exact (add_zero _).symm
  | vringStateChanged vid queueId enable => exact (add_zero _).symm

/-- In a mode with a port controller each callback sends its own packets under the counter. -/
theorem handle_sent (sends : controller.mode = "Loopback" ∨ controller.mode = "Back2Back")
    (stepped : controller.handle callback = some (next, sent)) :
    next.mode = controller.mode ∧
      next.portCntr = controller.portCntr + (if callback.isNewDevice then 1 else 0) ∧
      sent = callback.packets controller.portCntr := by
  obtain ⟨mode, counter, packets⟩ := handle_notified stepped
  rw [notified_mode] at mode
  rw [notified_portCntr] at counter
  rw [notified_packets sends] at packets
  exact ⟨mode, counter, packets⟩

/-- The packets of a callback give a ring the value that the callback forwards. -/
theorem latest_packets (portCntr vid : Int) (ring : Nat) (callback : Callback) :
    latest (PortDeviceRingState.ringValue vid ring) (callback.packets portCntr) =
      callback.forwarded vid ring := by
  cases callback with
  | newDevice other vringNum =>
      simp only [Callback.packets, Callback.forwarded, latest_cons, latest_nil, Option.none_or,
        PortDeviceRingState.ringValue]
      by_cases own : other = vid
      · by_cases zero : ring = 0
        · simp [own, zero]
        · by_cases one : ring = 1
          · simp [own, one]
          · have high : ¬ ring < 2 := by omega
            have notZero : ¬ (0 : Int) = ring := by omega
            have notOne : ¬ (1 : Int) = ring := by omega
            simp [own, high, notZero, notOne]
      · simp [own]
  | destroyDevice other => simp [Callback.packets, Callback.forwarded, latest_cons,
      PortDeviceRingState.ringValue]
  | vringStateChanged other queueId enable =>
      have guard : queueId ≥ 2 ↔ 2 ≤ queueId.toNat := UInt16.le_iff_toNat_le
      by_cases high : 2 ≤ queueId.toNat
      · rw [Callback.packets, if_pos (guard.mpr high), latest_cons, latest_nil, Option.none_or,
          PortDeviceRingState.ringValue, Callback.forwarded]
        by_cases own : other = vid ∧ queueId.toNat = ring
        · have above : 2 ≤ ring := by omega
          simp [own, above]
        · have apart : ¬ (other = vid ∧ (queueId.toNat : Int) = ring) := by simpa using own
          have aside : ¬ (other = vid ∧ queueId.toNat = ring ∧ 2 ≤ ring) := by tauto
          rw [if_neg aside, if_neg (by tauto)]
      · have aside : ¬ (other = vid ∧ queueId.toNat = ring ∧ 2 ≤ ring) := by omega
        rw [Callback.packets, if_neg (fun le => high (guard.mp le)), latest_nil, Callback.forwarded,
          if_neg aside]

end

/-- The packets of a run give each ring the value that was forwarded last. -/
theorem latest_sent {parser : CmdlineParser} (loopback : parser.get "-m" = "Loopback")
    {history : List Callback} {controller : VhostController} {sent : List PortDeviceRingState}
    (ran : VhostController.machine.run (VhostController.create (ConfigManager.initial parser)) history =
      some (controller, sent)) (vid : Int) (ring : Nat) :
    latest (PortDeviceRingState.ringValue vid ring) sent =
      latest (Callback.forwarded vid ring) history := by
  have both := VhostController.machine.run_history
    (fun past state emitted => state.mode = "Loopback" ∧
      latest (PortDeviceRingState.ringValue vid ring) emitted =
        latest (Callback.forwarded vid ring) past)
    ⟨loopback, rfl⟩
    (by
      intro past state emitted callback next later _ held stepped
      obtain ⟨kept, _, rfl⟩ := handle_sent (Or.inl held.1) stepped
      apply And.intro (kept.trans held.1)
      rw [latest_append, latest_packets, latest_concat, held.2])
    ran
  exact both.2

section
variable {history : List Callback} {vid : Int}

/-- A live device has at most sixteen rings. -/
theorem vringCount_le (calls : Admits rteVhostCalls history) {vringNum : Int}
    (live : vringCount history vid = some vringNum) : vringNum ≤ 16 := by
  induction history using List.reverseRecOn generalizing vringNum with
  | nil => simp at live
  | append_singleton past callback ih =>
      obtain ⟨before, last⟩ := admits_concat.mp calls
      cases callback with
      | newDevice other count =>
          rw [vringCount_newDevice] at live
          split at live
          · obtain rfl := Option.some.inj live
            exact last.2.2.2
          · exact ih before live
      | destroyDevice other =>
          rw [vringCount_destroyDevice] at live
          split at live
          · simp at live
          · exact ih before live
      | vringStateChanged other queueId enable =>
          rw [vringCount_vringStateChanged] at live
          exact ih before live

/-- No callback has been about a vid that is not given out yet. -/
theorem silent_of_fresh (calls : Admits rteVhostCalls history) (fresh : Admits vidIsPortNumber history)
    (future : (announcements history : Int) ≤ vid) :
    vringCount history vid = none ∧ ∀ ring, latest (Callback.reported vid ring) history = none := by
  induction history using List.reverseRecOn with
  | nil => exact ⟨rfl, fun _ => rfl⟩
  | append_singleton past callback ih =>
      obtain ⟨before, last⟩ := admits_concat.mp calls
      obtain ⟨freshBefore, freshLast⟩ := admits_concat.mp fresh
      rw [announcements_concat] at future
      obtain ⟨dead, quiet⟩ := ih before freshBefore (by push_cast at future; omega)
      cases callback with
      | newDevice other count =>
          have named : other = announcements past := freshLast
          have different : other ≠ vid := by
            simp only [Callback.isNewDevice, if_true] at future
            push_cast at future
            omega
          rw [vringCount_newDevice, if_neg different]
          exact ⟨dead, fun ring => by rw [latest_concat]; exact quiet ring⟩
      | destroyDevice other =>
          rw [vringCount_destroyDevice, dead]
          exact ⟨by simp, fun ring => by rw [latest_concat]; exact quiet ring⟩
      | vringStateChanged other queueId enable =>
          have different : other ≠ vid := by
            intro same
            have alive : (vringCount past other).isSome := last
            simp [same, dead] at alive
          rw [vringCount_vringStateChanged]
          refine ⟨dead, fun ring => ?_⟩
          rw [latest_concat]
          simpa [Callback.reported, different] using quiet ring

/-- Rings 0 and 1 of a live device were forwarded as enabled. -/
theorem forwarded_first_pair {vringNum : Int} (live : vringCount history vid = some vringNum)
    {ring : Nat} (low : ring < 2) : latest (Callback.forwarded vid ring) history = some 1 := by
  induction history using List.reverseRecOn generalizing vringNum with
  | nil => simp at live
  | append_singleton past callback ih =>
      have high : ¬ 2 ≤ ring := by omega
      cases callback with
      | newDevice other count =>
          rw [latest_concat, Callback.forwarded]
          by_cases own : other = vid
          · simp [own, low]
          · rw [vringCount_newDevice, if_neg own] at live
            simpa [own] using ih live
      | destroyDevice other =>
          rw [vringCount_destroyDevice] at live
          split at live
          · simp at live
          · rw [latest_concat]
            exact ih live
      | vringStateChanged other queueId enable =>
          rw [vringCount_vringStateChanged] at live
          rw [latest_concat]
          simpa [Callback.forwarded, high] using ih live

/-- Each other ring is forwarded as it is reported. -/
theorem forwarded_eq_reported {ring : Nat} (high : 2 ≤ ring) :
    Callback.forwarded vid ring = Callback.reported vid ring := by
  have above : ¬ ring < 2 := by omega
  funext callback
  cases callback <;> simp [Callback.forwarded, Callback.reported, high, above]

/-- The recorded state of a ring of a live device is its last report, and without one the state that
`on_new_device` gave it. -/
theorem ringState_eq_reported (calls : Admits rteVhostCalls history)
    (fresh : Admits vidIsPortNumber history) {vringNum : Int}
    (live : vringCount history vid = some vringNum) (ring : Nat) :
    latest (Callback.ringState vid ring) history =
      some (((latest (Callback.reported vid ring) history).map fun enable => enable != 0).getD
        (decide (ring < 2))) := by
  induction history using List.reverseRecOn generalizing vringNum with
  | nil => simp at live
  | append_singleton past callback ih =>
      obtain ⟨before, last⟩ := admits_concat.mp calls
      obtain ⟨freshBefore, freshLast⟩ := admits_concat.mp fresh
      rw [latest_concat, latest_concat]
      cases callback with
      | newDevice other count =>
          by_cases own : other = vid
          · have named : (announcements past : Int) ≤ vid := by
              have number : other = announcements past := freshLast
              omega
            have quiet := (silent_of_fresh before freshBefore named).2 ring
            simp [Callback.ringState, Callback.reported, own, quiet]
          · rw [vringCount_newDevice, if_neg own] at live
            simpa [Callback.ringState, Callback.reported, own] using ih before freshBefore live
      | destroyDevice other =>
          rw [vringCount_destroyDevice] at live
          split at live
          · simp at live
          · exact ih before freshBefore live
      | vringStateChanged other queueId enable =>
          rw [vringCount_vringStateChanged] at live
          by_cases own : other = vid ∧ queueId.toNat = ring
          · simp [Callback.ringState, Callback.reported, own]
          · simpa [Callback.ringState, Callback.reported, own] using ih before freshBefore live

end

/-- Every packet of a run is a destroy or names one of the sixteen rings. -/
theorem sent_wellFormed {parser : CmdlineParser} (loopback : parser.get "-m" = "Loopback")
    {history : List Callback} (calls : Admits rteVhostCalls history)
    (rings : Admits changesOwnRing history) {controller : VhostController}
    {sent : List PortDeviceRingState}
    (ran : VhostController.machine.run (VhostController.create (ConfigManager.initial parser)) history =
      some (controller, sent)) : ∀ packet ∈ sent, packet.WellFormed := by
  have both := VhostController.machine.run_history
    (fun past state emitted => Admits rteVhostCalls past → Admits changesOwnRing past →
      state.mode = "Loopback" ∧ ∀ packet ∈ emitted, packet.WellFormed)
    (fun _ _ => ⟨loopback, by simp⟩)
    (by
      intro past state emitted callback next later _ held stepped admitted inside
      obtain ⟨before, last⟩ := admits_concat.mp admitted
      obtain ⟨insideBefore, insideLast⟩ := admits_concat.mp inside
      obtain ⟨mode, earlier⟩ := held before insideBefore
      obtain ⟨kept, _, rfl⟩ := handle_sent (Or.inl mode) stepped
      apply And.intro (kept.trans mode)
      intro packet member
      rcases List.mem_append.mp member with old | new
      · exact earlier packet old
      · cases callback with
        | newDevice vid vringNum =>
            simp only [Callback.packets, List.mem_cons, List.not_mem_nil, or_false] at new
            rcases new with rfl | rfl <;> simp [PortDeviceRingState.WellFormed]
        | destroyDevice vid =>
            rw [List.mem_singleton.mp new]
            exact fun ring => absurd rfl ring
        | vringStateChanged vid queueId enable =>
            rw [Callback.packets] at new
            split at new
            · rw [List.mem_singleton.mp new]
              obtain ⟨vringNum, count⟩ := Option.isSome_iff_exists.mp last
              have bound := vringCount_le before count
              have own : (queueId.toNat : Int) < vringNum := by simpa [changesOwnRing, count] using insideLast
              intro _
              constructor
              · exact Int.natCast_nonneg _
              · exact lt_of_lt_of_le own bound
            · simp at new)
    ran
  exact (both calls rings).2

end Vtb

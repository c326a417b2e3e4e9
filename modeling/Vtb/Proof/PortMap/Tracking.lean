import Vtb.Proof.PortMap.Operations
import Vtb.Proof.PortMap.DeviceHistory

namespace Vtb
open Library

namespace ConfigManager

@[simp] theorem initialisedEntry_vid (config : ConfigManager) (portId vid : Int) (pairs : Nat) :
    (config.initialisedEntry portId vid pairs).vd.vid = vid := rfl

theorem initialisedEntry_numbered (config : ConfigManager) (portId vid : Int) {pairs : Nat}
    (fits : pairs ≤ maxQueuePairs) :
    (config.initialisedEntry portId vid pairs).Numbered pairs :=
  PortMap.numbered_resetPairs _ pairs fits rfl

/-- The entry that `on_new_device` leaves when the vid is the port number. -/
def connectedEntry (config : ConfigManager) (vid : Int) (pairs : Nat) : PortMap :=
  ((config.initialisedEntry vid vid pairs).setRing 0 true).setRing 1 true

theorem connectedEntry_numbered (config : ConfigManager) (vid : Int) {pairs : Nat}
    (fits : pairs ≤ maxQueuePairs) : (config.connectedEntry vid pairs).Numbered pairs :=
  ((config.initialisedEntry_numbered vid vid fits).setRing 0 true).setRing 1 true

/-- Only rings 0 and 1 of a connected entry are enabled. -/
theorem connectedEntry_ringFlag (config : ConfigManager) (vid : Int) {pairs ring : Nat}
    (fits : pairs ≤ maxQueuePairs) (inside : ring < 2 * pairs) :
    (config.connectedEntry vid pairs).ringFlag ring = some (decide (ring < 2)) := by
  have cell : ring / 2 < maxQueuePairs := by omega
  unfold connectedEntry
  rw [PortMap.ringFlag_setRing _ _ _ _ cell, PortMap.ringFlag_setRing _ _ _ _ cell]
  rw [initialisedEntry, PortMap.ringFlag_resetPairs _ _ fits inside]
  by_cases one : ring = 1
  · simp [one]
  · by_cases zero : ring = 0
    · simp [zero]
    · have high : ¬ ring < 2 := by omega
      simp [one, zero, high]

end ConfigManager

namespace VhostController

/-- A new device whose vid is the port number gets one connected entry under that key. -/
theorem onNewDevice_numbered (controller : VhostController) (pairs : Nat) (positive : 1 ≤ pairs)
    (fits : pairs ≤ maxQueuePairs) :
    controller.onNewDevice controller.portCntr (2 * pairs) =
      some ({ controller with
          config := controller.config.store controller.portCntr
            (controller.config.connectedEntry controller.portCntr pairs)
          portCntr := controller.portCntr + 1 },
        controller.notifyPortController 0 controller.portCntr 0 1 ++
          controller.notifyPortController 0 controller.portCntr 1 1) := by
  have half : (2 * (pairs : Int)).tdiv 2 = pairs := by
    rw [Int.mul_tdiv_cancel_left _ (by decide)]
  have numbered := controller.config.initialisedEntry_numbered controller.portCntr
    controller.portCntr fits
  unfold onNewDevice
  rw [half, ConfigManager.initVhostDevice_eq _ _ _ _ fits, Option.bind_some]
  rw [ConfigManager.setQueueState_eq (by simp) numbered, Option.bind_some]
  rw [if_pos (show (0 : UInt16).toNat < 2 * pairs by change 0 < 2 * pairs; omega), ConfigManager.store_store]
  rw [ConfigManager.setQueueState_eq (by simp) (numbered.setRing 0 true), Option.map_some]
  rw [if_pos (show (1 : UInt16).toNat < 2 * pairs by change 1 < 2 * pairs; omega), ConfigManager.store_store]
  rfl

/-- A new device with another vid gets an entry with all rings disabled,
and the two enables find no entry under its vid. -/
theorem onNewDevice_misfiled (controller : VhostController) (vid : Int) (pairs : Nat)
    (fits : pairs ≤ maxQueuePairs) (different : vid ≠ controller.portCntr)
    (absent : controller.config.pmap[vid]? = none) :
    controller.onNewDevice vid (2 * pairs) =
      some ({ controller with
          config := controller.config.store controller.portCntr
            (controller.config.initialisedEntry controller.portCntr vid pairs)
          portCntr := controller.portCntr + 1 },
        controller.notifyPortController 0 vid 0 1 ++ controller.notifyPortController 0 vid 1 1) := by
  have half : (2 * (pairs : Int)).tdiv 2 = pairs := by
    rw [Int.mul_tdiv_cancel_left _ (by decide)]
  have missing : (controller.config.store controller.portCntr
      (controller.config.initialisedEntry controller.portCntr vid pairs)).pmap[vid]? = none := by
    rw [ConfigManager.store_pmap, if_neg different.symm]
    exact absent
  unfold onNewDevice
  rw [half, ConfigManager.initVhostDevice_eq _ _ _ _ fits, Option.bind_some]
  rw [ConfigManager.setQueueState_absent missing, Option.bind_some]
  rw [ConfigManager.setQueueState_absent missing, Option.map_some]

/-- A ring change of a numbered entry is one direct update. -/
theorem onVringStateChanged_eq (controller : VhostController) {vid : Int} {pm : PortMap} {pairs : Nat}
    (present : controller.config.pmap[vid]? = some pm) (numbered : pm.Numbered pairs)
    (queueId : UInt16) (enable : Int) :
    controller.onVringStateChanged vid queueId enable =
      some ({ controller with
          config := controller.config.store vid
            (if queueId.toNat < 2 * pairs then pm.setRing queueId.toNat (enable != 0) else pm) },
        if queueId ≥ 2 then controller.notifyPortController 0 vid queueId enable else []) := by
  unfold onVringStateChanged
  rw [ConfigManager.setQueueState_eq present numbered]
  rfl

end VhostController

/-- The entry of a live device records its vid, its queue numbers and its last ring callbacks. -/
structure Records (history : List Callback) (vid : Int) (pm : PortMap) (pairs : Nat) : Prop where
  named : pm.vd.vid = vid
  positive : 1 ≤ pairs
  numbered : pm.Numbered pairs
  flags : ∀ ring, ring < 2 * pairs → pm.ringFlag ring = latest (Callback.ringState vid ring) history

/-- In a conforming run each live device has its entry under its own vid, and nothing else is stored. -/
structure Tracked (history : List Callback) (controller : VhostController) : Prop where
  counter : controller.portCntr = announcements history
  absent : ∀ vid, vringCount history vid = none → controller.config.pmap[vid]? = none
  present : ∀ vid vringNum, vringCount history vid = some vringNum →
    ∃ (pm : PortMap) (pairs : Nat), controller.config.pmap[vid]? = some pm ∧ vringNum = 2 * (pairs : Int) ∧
      Records history vid pm pairs

theorem tracked_initial (parser : CmdlineParser) :
    Tracked [] (VhostController.create (ConfigManager.initial parser)) where
  counter := rfl
  absent vid _ := by simp [VhostController.create, ConfigManager.initial]
  present vid vringNum live := by simp at live

/-- A callback about another device keeps the record of a device. -/
theorem Records.concat {history : List Callback} {vid : Int} {pm : PortMap} {pairs : Nat}
    (records : Records history vid pm pairs) {callback : Callback}
    (silent : ∀ ring, callback.ringState vid ring = none) :
    Records (history ++ [callback]) vid pm pairs where
  named := records.named
  positive := records.positive
  numbered := records.numbered
  flags ring inside := by
    rw [records.flags ring inside, latest_concat_of_none history (silent ring)]

/-- An even ring count between 2 and 16 is twice a number of pairs. -/
theorem pairs_of_vringNum {vringNum : Int} (even : vringNum % 2 = 0) (low : 2 ≤ vringNum)
    (high : vringNum ≤ 16) : ∃ pairs : Nat, vringNum = 2 * (pairs : Int) ∧ 1 ≤ pairs ∧ pairs ≤ maxQueuePairs :=
  ⟨(vringNum / 2).toNat, by omega, by omega, by show _ ≤ 8; omega⟩

/-- A new device under its port number is tracked. -/
theorem Tracked.newDevice {past : List Callback} {controller : VhostController} {vid vringNum : Int}
    (tracked : Tracked past controller) (allowed : rteVhostCalls past (.newDevice vid vringNum))
    (fresh : vidIsPortNumber past (.newDevice vid vringNum)) :
    ∃ next sent, controller.handle (.newDevice vid vringNum) = some (next, sent) ∧
      Tracked (past ++ [.newDevice vid vringNum]) next := by
  obtain ⟨dead, even, low, high⟩ := allowed
  obtain ⟨pairs, rfl, positive, fits⟩ := pairs_of_vringNum even low high
  obtain rfl : vid = controller.portCntr := fresh.trans tracked.counter.symm
  refine ⟨_, _, controller.onNewDevice_numbered pairs positive fits, ?_, ?_, ?_⟩
  · simp [announcements_concat, Callback.isNewDevice, tracked.counter]
  · intro other missing
    rw [vringCount_newDevice] at missing
    rw [ConfigManager.store_pmap]
    split_ifs at missing with same
    rw [if_neg same]
    exact tracked.absent other missing
  · intro other vringNum live
    rw [vringCount_newDevice] at live
    rw [ConfigManager.store_pmap]
    split_ifs at live with same
    · subst same
      refine ⟨_, pairs, if_pos rfl, (Option.some.inj live).symm, rfl, positive,
        controller.config.connectedEntry_numbered _ fits, ?_⟩
      intro ring inside
      rw [latest_concat_of_some past (decide (ring < 2)) (by simp [Callback.ringState])]
      exact controller.config.connectedEntry_ringFlag _ fits inside
    · obtain ⟨pm, size, found, count, records⟩ := tracked.present other vringNum live
      refine ⟨pm, size, by rw [if_neg same, found], count, records.concat ?_⟩
      intro ring
      simp [Callback.ringState, same]

/-- The destruction of a live device removes its entry only. -/
theorem Tracked.destroyDevice {past : List Callback} {controller : VhostController} {vid : Int}
    (tracked : Tracked past controller) :
    ∃ next sent, controller.handle (.destroyDevice vid) = some (next, sent) ∧
      Tracked (past ++ [.destroyDevice vid]) next := by
  refine ⟨_, _, rfl, ?_, ?_, ?_⟩
  · simp [announcements_concat, Callback.isNewDevice, tracked.counter]
  · intro other missing
    rw [vringCount_destroyDevice] at missing
    simp only [ConfigManager.clearDevice_pmap]
    split_ifs at missing ⊢ with same
    · rfl
    · exact tracked.absent other missing
  · intro other vringNum live
    rw [vringCount_destroyDevice] at live
    simp only [ConfigManager.clearDevice_pmap]
    split_ifs at live ⊢ with same
    obtain ⟨pm, pairs, found, count, records⟩ := tracked.present other vringNum live
    exact ⟨pm, pairs, found, count, records.concat fun ring => rfl⟩

/-- A ring change of a live device is recorded in its own entry only. -/
theorem Tracked.vringStateChanged {past : List Callback} {controller : VhostController} {vid : Int}
    {queueId : UInt16} {enable : Int} (tracked : Tracked past controller)
    (allowed : rteVhostCalls past (.vringStateChanged vid queueId enable)) :
    ∃ next sent, controller.handle (.vringStateChanged vid queueId enable) = some (next, sent) ∧
      Tracked (past ++ [.vringStateChanged vid queueId enable]) next := by
  obtain ⟨vringNum, live⟩ := Option.isSome_iff_exists.mp allowed
  obtain ⟨pm, pairs, found, count, records⟩ := tracked.present vid vringNum live
  refine ⟨_, _, controller.onVringStateChanged_eq found records.numbered queueId enable, ?_, ?_, ?_⟩
  · simp [announcements_concat, Callback.isNewDevice, tracked.counter]
  · intro other missing
    rw [vringCount_vringStateChanged] at missing
    have different : vid ≠ other := by
      rintro rfl
      simp [live] at missing
    rw [ConfigManager.store_pmap, if_neg different]
    exact tracked.absent other missing
  · intro other otherNum otherLive
    rw [vringCount_vringStateChanged] at otherLive
    rw [ConfigManager.store_pmap]
    by_cases same : vid = other
    · subst same
      obtain rfl : vringNum = otherNum := Option.some.inj (live.symm.trans otherLive)
      refine ⟨_, pairs, if_pos rfl, count, ?_⟩
      split_ifs with inside
      · refine ⟨records.named, records.positive, records.numbered.setRing _ _, ?_⟩
        intro ring within
        have fits := records.numbered.fits
        rw [PortMap.ringFlag_setRing _ _ _ _ (by omega), latest_concat]
        by_cases here : ring = queueId.toNat
        · simp [here, Callback.ringState]
        · rw [if_neg here, records.flags ring within]
          simp [Callback.ringState, Ne.symm here]
      · refine ⟨records.named, records.positive, records.numbered, ?_⟩
        intro ring within
        have here : ¬ queueId.toNat = ring := by omega
        rw [records.flags ring within, latest_concat]
        simp [Callback.ringState, here]
    · obtain ⟨otherPm, size, otherFound, otherCount, otherRecords⟩ :=
        tracked.present other otherNum otherLive
      refine ⟨otherPm, size, by rw [if_neg same, otherFound], otherCount, otherRecords.concat ?_⟩
      intro ring
      simp [Callback.ringState, same]

/-- Every call of rte_vhost keeps the port map tracked while vids equal port numbers. -/
theorem tracked_step {past : List Callback} {controller : VhostController} {callback : Callback}
    (tracked : Tracked past controller) (allowed : rteVhostCalls past callback)
    (fresh : vidIsPortNumber past callback) :
    ∃ next sent, VhostController.machine.step controller callback = some (next, sent) ∧
      Tracked (past ++ [callback]) next := by
  cases callback with
  | newDevice vid vringNum => exact tracked.newDevice allowed fresh
  | destroyDevice vid => exact tracked.destroyDevice
  | vringStateChanged vid queueId enable => exact tracked.vringStateChanged allowed

/-- A conforming run is defined and ends in a tracked port map. -/
theorem tracked_run (parser : CmdlineParser) {history : List Callback}
    (calls : Admits rteVhostCalls history) (fresh : Admits vidIsPortNumber history) :
    ∃ state sent, VhostController.machine.run
        (VhostController.create (ConfigManager.initial parser)) history = some (state, sent) ∧
      Tracked history state :=
  Machine.run_defined VhostController.machine (fun past state _ => Tracked past state)
    (tracked_initial parser)
    (fun _ _ _ _ _ tracked allowed =>
      let ⟨next, sent, stepped, kept⟩ := tracked_step tracked allowed.1 allowed.2
      ⟨next, sent, stepped, kept⟩)
    (admits_and.mpr ⟨calls, fresh⟩)

/-- The port map has exactly one entry for each live device, none for any other device,
and the flags of an entry are those of the last callback about each ring. -/
structure TracksLiveDevices (history : List Callback) (pmap : PortTable) : Prop where
  one : ∀ vid, (vringCount history vid).isSome → ∃! port : Int, ∃ pm : PortMap, pmap[port]? = some pm ∧ pm.vd.vid = vid
  live : ∀ (port : Int) (pm : PortMap), pmap[port]? = some pm → (vringCount history pm.vd.vid).isSome
  flags : ∀ (port : Int) (pm : PortMap) vringNum, pmap[port]? = some pm → vringCount history pm.vd.vid = some vringNum →
    ∀ ring : Nat, ring < vringNum → pm.ringFlag ring = latest (Callback.ringState pm.vd.vid ring) history

/-- The invariant of conforming runs gives the tracking property. -/
theorem Tracked.tracksLiveDevices {history : List Callback} {controller : VhostController}
    (tracked : Tracked history controller) : TracksLiveDevices history controller.config.pmap := by
  have entry : ∀ port pm, controller.config.pmap[port]? = some pm →
      ∃ pairs : Nat, vringCount history port = some (2 * (pairs : Int)) ∧ Records history port pm pairs := by
    intro port pm found
    cases count : vringCount history port with
    | none => simp [tracked.absent port count] at found
    | some vringNum =>
        obtain ⟨stored, pairs, there, twice, records⟩ := tracked.present port vringNum count
        obtain rfl : stored = pm := Option.some.inj (there.symm.trans found)
        exact ⟨pairs, by rw [twice], records⟩
  refine ⟨?_, ?_, ?_⟩
  · intro vid live
    obtain ⟨vringNum, count⟩ := Option.isSome_iff_exists.mp live
    obtain ⟨pm, pairs, found, _, records⟩ := tracked.present vid vringNum count
    refine ⟨vid, ⟨pm, found, records.named⟩, ?_⟩
    rintro port ⟨other, there, named⟩
    obtain ⟨_, _, otherRecords⟩ := entry port other there
    exact otherRecords.named.symm.trans named
  · intro port pm found
    obtain ⟨pairs, count, records⟩ := entry port pm found
    rw [records.named, count]
    rfl
  · intro port pm vringNum found count ring inside
    obtain ⟨pairs, counted, records⟩ := entry port pm found
    rw [records.named] at count ⊢
    obtain rfl : 2 * (pairs : Int) = vringNum := Option.some.inj (counted.symm.trans count)
    exact records.flags ring (by omega)

/-- A new device under another number than its vid is stored without the enables of rings 0 and 1. -/
theorem Tracked.misfiled {past : List Callback} {controller next : VhostController} {vid vringNum : Int}
    {sent : List PortDeviceRingState} (tracked : Tracked past controller)
    (allowed : rteVhostCalls past (.newDevice vid vringNum))
    (stale : ¬ vidIsPortNumber past (.newDevice vid vringNum))
    (stepped : controller.handle (.newDevice vid vringNum) = some (next, sent)) :
    ¬ TracksLiveDevices (past ++ [.newDevice vid vringNum]) next.config.pmap := by
  obtain ⟨dead, even, low, high⟩ := allowed
  obtain ⟨pairs, rfl, positive, fits⟩ := pairs_of_vringNum even low high
  have different : vid ≠ controller.portCntr := by
    intro same
    exact stale (same.trans tracked.counter)
  have filed := controller.onNewDevice_misfiled vid pairs fits different (tracked.absent vid dead)
  obtain ⟨rfl, _⟩ := Prod.mk.inj (Option.some.inj (filed.symm.trans stepped))
  intro tracks
  have flag := tracks.flags controller.portCntr _ (2 * pairs)
    (by rw [ConfigManager.store_pmap, if_pos rfl])
    (by rw [ConfigManager.initialisedEntry_vid, vringCount_newDevice, if_pos rfl]) 0 (by omega)
  rw [ConfigManager.initialisedEntry, PortMap.ringFlag_resetPairs _ _ fits (by omega),
    latest_concat_of_some past true (by simp [Callback.ringState, PortMap.resetPairs])] at flag
  simp at flag

/-- The run on a history ends in a port map that tracks the live devices. -/
def RunTracks (parser : CmdlineParser) (history : List Callback) : Prop :=
  ∃ state sent, VhostController.machine.run
      (VhostController.create (ConfigManager.initial parser)) history = some (state, sent) ∧
    TracksLiveDevices history state.config.pmap

/-- The port map tracks the live devices at every moment of a run exactly when
each new device has the vid that equals its port number. -/
theorem portMap_tracks_iff (parser : CmdlineParser) (history : List Callback)
    (calls : Admits rteVhostCalls history) :
    (∀ past, past <+: history → RunTracks parser past) ↔ Admits vidIsPortNumber history := by
  have prior : ∀ past input, past ++ [input] <+: history →
      Admits rteVhostCalls past ∧ rteVhostCalls past input := by
    rintro past input ⟨rest, rfl⟩
    exact admits_concat.mp calls.of_append
  apply every_prefix_iff_admits (RunTracks parser)
  · exact ⟨_, _, rfl, (tracked_initial parser).tracksLiveDevices⟩
  · intro past input within fresh _ allowed
    obtain ⟨before, last⟩ := prior past input within
    obtain ⟨state, sent, ran, tracked⟩ := tracked_run parser
      (admits_concat.mpr ⟨before, last⟩) (admits_concat.mpr ⟨fresh, allowed⟩)
    exact ⟨state, sent, ran, tracked.tracksLiveDevices⟩
  · rintro past input within fresh _ forbidden ⟨final, sent, ran, tracks⟩
    obtain ⟨before, last⟩ := prior past input within
    obtain ⟨state, emitted, earlier, tracked⟩ := tracked_run parser before fresh
    obtain ⟨middle, _, later, again, stepped, _⟩ := VhostController.machine.run_concat_eq_some.mp ran
    obtain ⟨rfl, _⟩ := Prod.mk.inj (Option.some.inj (earlier.symm.trans again))
    cases input with
    | newDevice vid vringNum => exact tracked.misfiled last forbidden stepped tracks
    | destroyDevice vid => exact forbidden trivial
    | vringStateChanged vid queueId enable => exact forbidden trivial

/-- One device connects, disconnects and connects again under the same vid. -/
def reconnect : List Callback := [.newDevice 0 2, .destroyDevice 0, .newDevice 0 2]

/-- After a reconnect the entry of the live device has ring 0 disabled, although `new_device` enabled it. -/
theorem portMap_loses_reconnect :
    ¬ ∀ (parser : CmdlineParser) (history : List Callback), Admits rteVhostCalls history →
      RunTracks parser history := by
  intro claimed
  obtain ⟨state, sent, ran, tracks⟩ := claimed ConfigManager.arguments reconnect (by decide)
  have stored : (VhostController.machine.run
      (VhostController.create (ConfigManager.initial ConfigManager.arguments)) reconnect).map
        (fun result => (result.1.config.pmap[(1 : Int)]?).map fun pm => (pm.vd.vid, pm.ringFlag 0)) =
      some (some (0, some false)) := by decide
  rw [ran, Option.map_some, Option.some.injEq, Option.map_eq_some_iff] at stored
  obtain ⟨pm, found, values⟩ := stored
  obtain ⟨named, flag⟩ := Prod.mk.inj values
  have expected := tracks.flags 1 pm 2 found (by rw [named]; decide) 0 (by decide)
  rw [flag, named] at expected
  exact absurd expected (by decide)

/-- Two devices connect in the order of their vids. -/
def twoConnects : List Callback := [.newDevice 0 2, .newDevice 1 4]

/-- Two devices with vids 0 and 1 are tracked at every moment. -/
theorem portMap_tracks_two_devices :
    Admits rteVhostCalls twoConnects ∧
      ∀ past, past <+: twoConnects → RunTracks ConfigManager.arguments past := by
  have calls : Admits rteVhostCalls twoConnects := by decide
  exact ⟨calls, (portMap_tracks_iff ConfigManager.arguments twoConnects calls).mpr (by decide)⟩

end Vtb

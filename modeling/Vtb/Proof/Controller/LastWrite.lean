import Vtb.Proof.Controller.Refinement
import Vtb.Proof.Controller.Running

namespace Vtb
open Library

/-- The packets of the vhost side: a ring state or a destroy, with a ring that the tables hold. -/
def PortDeviceRingState.InTable (pdrs : PortDeviceRingState) : Prop :=
  (pdrs.metaCode = 0 ∨ pdrs.metaCode = 1) ∧ 0 ≤ pdrs.qid ∧ pdrs.qid < 16

instance (pdrs : PortDeviceRingState) : Decidable pdrs.InTable := inferInstanceAs (Decidable (_ ∧ _))

namespace PortControllerLoopback

/-- The value that a ring state gives to one ring of a device. -/
def ringWrite (deviceId : Int) (ring : Nat) (notification : Notification) : Option Int :=
  if notification.pdrs.metaCode = 0 ∧ notification.pdrs.deviceId = deviceId ∧ notification.pdrs.qid = ring then
    some notification.pdrs.enable
  else none

/-- A ring state of the history names the device. -/
def Announced (deviceId : Int) (history : List Notification) : Prop :=
  ∃ notification ∈ history, notification.pdrs.metaCode = 0 ∧ notification.pdrs.deviceId = deviceId

/-- The tables are those of the announced devices, and a ring has its last value or -1. -/
structure LastWrites (history : List Notification) (pmap : Std.ExtTreeMap Int (List Int)) : Prop where
  known : ∀ deviceId, (pmap[deviceId]?).isSome = true ↔ Announced deviceId history
  values : ∀ (deviceId : Int) (rings : List Int), pmap[deviceId]? = some rings →
    rings.length = 16 ∧ ∀ ring : Nat, ring < 16 →
      rings[ring]? = some ((latest (ringWrite deviceId ring) history).getD (-1))

/-- A call of `start` serves a ring pair of the notified device, and both rings of the pair are at one. -/
structure SoundStart (notification : Notification) (pmap : Std.ExtTreeMap Int (List Int)) (call : StartCall) :
    Prop where
  handler : call.handler < 8
  vid : call.vid = notification.pdrs.deviceId
  rxqid : call.rxqid = 2 * (call.handler : Int)
  txqid : call.txqid = 2 * (call.handler : Int) + 1
  enabled : ∃ rings : List Int, pmap[notification.pdrs.deviceId]? = some rings ∧
    rings[2 * call.handler]? = some 1 ∧ rings[2 * call.handler + 1]? = some 1

section
variable {settings : HandlerSettings} {controller next : PortControllerLoopback}
  {notification : Notification} {past : List Notification} {calls : List HandlerCall} {deviceId : Int}

theorem announced_concat :
    Announced deviceId (past ++ [notification]) ↔
      Announced deviceId past ∨
        (notification.pdrs.metaCode = 0 ∧ notification.pdrs.deviceId = deviceId) := by
  constructor
  · intro ⟨other, member, ring, named⟩
    rcases List.mem_append.mp member with before | last
    · exact Or.inl ⟨other, before, ring, named⟩
    · rw [List.mem_singleton.mp last] at ring named
      exact Or.inr ⟨ring, named⟩
  · rintro (⟨other, member, ring, named⟩ | ⟨ring, named⟩)
    · exact ⟨other, by simp [member], ring, named⟩
    · exact ⟨notification, by simp, ring, named⟩

/-- A device that was never announced has no ring value. -/
theorem latest_of_not_announced (silent : ¬ Announced deviceId past) (ring : Nat) :
    latest (ringWrite deviceId ring) past = none := by
  cases found : latest (ringWrite deviceId ring) past with
  | none => rfl
  | some value =>
      obtain ⟨before, write, later, split, own, _⟩ := exists_of_latest found
      rw [ringWrite] at own
      split at own
      · next hit => exact absurd ⟨write, by simp [split], hit.1, hit.2.1⟩ silent
      · simp at own

/-- A destroy keeps the tables. -/
theorem LastWrites.destroyed (writes : LastWrites past controller.pmap) (gone : notification.pdrs.metaCode = 1) :
    LastWrites (past ++ [notification]) controller.pmap := by
  have ring : ¬ notification.pdrs.metaCode = 0 := by omega
  constructor
  · intro deviceId
    rw [writes.known, announced_concat]
    simp [ring]
  · intro deviceId rings found
    obtain ⟨length, values⟩ := writes.values deviceId rings found
    apply And.intro length
    intro number inside
    have silent : ringWrite deviceId number notification = none := by simp [ringWrite, ring]
    rw [values number inside, latest_concat_of_none _ silent]

/-- A ring state writes its own ring of its own device. -/
theorem LastWrites.store (writes : LastWrites past controller.pmap) (sized : controller.Sized) {qid : Nat}
    (ring : notification.pdrs.metaCode = 0) (named : notification.pdrs.qid = qid) (inside : qid < 16) :
    LastWrites (past ++ [notification]) (controller.storeRing notification.pdrs qid) := by
  constructor
  · intro deviceId
    rw [getElem?_storeRing, announced_concat, ← writes.known]
    by_cases own : notification.pdrs.deviceId = deviceId
    · simp [own, ring]
    · simp [own]
  · intro deviceId rings found
    rw [getElem?_storeRing] at found
    by_cases own : notification.pdrs.deviceId = deviceId
    · subst own
      rw [if_pos rfl] at found
      rw [← Option.some.inj found]
      apply And.intro (RingTable.length_record fun table => sized _ table)
      intro number small
      rw [RingTable.getElem?_record _ (sized _) inside, latest_concat]
      by_cases same : number = qid
      · simp [same, ringWrite, ring, named]
      · have silent : ringWrite notification.pdrs.deviceId number notification = none := by
          rw [ringWrite, if_neg]
          omega
        rw [if_neg same, silent, Option.none_or]
        cases table : controller.pmap[notification.pdrs.deviceId]? with
        | none =>
            have unknown : ¬ Announced notification.pdrs.deviceId past := by
              rw [← writes.known, table]
              simp
            rw [latest_of_not_announced unknown]
            simp [small]
        | some before => exact (writes.values _ before table).2 number small
    · rw [if_neg own] at found
      obtain ⟨length, values⟩ := writes.values deviceId rings found
      apply And.intro length
      intro number small
      have silent : ringWrite deviceId number notification = none := by simp [ringWrite, own]
      rw [values number small, latest_concat_of_none _ silent]

/-- Every notification about a ring of the tables keeps the last writes. -/
theorem Effect.lastWrites (effect : Effect settings controller notification next calls)
    (sized : controller.Sized) (inTable : notification.pdrs.InTable)
    (writes : LastWrites past controller.pmap) : LastWrites (past ++ [notification]) next.pmap := by
  have zero (ring : notification.pdrs.metaCode ≠ 1) : notification.pdrs.metaCode = 0 :=
    inTable.1.resolve_right ring
  cases effect with
  | destroyed gone => exact writes.destroyed gone
  | recorded qid ready ring named inside incomplete => exact writes.store sized (zero ring) named inside
  | bound pair inside ring named complete result attempted =>
      have odd : notification.pdrs.qid = ((2 * pair + 1 : Nat) : Int) := by omega
      exact writes.store sized (zero ring) odd (by omega)

/-- Every call of `start` is sound in the state that the notification leaves. -/
theorem Effect.soundStart (effect : Effect settings controller notification next calls)
    (sized : controller.Sized) {call : StartCall} (made : call ∈ calls.filterMap HandlerCall.startCall) :
    SoundStart notification next.pmap call := by
  cases effect with
  | destroyed gone =>
      simp [stopAll, HandlerCall.startCall] at made
  | recorded qid ready ring named inside incomplete => simp at made
  | bound pair inside ring named complete result attempted =>
      have reported : call = pairCall notification.pdrs.deviceId pair := by
        simpa [attempted, attempt_startCall] using made
      obtain ⟨_, enabled, rings, table, partner⟩ := RingTable.completes_eq_some.mp complete
      have length := sized _ _ table
      have fits : 2 * pair + 1 < rings.length := by
        rw [length]
        show 2 * pair + 1 < 16
        omega
      subst reported
      refine ⟨inside, rfl, rfl, rfl, rings.set (2 * pair + 1) 1, ?_, ?_, ?_⟩
      · rw [getElem?_storeRing, if_pos rfl, table, enabled]
        rfl
      · rw [pairCall, List.getElem?_set_ne (by omega), partner]
      · rw [pairCall, List.getElem?_set_self fits]

theorem lastWrites_initial : LastWrites [] initial.pmap where
  known deviceId := by simp [initial, Announced]
  values deviceId rings found := by simp [initial] at found

end

/-- After every sequence of notifications about rings of the tables, the tables are the last writes,
and every call of `start` was sound when it was made. -/
theorem last_writes_and_sound_starts (settings : HandlerSettings) (history : List Notification)
    (inTable : ∀ notification ∈ history, notification.pdrs.InTable) :
    ∃ final calls, (machine settings).run initial history = some (final, calls) ∧
      LastWrites history final.pmap ∧
      ∀ past notification rest, history = past ++ notification :: rest →
        ∃ before emitted after made, (machine settings).run initial past = some (before, emitted) ∧
          processNotification settings before notification = some (after, made) ∧
          ∀ call ∈ made.filterMap HandlerCall.startCall, SoundStart notification after.pmap call := by
  have wellFormed : ∀ notification ∈ history, notification.pdrs.WellFormed :=
    fun notification member _ => (inTable notification member).2
  obtain ⟨final, calls, ran⟩ : ∃ final calls, (machine settings).run initial history = some (final, calls) :=
    run_defined sized_initial wellFormed
  refine ⟨final, calls, ran, ?_, ?_⟩
  · have kept := (machine settings).run_history
      (fun past state _ => state.Sized ∧
        ((∀ notification ∈ past, notification.pdrs.InTable) → LastWrites past state.pmap))
      ⟨sized_initial, fun _ => lastWrites_initial⟩
      (by
        intro past state emitted notification next made _ ⟨sized, writes⟩ stepped
        have effect := effect_of_step sized stepped
        apply And.intro (effect.sized sized)
        intro valid
        apply effect.lastWrites sized (valid notification (by simp))
        apply writes
        intro other member
        exact valid other (by simp [member]))
      ran
    exact kept.2 inTable
  · intro past notification rest split
    rw [split] at ran
    obtain ⟨before, emitted, _, reached, continued, _⟩ := (machine settings).run_append_eq_some.mp ran
    obtain ⟨after, made, _, stepped, _, _⟩ := (machine settings).run_cons_eq_some.mp continued
    have sized := sized_run sized_initial reached
    refine ⟨before, emitted, after, made, reached, stepped, ?_⟩
    intro call started
    exact (effect_of_step sized stepped).soundStart sized started

/-- The boundary rings of two devices with a destroy between them. -/
def boundaryRings : List Notification :=
  [ringNotification 3 15 1, ringNotification 3 14 1, ringNotification 3 15 1, destroyNotification 3,
    ringNotification (-4) 0 1, ringNotification (-4) 1 1, ringNotification (-4) 0 0]

/-- The boundary rings are recorded, and their starts are sound. -/
theorem last_writes_and_sound_starts_boundary :
    (∀ notification ∈ boundaryRings, notification.pdrs.InTable) ∧
      ∃ final calls, (machine loopbackSettings).run initial boundaryRings = some (final, calls) ∧
        LastWrites boundaryRings final.pmap ∧
        ∀ past notification rest, boundaryRings = past ++ notification :: rest →
          ∃ before emitted after made, (machine loopbackSettings).run initial past = some (before, emitted) ∧
            processNotification loopbackSettings before notification = some (after, made) ∧
            ∀ call ∈ made.filterMap HandlerCall.startCall, SoundStart notification after.pmap call :=
  ⟨by decide, last_writes_and_sound_starts loopbackSettings boundaryRings (by decide)⟩

/-- The last ring of the table holds its last value, and a ring without a write holds -1. -/
example : ((machine loopbackSettings).run initial boundaryRings).bind (fun result =>
    (result.1.pmap[(3 : Int)]?).map fun rings => (rings[15]?, rings[13]?)) = some (some 1, some (-1)) := by
  decide +kernel

end PortControllerLoopback

end Vtb

import Vtb.Proof.Controller.Refinement
import Vtb.Proof.Controller.Running

namespace Vtb
open Library
namespace PortControllerLoopback

/-- The calls of `start` that a history triggers after a past, which starts in the initial state. -/
def startsAfter (settings : HandlerSettings) (past history : List Notification) :
    Option (List StartCall) :=
  ((machine settings).run initial past).bind fun reached =>
    ((machine settings).run reached.1 history).map fun result =>
      result.2.filterMap HandlerCall.startCall

/-- Each enable of the odd ring of a pair comes after a notification about the even ring. -/
def EvenMentionedFirst (pair : Nat) : List Notification → Prop :=
  Admits fun past notification => notification.pdrs.qid = 2 * (pair : Int) + 1 →
    notification.pdrs.enable = 1 → ∃ earlier ∈ past, earlier.pdrs.qid = 2 * (pair : Int)

instance (pair : Nat) (history : List Notification) : Decidable (EvenMentionedFirst pair history) :=
  inferInstanceAs (Decidable (Admits _ _))

/-- The order of the rings is the order of the switches. -/
theorem guardSetFirst_map {pair : Nat} {history : List Notification} :
    Wiring.GuardSetFirst (2 * (pair : Int)) (2 * (pair : Int) + 1) (history.map ringSetting) ↔
      EvenMentionedFirst pair history := by
  rw [Wiring.GuardSetFirst, admits_map, EvenMentionedFirst]
  have mentioned : ∀ past : List Notification,
      (∃ value, (2 * (pair : Int), value) ∈ past.map ringSetting) ↔
        ∃ earlier ∈ past, earlier.pdrs.qid = 2 * (pair : Int) := by
    intro past
    constructor
    · rintro ⟨value, member⟩
      obtain ⟨earlier, inside, same⟩ := List.mem_map.mp member
      exact ⟨earlier, inside, congrArg Prod.fst same⟩
    · rintro ⟨earlier, inside, same⟩
      exact ⟨decide (earlier.pdrs.enable = 1), List.mem_map.mpr ⟨earlier, inside, by simp [ringSetting, same]⟩⟩
  simp only [mentioned, ringSetting, Prod.mk.injEq, decide_eq_true_eq, and_imp]

/-- The ring notifications of one device start handlers as its paired switches raise signals. -/
theorem startsAfter_eq {settings : HandlerSettings} {deviceId : Int} {past second : List Notification}
    {controller : PortControllerLoopback} {calls : List HandlerCall}
    (reached : (machine settings).run initial past = some (controller, calls))
    (aboutSecond : ∀ notification ∈ second, NamesRing deviceId notification) :
    startsAfter settings past second =
      some ((ringWiring deviceId).fires (enabledRings controller deviceId) (second.map ringSetting)) := by
  have sized := sized_run sized_initial reached
  have about : AboutRings deviceId second := by
    intro notification member
    have named := aboutSecond notification member
    exact ⟨by rw [named.1]; decide, named.2.1⟩
  obtain ⟨final, starts, ran⟩ := run_defined sized
    (fun notification member _ => (aboutSecond notification member).2.2)
  rw [startsAfter, reached, Option.bind_some, ran, Option.map_some, run_refines sized about ran]

/-- The starts of a reconnected device are those of a new device, exactly when the second connection
mentions each even ring that the first one left enabled before it enables the odd ring of the pair. -/
theorem reconnect_starts_iff (settings : HandlerSettings) {deviceId : Int}
    {first second : List Notification} {destroy : Notification}
    (aboutFirst : ∀ notification ∈ first,
      notification.pdrs.deviceId = deviceId ∧ notification.pdrs.WellFormed)
    (gone : destroy.pdrs.metaCode = 1 ∧ destroy.pdrs.deviceId = deviceId)
    (aboutSecond : ∀ notification ∈ second, NamesRing deviceId notification) :
    (∃ calls, startsAfter settings (first ++ [destroy]) second = some calls) ∧
      (startsAfter settings (first ++ [destroy]) second = startsAfter settings [] second ↔
        ∀ pair : Nat, pair < 8 → latest (ringView deviceId (2 * (pair : Int))) first = some 1 →
          EvenMentionedFirst pair second) := by
  have validFirst : ∀ notification ∈ first ++ [destroy], notification.pdrs.WellFormed := by
    intro notification member
    rcases List.mem_append.mp member with early | last
    · exact (aboutFirst notification early).2
    · rw [List.mem_singleton.mp last]
      exact fun ring => absurd gone.1 ring
  obtain ⟨controller, calls, reached⟩ := run_defined sized_initial validFirst
  have sized := sized_run sized_initial reached
  have stale := startsAfter_eq reached aboutSecond
  have new := startsAfter_eq ((machine settings).run_nil initial) aboutSecond
  have closed : ∀ ring, enabledRings initial deviceId ring = false := by
    intro ring
    simp [enabledRings, RingEnabled, initial]
  have silent : ∀ ring, ringView deviceId ring destroy = none := by
    intro ring
    simp [ringView, PortDeviceRingState.ringValue, gone.1]
  have left : ∀ ring, enabledRings controller deviceId ring = true ↔
      latest (ringView deviceId ring) first = some 1 := by
    intro ring
    rw [enabledRings, decide_eq_true_eq, ringEnabled_run reached, latest_concat_of_none _ (silent ring)]
  refine ⟨⟨_, stale⟩, ?_⟩
  rw [stale, new, Option.some.injEq, Wiring.fires_eq_iff (by simp [closed])]
  constructor
  · intro ordered pair small leftOn
    have odd : (2 * (pair : Int) + 1) % 2 = 1 := by omega
    have wired : (ringWiring deviceId).guard (2 * (pair : Int) + 1) =
        some (2 * (pair : Int), pairCall deviceId ((2 * (pair : Int) + 1) / 2).toNat) :=
      ringWiring_guard.mpr ⟨odd, by omega, rfl⟩
    exact guardSetFirst_map.mp (ordered _ _ _ wired ((left _).mpr leftOn) (closed _))
  · intro ordered qid partner call wired leftOn _
    obtain ⟨odd, rfl, _⟩ := ringWiring_guard.mp wired
    have enabled : RingEnabled controller.pmap deviceId (qid - 1) := by
      simpa [enabledRings] using leftOn
    have inside := ringEnabled_inside sized enabled
    have even : qid - 1 = 2 * ((qid / 2).toNat : Int) := by omega
    have own : qid = 2 * ((qid / 2).toNat : Int) + 1 := by omega
    have mentioned := ordered (qid / 2).toNat (by omega) (by rw [← even]; exact (left _).mp leftOn)
    have first := guardSetFirst_map.mpr mentioned
    rw [← own, ← even] at first
    exact first

/-- A reconnect that enables only the odd ring starts the handler. -/
theorem reconnect_starts_stale_pair :
    ¬ ∀ (settings : HandlerSettings) (deviceId : Int) (first second : List Notification)
        (destroy : Notification),
      (∀ notification ∈ first, notification.pdrs.deviceId = deviceId ∧ notification.pdrs.WellFormed) →
      destroy.pdrs.metaCode = 1 ∧ destroy.pdrs.deviceId = deviceId →
      (∀ notification ∈ second, NamesRing deviceId notification) →
      startsAfter settings (first ++ [destroy]) second = startsAfter settings [] second := by
  intro claimed
  have same := claimed loopbackSettings 0 [ringNotification 0 0 1] [ringNotification 0 1 1]
    (destroyNotification 0) (by decide) (by decide) (by decide)
  exact absurd same (by decide)

/-- A reconnect that enables the even ring first starts the handler of its pair as a new device does. -/
theorem reconnect_starts_in_order :
    startsAfter loopbackSettings ([ringNotification 0 0 1] ++ [destroyNotification 0])
        [ringNotification 0 0 1, ringNotification 0 1 1] =
      startsAfter loopbackSettings [] [ringNotification 0 0 1, ringNotification 0 1 1] := by
  have ordered : ∀ pair : Nat, pair < 8 →
      latest (ringView 0 (2 * (pair : Int))) [ringNotification 0 0 1] = some 1 →
      EvenMentionedFirst pair [ringNotification 0 0 1, ringNotification 0 1 1] := by decide
  exact (reconnect_starts_iff loopbackSettings (by decide) (by decide) (by decide)).2.mpr ordered

end PortControllerLoopback

end Vtb

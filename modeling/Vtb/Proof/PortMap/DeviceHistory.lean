import Vtb.Library.Latest
import Vtb.Construction.VhostController

namespace Vtb
open Library

namespace Callback

/-- A callback about the life of a device gives its ring count, or says that it is gone. -/
def life (vid : Int) : Callback → Option (Option Int)
  | .newDevice other vringNum => if other = vid then some (some vringNum) else none
  | .destroyDevice other => if other = vid then some none else none
  | .vringStateChanged _ _ _ => none

/-- A new device starts with rings 0 and 1 enabled and the others disabled. -/
def ringState (vid : Int) (ring : Nat) : Callback → Option Bool
  | .newDevice other _ => if other = vid then some (decide (ring < 2)) else none
  | .destroyDevice _ => none
  | .vringStateChanged other queueId enable =>
      if other = vid ∧ queueId.toNat = ring then some (enable != 0) else none

def isNewDevice : Callback → Bool
  | .newDevice _ _ => true
  | _ => false

end Callback

/-- The ring count of a live device; a device that is not live has none. -/
def vringCount (history : List Callback) (vid : Int) : Option Int :=
  (latest (Callback.life vid) history).join

/-- The number of devices that the history announces is the next value of `port_cntr_`. -/
def announcements (history : List Callback) : Nat :=
  history.countP Callback.isNewDevice

/-- The calls that rte_vhost makes: only a device that is not live becomes new, only live devices
change or disappear, and every reported ring count is even and between 2 and 16. -/
def rteVhostCalls (past : List Callback) : Callback → Prop
  | .newDevice vid vringNum =>
      vringCount past vid = none ∧ vringNum % 2 = 0 ∧ 2 ≤ vringNum ∧ vringNum ≤ 16
  | .destroyDevice vid => (vringCount past vid).isSome
  | .vringStateChanged vid _ _ => (vringCount past vid).isSome

instance (past : List Callback) : ∀ callback, Decidable (rteVhostCalls past callback)
  | .newDevice _ _ => inferInstanceAs (Decidable (_ ∧ _ ∧ _ ∧ _))
  | .destroyDevice _ => inferInstanceAs (Decidable (_ = true))
  | .vringStateChanged _ _ _ => inferInstanceAs (Decidable (_ = true))

/-- Each new device gets the vid that equals its port number. -/
def vidIsPortNumber (past : List Callback) : Callback → Prop
  | .newDevice vid _ => vid = announcements past
  | _ => True

instance (past : List Callback) : ∀ callback, Decidable (vidIsPortNumber past callback)
  | .newDevice _ _ => inferInstanceAs (Decidable (_ = _))
  | .destroyDevice _ => inferInstanceAs (Decidable True)
  | .vringStateChanged _ _ _ => inferInstanceAs (Decidable True)

section
variable (past : List Callback)

@[simp] theorem vringCount_nil (vid : Int) : vringCount [] vid = none := rfl

theorem vringCount_newDevice (other vringNum vid : Int) :
    vringCount (past ++ [.newDevice other vringNum]) vid =
      if other = vid then some vringNum else vringCount past vid := by
  by_cases same : other = vid <;> simp [vringCount, latest_concat, Callback.life, same]

theorem vringCount_destroyDevice (other vid : Int) :
    vringCount (past ++ [.destroyDevice other]) vid =
      if other = vid then none else vringCount past vid := by
  by_cases same : other = vid <;> simp [vringCount, latest_concat, Callback.life, same]

theorem vringCount_vringStateChanged (other : Int) (queueId : UInt16) (enable vid : Int) :
    vringCount (past ++ [.vringStateChanged other queueId enable]) vid = vringCount past vid := by
  simp [vringCount, latest_concat, Callback.life]

theorem announcements_concat (callback : Callback) :
    announcements (past ++ [callback]) =
      announcements past + if callback.isNewDevice then 1 else 0 := by
  rw [announcements, List.countP_append]
  cases callback <;> rfl

end

end Vtb

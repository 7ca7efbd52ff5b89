import SaneInTheMembrane.SaneDevice

/-!
The calls of the backend behind the operations of the device wrapper, each with
the handle it passes and what the backend answers. Sequences of calls in which
every `sane_close` directly follows a `sane_cancel` of its handle can be put
together.
-/

namespace SaneInTheMembrane.SaneCalls
open SaneDevice

/-- A handle argument is `none` for the null handle. -/
inductive SaneCall where
  | «open» (answer : OpenAnswer)
  | start (handle : Option Nat) (status : SaneStatus)
  | getParameters (handle : Option Nat) (answer : SaneStatus × SaneParameters)
  | read (handle : Option Nat) (read : SaneRead)
  | cancel (handle : Option Nat)
  | close (handle : Option Nat)

namespace SaneCall

def opens : SaneCall → Bool
  | .open (.opened _) => true
  | _ => false

def closes : SaneCall → Bool
  | .close _ => true
  | _ => false

def passes : SaneCall → Option (Option Nat)
  | .open _ => none
  | .start handle _ | .getParameters handle _ | .read handle _ | .cancel handle
  | .close handle => some handle

end SaneCall

section Operations
variable (device : CSaneDevice)

def openCalls (answer : OpenAnswer) : List SaneCall := [.open answer]

def closeCalls : List SaneCall :=
  if device.handle = none then [] else [.cancel device.handle, .close device.handle]

def startCalls (answer : SaneStatus) : List SaneCall :=
  if device.Startable then [.start device.handle answer] else []

def refreshCalls (answer : SaneStatus × SaneParameters) : List SaneCall :=
  if device.handle = none then [] else [.getParameters device.handle answer]

def readCalls (answers : List SaneRead) : List SaneCall :=
  if device.Readable then answers.map fun read => .read device.handle read else []

/-- Unlike the other operations, `cancel` does not look at the handle. -/
def cancelCalls : List SaneCall := [.cancel device.handle]

end Operations

section Closing

/-- Every `sane_close` is immediately preceded by `sane_cancel` on its handle. -/
def CancelledFirst (calls : List SaneCall) : Prop :=
  ∀ index handle, calls[index]? = some (.close handle) →
    ∃ before, index = before + 1 ∧ calls[before]? = some (.cancel handle)

theorem cancelledFirst_append {front back : List SaneCall} (first : CancelledFirst front)
    (second : CancelledFirst back) : CancelledFirst (front ++ back) := by
  intro index handle closed
  by_cases inside : index < front.length
  · rw [List.getElem?_append_left inside] at closed
    obtain ⟨before, rfl, cancelled⟩ := first index handle closed
    exact ⟨before, rfl, by rw [List.getElem?_append_left (by omega), cancelled]⟩
  · rw [List.getElem?_append_right (by omega)] at closed
    obtain ⟨before, same, cancelled⟩ := second _ handle closed
    refine ⟨front.length + before, by omega, ?_⟩
    rw [List.getElem?_append_right (by omega)]
    simpa using cancelled

def Quiet (calls : List SaneCall) : Prop :=
  ∀ call ∈ calls, call.opens = false ∧ call.closes = false

theorem quiet_append {front back : List SaneCall} (first : Quiet front) (second : Quiet back) :
    Quiet (front ++ back) := by
  intro call member
  exact (List.mem_append.mp member).elim (first call) (second call)

theorem quiet_counts {calls : List SaneCall} (quiet : Quiet calls) :
    calls.countP SaneCall.opens = 0 ∧ calls.countP SaneCall.closes = 0 := by
  constructor
  · rw [List.countP_eq_zero]
    intro call member
    simp [(quiet call member).1]
  · rw [List.countP_eq_zero]
    intro call member
    simp [(quiet call member).2]

theorem cancelledFirst_of_closeless {calls : List SaneCall}
    (closeless : ∀ call ∈ calls, call.closes = false) : CancelledFirst calls := by
  intro index handle closed
  cases closeless _ (List.mem_of_getElem? closed)

theorem quiet_cancelledFirst {calls : List SaneCall} (quiet : Quiet calls) :
    CancelledFirst calls :=
  cancelledFirst_of_closeless fun call member => (quiet call member).2

theorem startCalls_quiet (device : CSaneDevice) (answer : SaneStatus) :
    Quiet (startCalls device answer) := by
  unfold startCalls
  split <;> simp [Quiet, SaneCall.opens, SaneCall.closes]

theorem refreshCalls_quiet (device : CSaneDevice) (answer : SaneStatus × SaneParameters) :
    Quiet (refreshCalls device answer) := by
  unfold refreshCalls
  split <;> simp [Quiet, SaneCall.opens, SaneCall.closes]

theorem readCalls_quiet (device : CSaneDevice) (answers : List SaneRead) :
    Quiet (readCalls device answers) := by
  unfold readCalls
  split <;> simp [Quiet, SaneCall.opens, SaneCall.closes]

theorem cancelCalls_quiet (device : CSaneDevice) : Quiet (cancelCalls device) := by
  simp [Quiet, cancelCalls, SaneCall.opens, SaneCall.closes]

theorem closeCalls_cancelledFirst (device : CSaneDevice) :
    CancelledFirst (closeCalls device) := by
  unfold closeCalls
  split
  · exact cancelledFirst_of_closeless (by simp)
  · intro index handle closed
    cases index with
    | zero => simp at closed
    | succ index =>
        cases index with
        | zero => exact ⟨0, rfl, by simpa using closed⟩
        | succ index => simp at closed

end Closing
end SaneInTheMembrane.SaneCalls

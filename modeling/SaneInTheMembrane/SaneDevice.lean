import Mathlib.Data.List.Basic

/-!
The device wrapper. What the SANE backend answers is an argument of each
operation; the wrapper decides whether the backend is called at all and what it
remembers of the answer.
-/

namespace SaneInTheMembrane.SaneDevice

inductive SaneStatus where
  | good | unsupported | cancelled | deviceBusy | inval | eof | jammed | noDocs
  | coverOpen | ioError | noMem | accessDenied
  deriving DecidableEq, Repr

inductive SaneFrame where
  | gray | rgb | red | green | blue
  deriving DecidableEq, Repr

structure SaneParameters where
  format : SaneFrame := .gray
  lastFrame : Bool := false
  bytesPerLine : Int32 := 0
  pixelsPerLine : Int32 := 0
  lines : Int32 := 0
  depth : Int32 := 0
  deriving DecidableEq

def bufferSize : Nat := 2048

/-- One answer of `sane_read`: its status and the bytes it stored. -/
structure SaneRead where
  status : SaneStatus
  data : List UInt8
  fits : data.length ≤ bufferSize

def SaneRead.empty (status : SaneStatus) : SaneRead := ⟨status, [], Nat.zero_le _⟩

/-- What `sane_open` does: it stores a handle and returns GOOD, or it returns an
error and leaves the handle argument as it was. -/
inductive OpenAnswer where
  | opened (handle : Nat)
  | refused (status : SaneStatus) (failed : status ≠ .good)

inductive EState where
  | opened | closed | started | cancelling
  deriving DecidableEq, Repr

/-- `handle` is `none` for the null handle. -/
structure CSaneDevice where
  deviceName : String
  handle : Option Nat := none
  parameters : SaneParameters := {}
  currentState : EState := .closed
  deriving DecidableEq

namespace CSaneDevice

def «open» (device : CSaneDevice) : OpenAnswer → SaneStatus × CSaneDevice
  | .opened handle => (.good, { device with handle := some handle, currentState := .opened })
  | .refused status _ => (status, device)

def close (device : CSaneDevice) : CSaneDevice :=
  if device.handle = none then device
  else { device with handle := none, currentState := .closed }

/-- `start` calls the backend only with an open handle. -/
def Startable (device : CSaneDevice) : Prop :=
  device.handle ≠ none ∧ device.currentState = .opened

def Readable (device : CSaneDevice) : Prop :=
  device.handle ≠ none ∧ device.currentState = .started

instance (device : CSaneDevice) : Decidable device.Startable :=
  inferInstanceAs (Decidable (_ ∧ _))

instance (device : CSaneDevice) : Decidable device.Readable :=
  inferInstanceAs (Decidable (_ ∧ _))

def start (device : CSaneDevice) (answer : SaneStatus) : SaneStatus × CSaneDevice :=
  if device.Startable then
    (answer, if answer = .good then { device with currentState := .started } else device)
  else (.inval, device)

/-- The answer holds what the parameters are after the call. -/
def refreshParameters (device : CSaneDevice) (answer : SaneStatus × SaneParameters) :
    SaneStatus × CSaneDevice :=
  if device.handle = none then (.inval, device)
  else (answer.1, { device with parameters := answer.2 })

def read (device : CSaneDevice) (answer : SaneRead) : SaneRead :=
  if device.Readable then answer else .empty .inval

/-- The state is CANCELLING only while `sane_cancel` runs. -/
def cancel (device : CSaneDevice) : CSaneDevice :=
  let oldState := device.currentState
  let cancelling := { device with currentState := .cancelling }
  { cancelling with currentState := oldState }

end CSaneDevice
end SaneInTheMembrane.SaneDevice

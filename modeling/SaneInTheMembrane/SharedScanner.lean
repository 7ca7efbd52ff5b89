import Mathlib.Logic.Function.Basic
import SaneInTheMembrane.Runs
import SaneInTheMembrane.ScanReactor

/-!
Scan calls that share one device object. The handlers of a reactor run one at a
time, in any order among the calls. Beside the device the world keeps what the
code does not: which call opened the handle, and the calls made on it.
-/

namespace SaneInTheMembrane.SharedScanner
open SaneDevice ScanReactor CScanResponseReactor

section Machine

/-- The mock gives out its one handle again and again, and its devices start. Any
other backend refuses to open a device that is open. -/
inductive Backend where
  | mock (handle : Nat)
  | exclusive
  deriving DecidableEq

/-- The answers that the backend may give to a new call. It has the device open
while the device object has a handle. -/
def Backend.gives (backend : Backend) (device : CSaneDevice) (answers : StartAnswers) : Bool :=
  match backend, answers.opening with
  | .mock known, .opened handle =>
      handle == known && answers.starting == .good && answers.parameters.1 == .good
  | .mock _, .refused _ _ => false
  | .exclusive, .opened _ => device.handle.isNone
  | .exclusive, .refused status _ => device.handle.isNone || status == .deviceBusy

inductive HandleCall where
  | start (status : SaneStatus)
  | read (read : SaneRead)
  | cancel
  | close

inductive Slot where
  | absent
  | live (reactor : CScanResponseReactor)
  | gone (reactor : CScanResponseReactor)
  deriving DecidableEq

structure World (Rpc : Type) where
  device : CSaneDevice
  opener : Option Rpc := none
  slots : Rpc → Slot := fun _ => .absent
  log : List (Rpc × HandleCall) := []

inductive Label (Rpc : Type) where
  | construct (rpc : Rpc) (answers : StartAnswers)
  | writeDone (rpc : Rpc) (ok : Bool) (answers : List SaneRead)
  | cancel (rpc : Rpc)
  | done (rpc : Rpc)

def Label.rpc {Rpc : Type} : Label Rpc → Rpc
  | .construct rpc _ | .writeDone rpc _ _ | .cancel rpc | .done rpc => rpc

inductive Blocked where
  | taken | noReactor | noWrite | unfinished | noAnswer
  deriving DecidableEq

variable {Rpc : Type} [DecidableEq Rpc]

def initial (name : String) : World Rpc where
  device := { deviceName := name }

namespace World

def construct (world : World Rpc) (rpc : Rpc) (answers : StartAnswers) : World Rpc :=
  let made := make world.device answers
  let shown := { world with
    device := made.2
    slots := Function.update world.slots rpc (.live made.1) }
  match answers.opening with
  | .opened _ =>
      { shown with
        opener := some rpc
        log := world.log ++ [(rpc, .start answers.starting)] }
  | .refused _ _ => shown

def writeDone (world : World Rpc) (rpc : Rpc) (next : CScanResponseReactor)
    (answers : List SaneRead) : World Rpc :=
  { world with
    slots := Function.update world.slots rpc (.live next)
    log := world.log ++
      -- Without a started device `read` answers INVAL by itself.
      if world.device.Readable then answers.map fun read => (rpc, .read read) else [] }

def cancel (world : World Rpc) (rpc : Rpc) : World Rpc :=
  { world with
    device := onCancel world.device
    log := world.log ++ if world.device.handle = none then [] else [(rpc, .cancel)] }

def done (world : World Rpc) (rpc : Rpc) (reactor : CScanResponseReactor) : World Rpc where
  device := onDone world.device
  opener := none
  slots := Function.update world.slots rpc (.gone reactor)
  log := world.log ++
    -- `close` cancels what the driver may still be doing.
    if world.device.handle = none then [] else [(rpc, .cancel), (rpc, .close)]

@[simp] theorem writeDone_slots (world : World Rpc) (rpc : Rpc) (next : CScanResponseReactor)
    (answers : List SaneRead) :
    (world.writeDone rpc next answers).slots = Function.update world.slots rpc (.live next) := rfl

@[simp] theorem done_slots (world : World Rpc) (rpc : Rpc) (reactor : CScanResponseReactor) :
    (world.done rpc reactor).slots = Function.update world.slots rpc (.gone reactor) := rfl

@[simp] theorem construct_slots (world : World Rpc) (rpc : Rpc) (answers : StartAnswers) :
    (world.construct rpc answers).slots =
      Function.update world.slots rpc (.live (make world.device answers).1) := by
  unfold construct
  cases answers.opening <;> rfl

@[simp] theorem construct_device (world : World Rpc) (rpc : Rpc) (answers : StartAnswers) :
    (world.construct rpc answers).device = (make world.device answers).2 := by
  unfold construct
  cases answers.opening <;> rfl

end World

/-- One handler of one call. OnDone comes once the call is finished and no write
is outstanding. -/
def step (backend : Backend) (world : World Rpc) : Label Rpc → Except Blocked (World Rpc)
  | .construct rpc answers =>
      match world.slots rpc with
      | .absent =>
          if backend.gives world.device answers then .ok (world.construct rpc answers)
          else .error .noAnswer
      | _ => .error .taken
  | .writeDone rpc ok answers =>
      match world.slots rpc with
      | .live reactor =>
          if reactor.base.outstanding = 0 then .error .noWrite
          else
            match reactor.onWriteDone world.device ok answers with
            | some (next, []) => .ok (world.writeDone rpc next answers)
            | _ => .error .noAnswer
      | _ => .error .noReactor
  | .cancel rpc =>
      match world.slots rpc with
      | .live _ => .ok (world.cancel rpc)
      | _ => .error .noReactor
  | .done rpc =>
      match world.slots rpc with
      | .live reactor =>
          if reactor.finished = true ∧ reactor.base.outstanding = 0 then
            .ok (world.done rpc reactor)
          else .error .unfinished
      | _ => .error .noReactor

/-- A call comes while the device is free, or is refused while another scan runs;
it cancels and closes no handle but its own. -/
def Separate (backend : Backend) (world : World Rpc) : Label Rpc → Prop
  | .construct _ _ => world.device.handle = none ∨
      backend = .exclusive ∧ world.device.currentState = .started
  | .writeDone _ _ _ => True
  | .cancel rpc | .done rpc => world.device.handle = none ∨ world.opener = some rpc

instance (backend : Backend) (world : World Rpc) :
    (label : Label Rpc) → Decidable (Separate backend world label)
  | .construct _ _ => inferInstanceAs (Decidable (_ ∨ _ ∧ _))
  | .writeDone _ _ _ => isTrue trivial
  | .cancel _ | .done _ => inferInstanceAs (Decidable (_ ∨ _))

end Machine

section Steps
variable {Rpc : Type} [DecidableEq Rpc] {backend : Backend} {world next : World Rpc}

theorem update_cases {slots : Rpc → Slot} {slot : Slot} {rpc other : Rpc} (holds : Slot → Prop)
    (now : holds (Function.update slots rpc slot other)) :
    other = rpc ∧ holds slot ∨ other ≠ rpc ∧ holds (slots other) := by
  by_cases same : other = rpc
  · subst same
    rw [Function.update_self] at now
    exact .inl ⟨rfl, now⟩
  · rw [Function.update_of_ne same] at now
    exact .inr ⟨same, now⟩

inductive Taken (backend : Backend) (world : World Rpc) : Label Rpc → World Rpc → Prop where
  | construct (rpc : Rpc) (answers : StartAnswers) (free : world.slots rpc = .absent)
      (given : backend.gives world.device answers = true) :
      Taken backend world (.construct rpc answers) (world.construct rpc answers)
  | writeDone (rpc : Rpc) (ok : Bool) (answers : List SaneRead)
      (reactor changed : CScanResponseReactor) (live : world.slots rpc = .live reactor)
      (waiting : reactor.base.outstanding ≠ 0)
      (handled : reactor.onWriteDone world.device ok answers = some (changed, [])) :
      Taken backend world (.writeDone rpc ok answers) (world.writeDone rpc changed answers)
  | cancel (rpc : Rpc) (reactor : CScanResponseReactor) (live : world.slots rpc = .live reactor) :
      Taken backend world (.cancel rpc) (world.cancel rpc)
  | done (rpc : Rpc) (reactor : CScanResponseReactor) (live : world.slots rpc = .live reactor)
      (finished : reactor.finished = true) (idle : reactor.base.outstanding = 0) :
      Taken backend world (.done rpc) (world.done rpc reactor)

theorem step_taken (label : Label Rpc) (taken : step backend world label = .ok next) :
    Taken backend world label next := by
  cases label with
  | construct rpc answers =>
      cases slot : world.slots rpc <;> simp only [step, slot, reduceCtorEq] at taken
      split at taken
      next given =>
          cases taken
          exact .construct rpc answers slot given
      next => cases taken
  | writeDone rpc ok answers =>
      cases slot : world.slots rpc <;> simp only [step, slot, reduceCtorEq] at taken
      rename_i reactor
      split at taken
      next => cases taken
      next waiting =>
        split at taken
        next changed handled =>
            cases taken
            exact .writeDone rpc ok answers reactor changed slot waiting handled
        next => cases taken
  | cancel rpc =>
      cases slot : world.slots rpc <;> simp only [step, slot, reduceCtorEq] at taken
      rename_i reactor
      cases taken
      exact .cancel rpc reactor slot
  | done rpc =>
      cases slot : world.slots rpc <;> simp only [step, slot, reduceCtorEq] at taken
      rename_i reactor
      split at taken
      next ended =>
          cases taken
          exact .done rpc reactor slot ended.1 ended.2
      next => cases taken

end Steps
end SaneInTheMembrane.SharedScanner

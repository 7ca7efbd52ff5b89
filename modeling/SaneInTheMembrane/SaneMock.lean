import SaneInTheMembrane.SaneDevice

/-!
The mock backend, mock/SaneMock.cpp. A handle is created once for each device
name and never given up, so two devices of one name share it. A handle pointer is
the index of the handle; the null handle is no handle of the mock.
-/

namespace SaneInTheMembrane.SaneMock
open SaneDevice

inductive Fault where
  | assertFailed (message : String)
  | nullHandle
  deriving DecidableEq, Repr

structure CMockHandle where
  deviceName : String
  «open» : Bool := false
  parameters : SaneParameters := ⟨.red, true, 1024, 1024, 1024, 8⟩
  started : Bool := false
  cancelled : Bool := false
  maxReadLength : Nat := 1024
  bytesRead : Nat := 0
  deriving DecidableEq

def CMockHandle.readBytesCapacity (handle : CMockHandle) : Nat :=
  if handle.maxReadLength < handle.bytesRead then 0 else handle.maxReadLength - handle.bytesRead

structure CSaneState where
  devices : List String
  handles : List CMockHandle := []
  deriving DecidableEq

namespace CSaneState
variable (state : CSaneState)

def getHandle (handle : Option Nat) : Option CMockHandle :=
  handle.bind fun index => state.handles[index]?

def setHandle (handle : Option Nat) (changed : CMockHandle) : CSaneState :=
  match handle with
  | some index => { state with handles := state.handles.set index changed }
  | none => state

def getOrCreateHandle (deviceName : String) : Option Nat × CSaneState :=
  match state.handles.findIdx? (fun handle => handle.deviceName == deviceName) with
  | some index => (some index, state)
  | none =>
      if deviceName ∈ state.devices then
        (some state.handles.length,
          { state with handles := state.handles ++ [{ deviceName }] })
      else (none, state)

/-- `sane_open` writes the handle and opens it. The null check is on the argument,
so an unknown name dereferences null. -/
def saneOpen (deviceName : String) : Except Fault (Nat × CSaneState) :=
  -- An empty name means the first device.
  match if deviceName = "" then state.devices.head? else some deviceName with
  | none => .error .nullHandle
  | some deviceName =>
      match state.getOrCreateHandle deviceName with
      | (none, _) => .error .nullHandle
      | (some index, created) =>
          match created.getHandle (some index) with
          | none => .error .nullHandle
          | some mock => .ok (index, created.setHandle (some index) { mock with «open» := true })

def saneClose (handle : Option Nat) : Except Fault CSaneState :=
  match state.getHandle handle with
  | none => .ok state
  | some mock =>
      if mock.cancelled then
        .ok (state.setHandle handle { mock with «open» := false, cancelled := false })
      else .error (.assertFailed "Device action was not cancelled before closing.")

def saneGetParameters (params : SaneParameters) (handle : Option Nat) :
    SaneStatus × SaneParameters :=
  match state.getHandle handle with
  | none => (.inval, params)
  | some mock => (.good, mock.parameters)

def saneStart (handle : Option Nat) : SaneStatus × CSaneState :=
  match state.getHandle handle with
  | none => (.inval, state)
  | some mock => (.good, state.setHandle handle { mock with started := true, cancelled := false })

def ones (count : Nat) (status : SaneStatus) : SaneRead where
  status
  data := List.replicate (min bufferSize count) 1
  fits := by
    rw [List.length_replicate]
    exact Nat.min_le_left _ _

def saneRead (handle : Option Nat) : Except Fault (SaneRead × CSaneState) :=
  match state.getHandle handle with
  | none => .ok (.empty .inval, state)
  | some mock =>
      if mock.started then
        let capacity := mock.readBytesCapacity
        if capacity = 0 then .ok (ones 0 .eof, state)
        else .ok (ones capacity .good, state.setHandle handle
          { mock with bytesRead := mock.bytesRead + min bufferSize capacity })
      else .error (.assertFailed "Invalid read. Reading from a device that has not started.")

def saneCancel (handle : Option Nat) : CSaneState :=
  match state.getHandle handle with
  | none => state
  | some mock => state.setHandle handle { mock with started := false, cancelled := true }

def Started (handle : Option Nat) : Prop :=
  ∃ mock, state.getHandle handle = some mock ∧ mock.started = true

def Known (handle : Option Nat) : Prop := (state.getHandle handle).isSome = true

end CSaneState

section Effects
variable {state next : CSaneState} {handle other : Option Nat}

@[simp] theorem getHandle_none : state.getHandle none = none := rfl

theorem getHandle_setHandle (changed : CMockHandle) (known : state.Known handle) :
    (state.setHandle handle changed).getHandle other =
      if other = handle then some changed else state.getHandle other := by
  cases handle with
  | none => simp [CSaneState.Known] at known
  | some index =>
      cases other with
      | none => simp [CSaneState.getHandle]
      | some position =>
          have inside : index < state.handles.length := by
            simpa [CSaneState.Known, CSaneState.getHandle] using known
          simp only [CSaneState.getHandle, CSaneState.setHandle, Option.bind_some,
            Option.some.injEq]
          by_cases same : position = index
          · subst same
            simp [inside]
          · simp [same, Ne.symm same]

theorem setHandle_known (changed : CMockHandle) (known : state.Known handle) :
    (state.setHandle handle changed).Known other ↔ state.Known other := by
  unfold CSaneState.Known
  rw [getHandle_setHandle changed known]
  by_cases here : other = handle
  · rw [if_pos here, here]
    exact iff_of_true rfl known
  · rw [if_neg here]

/-- Everything known stays known, and what was started stays so, but perhaps for
one handle. -/
structure KeepsBut (handle : Option Nat) (state next : CSaneState) : Prop where
  known : ∀ other, state.Known other → next.Known other
  started : ∀ other, other ≠ handle → state.Started other → next.Started other

theorem setHandle_keepsBut (changed : CMockHandle) (known : state.Known handle) :
    KeepsBut handle state (state.setHandle handle changed) where
  known _ := (setHandle_known changed known).mpr
  started other apart := by
    rintro ⟨mock, present, started⟩
    exact ⟨mock, by rw [getHandle_setHandle changed known, if_neg apart, present], started⟩

theorem setHandle_started (changed : CMockHandle) (known : state.Known handle) :
    (state.setHandle handle changed).Started handle ↔ changed.started = true := by
  unfold CSaneState.Started
  rw [getHandle_setHandle changed known, if_pos rfl]
  simp

theorem getOrCreateHandle_keeps (deviceName : String) (index : Nat)
    (got : state.getOrCreateHandle deviceName = (some index, next)) :
    ∀ other mock, state.getHandle other = some mock → next.getHandle other = some mock := by
  unfold CSaneState.getOrCreateHandle at got
  split at got
  next => cases got; exact fun _ _ present => present
  next =>
    split at got
    next =>
        cases got
        intro other mock present
        cases other with
        | none => simp at present
        | some position =>
            have inside : position < state.handles.length := by
              simp only [CSaneState.getHandle, Option.bind_some] at present
              exact (List.getElem?_eq_some_iff.mp present).1
            simpa [CSaneState.getHandle, List.getElem?_append_left inside] using present
    next => cases got

theorem saneOpen_effect (deviceName : String) (index : Nat)
    (opened : state.saneOpen deviceName = .ok (index, next)) :
    next.Known (some index) ∧ (∀ other, state.Known other → next.Known other) ∧
      ∀ other, state.Started other → next.Started other := by
  unfold CSaneState.saneOpen at opened
  split at opened
  next => cases opened
  next name _ =>
    split at opened
    next => cases opened
    next position created got =>
      split at opened
      next => cases opened
      next mock present =>
          cases opened
          have kept := getOrCreateHandle_keeps name index got
          have known : created.Known (some index) := by simp [CSaneState.Known, present]
          have keeps := setHandle_keepsBut { mock with «open» := true } known
          refine ⟨keeps.known _ known, fun other held => keeps.known other ?_, ?_⟩
          · obtain ⟨found, same⟩ := Option.isSome_iff_exists.mp held
            simp [CSaneState.Known, kept other found same]
          · rintro other ⟨found, same, started⟩
            by_cases here : other = some index
            · subst here
              have equal : found = mock := by simpa [present] using (kept _ found same).symm
              exact (setHandle_started _ known).mpr (equal ▸ started)
            · exact keeps.started other here ⟨found, kept other found same, started⟩

theorem saneStart_effect (known : state.Known handle) :
    (state.saneStart handle).1 = .good ∧ (state.saneStart handle).2.Started handle ∧
      KeepsBut handle state (state.saneStart handle).2 := by
  obtain ⟨mock, present⟩ := Option.isSome_iff_exists.mp known
  simp only [CSaneState.saneStart, present]
  exact ⟨trivial, (setHandle_started _ known).mpr rfl, setHandle_keepsBut _ known⟩

theorem saneRead_effect (started : state.Started handle) :
    ∃ read next, state.saneRead handle = .ok (read, next) ∧ next.Started handle ∧
      KeepsBut handle state next := by
  obtain ⟨mock, present, running⟩ := started
  have known : state.Known handle := by simp [CSaneState.Known, present]
  simp only [CSaneState.saneRead, present, running, ↓reduceIte]
  split
  · exact ⟨_, _, rfl, ⟨mock, present, running⟩, fun _ held => held, fun _ _ held => held⟩
  · exact ⟨_, _, rfl, (setHandle_started _ known).mpr rfl, setHandle_keepsBut _ known⟩

theorem saneCancel_effect (known : state.Known handle) :
    ¬ (state.saneCancel handle).Started handle ∧
      KeepsBut handle state (state.saneCancel handle) := by
  obtain ⟨mock, present⟩ := Option.isSome_iff_exists.mp known
  simp only [CSaneState.saneCancel, present]
  exact ⟨by simp [setHandle_started _ known], setHandle_keepsBut _ known⟩

theorem saneClose_effect (known : state.Known handle) :
    ∃ next, (state.saneCancel handle).saneClose handle = .ok next ∧
      ¬ next.Started handle ∧ KeepsBut handle state next := by
  obtain ⟨mock, present⟩ := Option.isSome_iff_exists.mp known
  have cancelled : (state.saneCancel handle).getHandle handle =
      some { mock with started := false, cancelled := true } := by
    simp only [CSaneState.saneCancel, present]
    rw [getHandle_setHandle _ known, if_pos rfl]
  obtain ⟨-, keeps⟩ := saneCancel_effect known
  have still := keeps.known handle known
  simp only [CSaneState.saneClose, cancelled, ↓reduceIte]
  refine ⟨_, rfl, by simp [setHandle_started _ still], ?_⟩
  have closed := setHandle_keepsBut
    { mock with «open» := false, started := false, cancelled := false } still
  exact ⟨fun other held => closed.known other (keeps.known other held),
    fun other apart held => closed.started other apart (keeps.started other apart held)⟩

end Effects
end SaneInTheMembrane.SaneMock

import Mathlib.Logic.Function.Basic
import SaneInTheMembrane.Runs
import SaneInTheMembrane.SaneCalls
import SaneInTheMembrane.SaneMock

/-!
Any number of device objects over the mock backend. The wrapper mirrors the state
of its handle, and the mirror is right until a `cancel`, which puts the old state
back, or the `close` of another object of the same name stops a handle behind the
back of an object that has started it. The next read then fails an assertion.
-/

namespace SaneInTheMembrane.SaneProtocol
open SaneDevice SaneCalls SaneMock

section Machine

inductive Operation where
  | «open» | close | start | read | refreshParameters | cancel
  deriving DecidableEq, Repr

structure World (Device : Type) where
  mock : CSaneState
  devices : Device → CSaneDevice
  calls : List SaneCall := []

variable {Device : Type} [DecidableEq Device]

def initial (mock : CSaneState) (names : Device → String) : World Device where
  mock := mock
  devices device := { deviceName := names device }

def World.after (world : World Device) (device : Device) (mock : CSaneState)
    (changed : CSaneDevice) (calls : List SaneCall) : World Device :=
  ⟨mock, Function.update world.devices device changed, world.calls ++ calls⟩

/-- An operation of one device object. The wrapper asks the mock when its own
guards let it. -/
def step (world : World Device) : Device × Operation → Except Fault (World Device)
  | (object, operation) =>
      let device := world.devices object
      let mock := world.mock
      match operation with
      | .open =>
          match mock.saneOpen device.deviceName with
          | .ok (handle, next) => .ok (world.after object next
              (device.open (.opened handle)).2 (openCalls (.opened handle)))
          | .error fault => .error fault
      | .close =>
          if device.handle = none then .ok (world.after object mock device.close [])
          else
            match (mock.saneCancel device.handle).saneClose device.handle with
            | .ok next => .ok (world.after object next device.close (closeCalls device))
            | .error fault => .error fault
      | .start =>
          let answer := if device.Startable then mock.saneStart device.handle else (.inval, mock)
          .ok (world.after object answer.2 (device.start answer.1).2 (startCalls device answer.1))
      | .read =>
          if device.Readable then
            match mock.saneRead device.handle with
            | .ok (read, next) => .ok (world.after object next device (readCalls device [read]))
            | .error fault => .error fault
          else .ok (world.after object mock device [])
      | .refreshParameters =>
          let answer := mock.saneGetParameters device.parameters device.handle
          .ok (world.after object mock (device.refreshParameters answer).2
            (refreshCalls device answer))
      | .cancel =>
          .ok (world.after object (mock.saneCancel device.handle) device.cancel
            (cancelCalls device))

/-- No call has passed the null handle, and STARTED objects have started handles. -/
structure Obeys (world : World Device) : Prop where
  noNull : ∀ call ∈ world.calls, call.passes ≠ some none
  mirrored : ∀ object, (world.devices object).currentState = .started →
    world.mock.Started (world.devices object).handle

def Unasserted (fault : Fault) : Prop := ∀ message, fault ≠ .assertFailed message

/-- The run is within the protocol, or ends because a device does not open. -/
def Lawful : Except Fault (World Device) → Prop := Runs.Ends Obeys Unasserted

/-- `cancel` has a handle and no object has started it; `close` stops no other
object. -/
def Careful (world : World Device) : Device × Operation → Prop
  | (object, .cancel) => (world.devices object).handle ≠ none ∧
      ∀ other, (world.devices other).handle = (world.devices object).handle →
        (world.devices other).currentState ≠ .started
  | (object, .close) => (world.devices object).handle ≠ none →
      ∀ other, other ≠ object → (world.devices other).handle = (world.devices object).handle →
        (world.devices other).currentState ≠ .started
  | _ => True

end Machine

section Steps
variable {Device : Type} [DecidableEq Device] {world : World Device}

structure Sound (world : World Device) : Prop where
  obeys : Obeys world
  known : ∀ object, (world.devices object).handle ≠ none →
    world.mock.Known (world.devices object).handle

omit [DecidableEq Device] in
theorem initial_sound (mock : CSaneState) (names : Device → String) :
    Sound (initial mock names) where
  obeys := ⟨by simp [initial], fun object started => by cases started⟩
  known object held := absurd rfl held

theorem after_sound (object : Device) (mock : CSaneState) (changed : CSaneDevice)
    (calls : List SaneCall) (sound : Sound world)
    (known : ∀ handle, world.mock.Known handle → mock.Known handle)
    (others : ∀ other, other ≠ object → (world.devices other).currentState = .started →
      mock.Started (world.devices other).handle)
    (started : changed.currentState = .started → mock.Started changed.handle)
    (held : changed.handle ≠ none → mock.Known changed.handle)
    (noNull : ∀ call ∈ calls, call.passes ≠ some none) :
    Sound (world.after object mock changed calls) := by
  constructor
  · constructor
    · intro call member
      exact (List.mem_append.mp member).elim (sound.obeys.noNull call) (noNull call)
    · intro other running
      by_cases here : other = object
      · subst here
        simp only [World.after, Function.update_self] at running ⊢
        exact started running
      · simp only [World.after, Function.update_of_ne here] at running ⊢
        exact others other here running
  · intro other present
    by_cases here : other = object
    · subst here
      simp only [World.after, Function.update_self] at present ⊢
      exact held present
    · simp only [World.after, Function.update_of_ne here] at present ⊢
      exact known _ (sound.known other present)

omit [DecidableEq Device] in
theorem others_started {object : Device} {mock : CSaneState} {handle : Option Nat}
    (sound : Sound world) (keeps : KeepsBut handle world.mock mock)
    (shared : ∀ other, other ≠ object → (world.devices other).handle = handle →
      (world.devices other).currentState = .started → mock.Started handle) :
    ∀ other, other ≠ object → (world.devices other).currentState = .started →
      mock.Started (world.devices other).handle := by
  intro other apart running
  by_cases same : (world.devices other).handle = handle
  · rw [same]
    exact shared other apart same running
  · exact keeps.started _ same (sound.obeys.mirrored other running)

theorem open_sound (object : Device) (handle : Nat) (next : CSaneState) (sound : Sound world)
    (opened : world.mock.saneOpen (world.devices object).deviceName = .ok (handle, next)) :
    Sound (world.after object next ((world.devices object).open (.opened handle)).2
      (openCalls (.opened handle))) := by
  obtain ⟨returned, known, started⟩ := saneOpen_effect _ _ opened
  apply after_sound object next _ _ sound known
  · exact fun other _ running => started _ (sound.obeys.mirrored other running)
  · intro running
    cases running
  · exact fun _ => returned
  · simp [openCalls, SaneCall.passes]

theorem close_sound (object : Device) (sound : Sound world)
    (careful : Careful world (object, .close)) (held : (world.devices object).handle ≠ none) :
    ∃ next, (world.mock.saneCancel (world.devices object).handle).saneClose
        (world.devices object).handle = .ok next ∧
      Sound (world.after object next (world.devices object).close
        (closeCalls (world.devices object))) := by
  obtain ⟨next, closed, -, keeps⟩ := saneClose_effect (sound.known object held)
  have cleared : (world.devices object).close =
      { world.devices object with handle := none, currentState := .closed } := by
    rw [CSaneDevice.close, if_neg held]
  refine ⟨next, closed, ?_⟩
  rw [cleared]
  apply after_sound object next _ _ sound keeps.known
  · apply others_started sound keeps
    exact fun other apart same running => absurd running (careful held other apart same)
  · intro running
    cases running
  · intro present
    exact absurd rfl present
  · simp [closeCalls, held, SaneCall.passes]

theorem start_sound (object : Device) (sound : Sound world)
    (startable : (world.devices object).Startable) :
    Sound (world.after object (world.mock.saneStart (world.devices object).handle).2
      ((world.devices object).start (world.mock.saneStart (world.devices object).handle).1).2
      (startCalls (world.devices object)
        (world.mock.saneStart (world.devices object).handle).1)) := by
  obtain ⟨good, running, keeps⟩ := saneStart_effect (sound.known object startable.1)
  have changed : ((world.devices object).start .good).2 =
      { world.devices object with currentState := .started } := by
    rw [CSaneDevice.start, if_pos startable, if_pos rfl]
  rw [good, changed]
  apply after_sound object _ _ _ sound keeps.known
  · exact others_started sound keeps fun _ _ _ _ => running
  · exact fun _ => running
  · exact fun present => keeps.known _ (sound.known object present)
  · simp [startCalls, startable, SaneCall.passes, startable.1]

theorem read_sound (object : Device) (sound : Sound world)
    (readable : (world.devices object).Readable) :
    ∃ read next, world.mock.saneRead (world.devices object).handle = .ok (read, next) ∧
      Sound (world.after object next (world.devices object)
        (readCalls (world.devices object) [read])) := by
  obtain ⟨read, next, answered, running, keeps⟩ :=
    saneRead_effect (sound.obeys.mirrored object readable.2)
  refine ⟨read, next, answered, ?_⟩
  apply after_sound object next _ _ sound keeps.known
  · exact others_started sound keeps fun _ _ _ _ => running
  · exact fun _ => running
  · exact fun present => keeps.known _ (sound.known object present)
  · simp [readCalls, readable, SaneCall.passes, readable.1]

theorem cancel_sound (object : Device) (sound : Sound world)
    (careful : Careful world (object, .cancel)) :
    Sound (world.after object (world.mock.saneCancel (world.devices object).handle)
      (world.devices object).cancel (cancelCalls (world.devices object))) := by
  obtain ⟨held, idle⟩ := careful
  obtain ⟨-, keeps⟩ := saneCancel_effect (sound.known object held)
  apply after_sound object _ _ _ sound keeps.known
  · exact others_started sound keeps fun other _ same running => absurd running (idle other same)
  · exact fun running => absurd running (idle object rfl)
  · exact fun _ => keeps.known _ (sound.known object held)
  · simp [cancelCalls, SaneCall.passes, held]

theorem idle_sound (object : Device) (changed : CSaneDevice) (calls : List SaneCall)
    (sound : Sound world) (handle : changed.handle = (world.devices object).handle)
    (state : changed.currentState = (world.devices object).currentState)
    (noNull : ∀ call ∈ calls, call.passes ≠ some none) :
    Sound (world.after object world.mock changed calls) := by
  apply after_sound object _ _ _ sound (fun _ known => known) _ _ _ noNull
  · exact fun other _ running => sound.obeys.mirrored other running
  · rw [handle, state]
    exact sound.obeys.mirrored object
  · rw [handle]
    exact sound.known object

theorem saneOpen_fault (mock : CSaneState) (name message : String) :
    mock.saneOpen name ≠ .error (.assertFailed message) := by
  unfold CSaneState.saneOpen
  split
  · simp
  · split
    · simp
    · split <;> simp

/-- A careful operation keeps to the protocol; only an unknown name can end it. -/
theorem step_sound (label : Device × Operation) (sound : Sound world)
    (careful : Careful world label) : Runs.Ends Sound Unasserted (step world label) := by
  obtain ⟨object, operation⟩ := label
  cases operation with
  | «open» =>
      simp only [step]
      cases opened : world.mock.saneOpen (world.devices object).deviceName with
      | ok result => exact open_sound object result.1 result.2 sound opened
      | error fault =>
          intro message same
          exact saneOpen_fault _ _ message (same ▸ opened)
  | close =>
      simp only [step]
      by_cases free : (world.devices object).handle = none
      · rw [if_pos free]
        have same : (world.devices object).close = world.devices object := by
          rw [CSaneDevice.close, if_pos free]
        exact idle_sound object _ [] sound (by rw [same]) (by rw [same]) (by simp)
      · obtain ⟨next, closed, kept⟩ := close_sound object sound careful free
        rw [if_neg free, closed]
        exact kept
  | start =>
      simp only [step]
      by_cases startable : (world.devices object).Startable
      · rw [if_pos startable]
        exact start_sound object sound startable
      · have refused : ((world.devices object).start .inval).2 = world.devices object := by
          rw [CSaneDevice.start, if_neg startable]
        rw [if_neg startable, refused]
        exact idle_sound object _ _ sound rfl rfl (by simp [startCalls, startable])
  | read =>
      simp only [step]
      by_cases readable : (world.devices object).Readable
      · obtain ⟨read, next, answered, kept⟩ := read_sound object sound readable
        rw [if_pos readable, answered]
        exact kept
      · rw [if_neg readable]
        exact idle_sound object _ [] sound rfl rfl (by simp)
  | refreshParameters =>
      simp only [step]
      apply idle_sound object _ _ sound
      · unfold CSaneDevice.refreshParameters
        split <;> rfl
      · unfold CSaneDevice.refreshParameters
        split <;> rfl
      · unfold refreshCalls
        split
        · simp
        · simpa [SaneCall.passes] using ‹_›
  | cancel => exact cancel_sound object sound careful

theorem careful_of_obeys (label : Device × Operation) (sound : Sound world)
    (obeys : ∀ next, step world label = .ok next → Obeys next) : Careful world label := by
  obtain ⟨object, operation⟩ := label
  cases operation with
  | «open» | start | read | refreshParameters => trivial
  | cancel =>
      have after := obeys _ rfl
      have held : (world.devices object).handle ≠ none := by
        intro free
        apply after.noNull (.cancel (world.devices object).handle)
        · simp [World.after, cancelCalls]
        · rw [SaneCall.passes, free]
      refine ⟨held, fun other same running => ?_⟩
      have stopped := (saneCancel_effect (sound.known object held)).1
      -- The other object still says STARTED; it may be the cancelled one itself.
      have mirrored := after.mirrored other
      by_cases here : other = object
      · subst here
        simp only [World.after, Function.update_self] at mirrored
        exact stopped (mirrored running)
      · simp only [World.after, Function.update_of_ne here] at mirrored
        rw [← same] at stopped
        exact stopped (same ▸ mirrored running)
  | close =>
      intro held other apart same running
      obtain ⟨next, closed, stopped, -⟩ := saneClose_effect (sound.known object held)
      have mirrored := (obeys _ (by simp only [step, if_neg held, closed]; rfl)).mirrored other
      simp only [World.after, Function.update_of_ne apart] at mirrored
      exact stopped (same ▸ mirrored running)

/-- Runs of any number of objects keep to the protocol exactly when their
cancellations and closes are careful. -/
theorem protocol_kept_iff (mock : CSaneState) (names : Device → String)
    (labels : List (Device × Operation)) :
    (∀ front, front <+: labels → Lawful (Runs.run step (initial mock names) front)) ↔
      Runs.Along step Careful (initial mock names) labels := by
  apply Runs.prefixes_end_iff Sound Obeys Unasserted (fun _ sound => sound.obeys)
  · exact fun _ label sound careful => step_sound label sound careful
  · intro world label sound ends
    apply careful_of_obeys label sound
    intro next taken
    rwa [taken] at ends
  · exact initial_sound mock names

/-- A read after a cancellation, as the server makes it when a write completes: the
object still says STARTED, and the mock asserts. -/
theorem cancel_then_read_asserts :
    Runs.run step (initial ⟨["MOCK_NAME_0"], []⟩ fun _ : Unit => "MOCK_NAME_0")
        [((), .open), ((), .start), ((), .cancel), ((), .read)] =
      .error (.assertFailed "Invalid read. Reading from a device that has not started.") ∧
    ¬ Lawful (Runs.run step (initial ⟨["MOCK_NAME_0"], []⟩ fun _ : Unit => "MOCK_NAME_0")
      [((), .open), ((), .start), ((), .cancel), ((), .read)]) := by
  have asserted : Runs.run step
      (initial ⟨["MOCK_NAME_0"], []⟩ fun _ : Unit => "MOCK_NAME_0")
      [((), .open), ((), .start), ((), .cancel), ((), .read)] =
        .error (.assertFailed "Invalid read. Reading from a device that has not started.") := rfl
  refine ⟨asserted, fun lawful => ?_⟩
  rw [asserted] at lawful
  exact lawful _ rfl

end Steps
end SaneInTheMembrane.SaneProtocol

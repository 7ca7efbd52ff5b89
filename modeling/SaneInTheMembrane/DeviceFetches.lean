import SaneInTheMembrane.DeviceLists
import SaneInTheMembrane.DeviceRefresh

/-!
Service/ScannerService.cpp with its clock, its locks and its lists together. Who may
call `sane_get_devices`, and when, is settled without the lists; where the pointers lead
is settled without the locks. Both are about runs of this service.
-/

namespace SaneInTheMembrane.DeviceFetches
open DeviceLists (SaneDevice)

section Model

structure CScannerService where
  refresh : DeviceRefresh.CScannerService
  lists : DeviceLists.CScannerService := {}

def initial (now : Nat) : CScannerService where
  refresh := DeviceRefresh.initial now

/-- `sane_get_devices` ends with its answer, so `refresh` has the other steps of a call.
`readScanners` is the loop of `GetScanners`. -/
inductive Label where
  | refresh (label : DeviceRefresh.Label)
  | endGetDevices (caller : Nat) (answer : Option (List SaneDevice))
  | readScanners
  | scan (name : String)
  | scanDone (object : Nat)

inductive Fault where
  | blocked
  | dangling
  deriving DecidableEq, Repr

namespace CScannerService

def withRefresh (service : CScannerService) (outcome : Except DeviceRefresh.Fault
    DeviceRefresh.CScannerService) : Except Fault CScannerService :=
  match outcome with
  | .ok refresh => .ok { service with refresh }
  | .error .blocked => .error .blocked

def withLists (service : CScannerService) (outcome : Except DeviceLists.Fault
    DeviceLists.CScannerService) : Except Fault CScannerService :=
  match outcome with
  | .ok lists => .ok { service with lists }
  | .error .dangling => .error .dangling

def withDevices (service : CScannerService) (label : DeviceLists.Label) :
    Except Fault CScannerService :=
  if service.refresh.devicesLock = none then
    service.withLists (DeviceLists.step service.lists label)
  else .error .blocked

end CScannerService

def step (order : DeviceRefresh.OperandOrder) (service : CScannerService) :
    Label → Except Fault CScannerService
  | .refresh (.endGetDevices _ _) => .error .blocked
  | .refresh label => service.withRefresh (DeviceRefresh.step order service.refresh label)
  | .endGetDevices caller answer =>
      match service.withRefresh (DeviceRefresh.step order service.refresh
          (.endGetDevices caller (answer.getD []).isEmpty)) with
      | .ok ended =>
          ended.withLists (DeviceLists.step service.lists (.refreshDevices answer))
      | .error fault => .error fault
  | .readScanners => service.withDevices .getScanners
  | .scan name => service.withDevices (.scan name)
  | .scanDone object => service.withLists (DeviceLists.step service.lists (.scanDone object))

def Label.timing : Label → Option DeviceRefresh.Label
  | .refresh label => some label
  | .endGetDevices caller answer => some (.endGetDevices caller (answer.getD []).isEmpty)
  | .readScanners | .scan _ | .scanDone _ => none

def Label.listing : Label → Option DeviceLists.Label
  | .refresh _ => none
  | .endGetDevices _ answer => some (.refreshDevices answer)
  | .readScanners => some .getScanners
  | .scan name => some (.scan name)
  | .scanDone object => some (.scanDone object)

/-- The list is empty where the test of `GetScanners` finds it so. -/
structure Agrees (service : CScannerService) : Prop where
  sound : DeviceLists.Sound service.lists
  empty : service.refresh.devicesEmpty = service.lists.devices.isEmpty

end Model

section Steps
variable {order : DeviceRefresh.OperandOrder} {service next : CScannerService}

theorem withRefresh_ok {outcome : Except DeviceRefresh.Fault DeviceRefresh.CScannerService}
    (taken : service.withRefresh outcome = .ok next) :
    outcome = .ok next.refresh ∧ next.lists = service.lists := by
  cases outcome with
  | ok refresh =>
      cases taken
      exact ⟨rfl, rfl⟩
  | error fault => cases taken

theorem withLists_ok {outcome : Except DeviceLists.Fault DeviceLists.CScannerService}
    (taken : service.withLists outcome = .ok next) :
    outcome = .ok next.lists ∧ next.refresh = service.refresh := by
  cases outcome with
  | ok lists =>
      cases taken
      exact ⟨rfl, rfl⟩
  | error fault => cases taken

theorem withDevices_ok {label : DeviceLists.Label}
    (taken : service.withDevices label = .ok next) :
    DeviceLists.step service.lists label = .ok next.lists ∧ next.refresh = service.refresh := by
  unfold CScannerService.withDevices at taken
  split at taken
  · exact withLists_ok taken
  · cases taken

theorem step_parts (label : Label) (taken : step order service label = .ok next) :
    Runs.PartStep (DeviceRefresh.step order) service.refresh next.refresh label.timing ∧
      Runs.PartStep DeviceLists.step service.lists next.lists label.listing := by
  cases label with
  | refresh label =>
      cases label with
      | endGetDevices caller empty => cases taken
      | tick | refreshDevices | getScanners | readClock | lockShared | lockDevices | lockFetch
      | startGetDevices | store => exact withRefresh_ok taken
  | endGetDevices caller answer =>
      simp only [step] at taken
      split at taken
      next ended fetched =>
          obtain ⟨stepped, lists⟩ := withRefresh_ok fetched
          obtain ⟨listed, refresh⟩ := withLists_ok taken
          exact ⟨refresh ▸ stepped, listed⟩
      next => cases taken
  | readScanners | scan =>
      obtain ⟨listed, refresh⟩ := withDevices_ok taken
      exact ⟨refresh, listed⟩
  | scanDone object =>
      have done : service.withLists (DeviceLists.step service.lists (.scanDone object)) =
          .ok next := taken
      obtain ⟨listed, refresh⟩ := withLists_ok done
      exact ⟨refresh, listed⟩

end Steps

section Lists
open DeviceLists.CScannerService
variable {service last : DeviceLists.CScannerService}

theorem printInfo_ok {object : Nat} (printed : service.printInfo object = .ok last) :
    last = service := by
  unfold printInfo at printed
  split at printed
  · cases printed
    rfl
  · split at printed
    · cases printed
      rfl
    · cases printed

theorem emplaceDevices_list (index : Nat) (rest : List SaneDevice)
    (emplaced : service.emplaceDevices index rest = .ok last) :
    last.deviceList = service.deviceList := by
  induction rest generalizing service index with
  | nil =>
      cases emplaced
      rfl
  | cons device rest ih =>
      simp only [emplaceDevices] at emplaced
      split at emplaced
      next made printed =>
          rw [ih _ emplaced, printInfo_ok printed]
          rfl
      next => cases emplaced

theorem refreshDevices_list {answer : Option (List SaneDevice)}
    (refreshed : service.refreshDevices answer = .ok last) :
    last.deviceList = answer.getD [] := by
  unfold refreshDevices at refreshed
  split at refreshed
  next got fetched =>
      cases refreshed
      exact emplaceDevices_list 0 _ fetched
  next => cases refreshed

theorem devices_isEmpty (sound : DeviceLists.Sound service) :
    service.devices.isEmpty = service.deviceList.isEmpty := by
  have same := sound.filled.shown.length_eq
  rw [← sound.shared] at same
  rw [Bool.eq_iff_iff, List.isEmpty_iff_length_eq_zero, List.isEmpty_iff_length_eq_zero, same]

end Lists

section Whole
variable {order : DeviceRefresh.OperandOrder} {service next : CScannerService}

theorem devicesEmpty_kept {refresh later : DeviceRefresh.CScannerService}
    (label : DeviceRefresh.Label) (other : ∀ caller empty, label ≠ .endGetDevices caller empty)
    (taken : DeviceRefresh.step order refresh label = .ok later) :
    later.devicesEmpty = refresh.devicesEmpty := by
  cases label with
  | tick duration =>
      cases taken
      rfl
  | endGetDevices caller empty => exact absurd rfl (other caller empty)
  | getScanners caller =>
      simp only [DeviceRefresh.step] at taken
      split at taken
      · cases taken
        split <;> rfl
      · cases taken
  | readClock caller =>
      simp only [DeviceRefresh.step] at taken
      split at taken
      · split at taken
        · cases taken
          rfl
        · cases taken
      · cases taken
        rfl
      all_goals cases taken
  | lockShared caller =>
      simp only [DeviceRefresh.step] at taken
      split at taken
      · split at taken
        · cases taken
          rfl
        · split at taken
          · cases taken
            rfl
          · cases taken
        all_goals cases taken
      · cases taken
  | refreshDevices caller | lockDevices caller | lockFetch caller | startGetDevices caller
  | store caller =>
      simp only [DeviceRefresh.step] at taken
      split at taken
      · cases taken
        rfl
      · cases taken

theorem endGetDevices_empty {refresh later : DeviceRefresh.CScannerService} {caller : Nat}
    {empty : Bool} (taken : DeviceRefresh.step order refresh (.endGetDevices caller empty) =
      .ok later) : later.devicesEmpty = empty := by
  simp only [DeviceRefresh.step] at taken
  split at taken
  · cases taken
    rfl
  · cases taken

theorem initial_agrees (now : Nat) : Agrees (initial now) where
  sound := DeviceLists.initial_sound
  empty := rfl

theorem devices_kept {lists later : DeviceLists.CScannerService} (label : DeviceLists.Label)
    (other : ∀ answer, label ≠ .refreshDevices answer)
    (taken : DeviceLists.step lists label = .ok later) : later.devices = lists.devices := by
  cases label with
  | refreshDevices answer => exact absurd rfl (other answer)
  | getScanners =>
      simp only [DeviceLists.step] at taken
      split at taken
      · cases taken
        rfl
      · cases taken
  | scan name =>
      simp only [DeviceLists.step] at taken
      split at taken <;> cases taken <;> rfl
  | scanDone object =>
      cases taken
      rfl

theorem listed_sound {lists later : DeviceLists.CScannerService} (label : DeviceLists.Label)
    (sound : DeviceLists.Sound lists) (taken : DeviceLists.step lists label = .ok later) :
    DeviceLists.Sound later := by
  obtain ⟨only, stepped, kept⟩ := DeviceLists.step_sound lists label sound
  cases taken.symm.trans stepped
  exact kept

theorem step_agrees (label : Label) (agrees : Agrees service)
    (taken : step order service label = .ok next) : Agrees next := by
  obtain ⟨refresh, lists⟩ := step_parts label taken
  cases label with
  | refresh label =>
      have other : ∀ caller empty, label ≠ .endGetDevices caller empty := by
        rintro caller empty rfl
        cases taken
      exact ⟨lists.symm ▸ agrees.sound,
        by rw [devicesEmpty_kept label other refresh, agrees.empty, lists]⟩
  | endGetDevices caller answer =>
      have sound := listed_sound _ agrees.sound lists
      have list : next.lists.deviceList = answer.getD [] := refreshDevices_list lists
      exact ⟨sound, by rw [endGetDevices_empty refresh, devices_isEmpty sound, list]⟩
  | readScanners | scan | scanDone =>
      refine ⟨listed_sound _ agrees.sound lists, ?_⟩
      rw [refresh, agrees.empty, devices_kept _ (by simp) lists]

theorem withRefresh_not_dangling
    (outcome : Except DeviceRefresh.Fault DeviceRefresh.CScannerService) :
    service.withRefresh outcome ≠ .error .dangling := by
  unfold CScannerService.withRefresh
  split <;> simp

theorem withLists_not_dangling (label : DeviceLists.Label)
    (sound : DeviceLists.Sound service.lists) :
    service.withLists (DeviceLists.step service.lists label) ≠ .error .dangling := by
  obtain ⟨lists, stepped, _⟩ := DeviceLists.step_sound service.lists label sound
  simp [stepped, CScannerService.withLists]

theorem withDevices_not_dangling (label : DeviceLists.Label)
    (sound : DeviceLists.Sound service.lists) :
    service.withDevices label ≠ .error .dangling := by
  unfold CScannerService.withDevices
  split
  · exact withLists_not_dangling label sound
  · simp

theorem step_not_dangling (label : Label) (agrees : Agrees service) :
    step order service label ≠ .error .dangling := by
  cases label with
  | refresh label =>
      cases label with
      | endGetDevices caller empty => simp [step]
      | tick | refreshDevices | getScanners | readClock | lockShared | lockDevices | lockFetch
      | startGetDevices | store =>
          simp only [step]
          exact withRefresh_not_dangling _
  | endGetDevices caller answer =>
      simp only [step]
      split
      next ended fetched =>
          have lists := (withRefresh_ok fetched).2
          rw [← lists]
          exact withLists_not_dangling _ (lists.symm ▸ agrees.sound)
      next fault blocked =>
          rw [← blocked]
          exact withRefresh_not_dangling _
  | readScanners | scan => exact withDevices_not_dangling _ agrees.sound
  | scanDone object =>
      simp only [step]
      exact withLists_not_dangling _ agrees.sound

theorem step_ends (label : Label) (agrees : Agrees service) :
    Runs.Ends Agrees (fun fault => fault = .blocked) (step order service label) := by
  have safe := @step_not_dangling order service label agrees
  cases taken : step order service label with
  | ok next => exact step_agrees label agrees taken
  | error fault =>
      cases fault with
      | blocked => rfl
      | dangling => exact absurd taken safe

end Whole

/-- Each run of the service is one of its clock and locks and one of its lists, and the list
that `GetScanners` finds empty is the one that was fetched last. -/
theorem service_parts (order : DeviceRefresh.OperandOrder) (now : Nat) (labels : List Label)
    (service : CScannerService)
    (reached : Runs.run (step order) (initial now) labels = .ok service) :
    Runs.run (DeviceRefresh.step order) (DeviceRefresh.initial now)
        (labels.filterMap Label.timing) = .ok service.refresh ∧
      Runs.run DeviceLists.step DeviceLists.initial (labels.filterMap Label.listing) =
        .ok service.lists ∧
      service.refresh.devicesEmpty = service.lists.deviceList.isEmpty := by
  have agrees : Agrees service := Runs.run_keeps Agrees
    (fun _ label _ agrees taken => step_agrees label agrees taken)
    (initial now) service labels (initial_agrees now) reached
  refine ⟨?_, ?_, agrees.empty.trans (devices_isEmpty agrees.sound)⟩
  · exact Runs.run_projects CScannerService.refresh Label.timing
      (fun _ label _ taken => (step_parts label taken).1) _ service labels reached
  · exact Runs.run_projects CScannerService.lists Label.listing
      (fun _ label _ taken => (step_parts label taken).2) _ service labels reached

/-- However the locks order the calls, none follows a pointer into a list that is gone. -/
theorem service_never_dangles (order : DeviceRefresh.OperandOrder) (now : Nat)
    (labels : List Label) : Runs.Ends (fun _ => True) (fun fault => fault = .blocked)
      (Runs.run (step order) (initial now) labels) := by
  have always : Runs.Along (step order) (fun _ _ => True) (initial now) labels :=
    Runs.along_of_labels (initial now) labels fun _ _ => trivial
  have ends := Runs.run_ends Agrees (fun fault => fault = .blocked)
    (fun _ label agrees _ => step_ends label agrees)
    (initial now) labels (initial_agrees now) always
  exact ends.imp fun _ _ => trivial

end SaneInTheMembrane.DeviceFetches

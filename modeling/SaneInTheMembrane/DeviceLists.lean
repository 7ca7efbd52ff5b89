import Mathlib.Data.List.Forall2
import Mathlib.Logic.Function.Basic
import SaneInTheMembrane.Runs

/-!
Sane.cpp and Service/ScannerService.cpp: the device lists. SANE frees a list at the
next call of `sane_get_devices`, and the objects that point into it may live on in
scans. `get_devices` clears the pointers of the objects it owns before each call; an
object leaves their owner only behind that.
-/

namespace SaneInTheMembrane.DeviceLists

section Model

structure SaneDevice where
  name : String
  vendor : String
  model : String
  type : String
  deriving DecidableEq, Repr

/-- A pointer into the list that a call of `sane_get_devices` returned, by the number of
the call. -/
structure RawDevice where
  list : Nat
  index : Nat
  deriving DecidableEq, Repr

structure CSaneDevice where
  deviceName : String := ""
  rawDevice : Option RawDevice := none
  deriving DecidableEq, Repr

structure ScannerInfo where
  name : String
  model : String := ""
  vendor : String := ""
  type : String := ""
  deriving DecidableEq, Repr

/-- Objects have the numbers below `created`. `saneDevices` and `held` own theirs: the
vector of the SANE wrapper, and the scans that run. `devices` is the service's vector of
weak pointers, and `listed` counts the calls of `sane_get_devices`. -/
structure CScannerService where
  created : Nat := 0
  objects : Nat → CSaneDevice := fun _ => {}
  saneDevices : List Nat := []
  devices : List Nat := []
  held : List Nat := []
  listed : Nat := 0
  deviceList : List SaneDevice := []

inductive Fault where
  | dangling
  deriving DecidableEq, Repr

/-- An answer of `none` is a status other than GOOD. -/
inductive Label where
  | refreshDevices (answer : Option (List SaneDevice))
  | getScanners
  | scan (name : String)
  | scanDone (object : Nat)
  deriving DecidableEq, Repr

namespace CScannerService

/-- Somebody owns the object; a weak pointer to any other has expired. -/
def Alive (service : CScannerService) (object : Nat) : Prop :=
  object ∈ service.saneDevices ∨ object ∈ service.held

instance (service : CScannerService) (object : Nat) : Decidable (service.Alive object) :=
  inferInstanceAs (Decidable (_ ∨ _))

/-- Only the list of the last call can be read. -/
def dereference (service : CScannerService) (raw : RawDevice) : Except Fault SaneDevice :=
  if raw.list = service.listed then
    match service.deviceList[raw.index]? with
    | some device => .ok device
    | none => .error .dangling
  else .error .dangling

def clearRawDevice (service : CScannerService) (object : Nat) : CScannerService :=
  { service with
    objects := Function.update service.objects object
      { service.objects object with rawDevice := none } }

def saneGetDevices (service : CScannerService) (answer : Option (List SaneDevice)) :
    CScannerService :=
  { service with listed := service.listed + 1, deviceList := answer.getD [] }

def printInfo (service : CScannerService) (object : Nat) : Except Fault CScannerService :=
  match (service.objects object).rawDevice with
  | none => .ok service
  | some raw =>
      match service.dereference raw with
      | .ok _ => .ok service
      | .error fault => .error fault

def makeDevice (service : CScannerService) (device : SaneDevice) (index : Nat) :
    CScannerService :=
  { service with
    created := service.created + 1
    objects := Function.update service.objects service.created
      { deviceName := device.name
        rawDevice := some { list := service.listed, index := index } } }

def emplaceBack (service : CScannerService) (object : Nat) : CScannerService :=
  { service with saneDevices := service.saneDevices ++ [object] }

def emplaceDevices (service : CScannerService) (index : Nat) :
    List SaneDevice → Except Fault CScannerService
  | [] => .ok service
  | device :: rest =>
      match (service.makeDevice device index).printInfo service.created with
      | .ok made => emplaceDevices (made.emplaceBack service.created) (index + 1) rest
      | .error fault => .error fault

def getDevices (service : CScannerService) (answer : Option (List SaneDevice)) :
    Except Fault CScannerService :=
  let cleared := service.saneDevices.foldl clearRawDevice service
  let called := saneGetDevices { cleared with saneDevices := [] } answer
  called.emplaceDevices 0 called.deviceList

def refreshDevices (service : CScannerService) (answer : Option (List SaneDevice)) :
    Except Fault CScannerService :=
  match service.getDevices answer with
  | .ok refreshed => .ok { refreshed with devices := refreshed.saneDevices }
  | .error fault => .error fault

def findDevice (service : CScannerService) (name : String) : Option Nat :=
  service.devices.find? fun object =>
    decide (service.Alive object) && (service.objects object).deviceName == name

def scannerInfo (service : CScannerService) (object : Nat) : Except Fault ScannerInfo :=
  let info : ScannerInfo := { name := (service.objects object).deviceName }
  match (service.objects object).rawDevice with
  | none => .ok info
  | some raw =>
      match service.dereference raw with
      | .ok device =>
          .ok { info with model := device.model, vendor := device.vendor, type := device.type }
      | .error fault => .error fault

def scannerInfos (service : CScannerService) : List Nat → Except Fault (List ScannerInfo)
  | [] => .ok []
  | object :: rest =>
      if service.Alive object then
        match service.scannerInfo object with
        | .ok info => (service.scannerInfos rest).map (info :: ·)
        | .error fault => .error fault
      else service.scannerInfos rest

def getScanners (service : CScannerService) : Except Fault (List ScannerInfo) :=
  service.scannerInfos service.devices

end CScannerService

def step (service : CScannerService) : Label → Except Fault CScannerService
  | .refreshDevices answer => service.refreshDevices answer
  | .getScanners =>
      match service.getScanners with
      | .ok _ => .ok service
      | .error fault => .error fault
  | .scan name =>
      match service.findDevice name with
      | some object => .ok { service with held := object :: service.held }
      | none => .ok service
  | .scanDone object => .ok { service with held := service.held.erase object }

def initial : CScannerService := {}

def SaneDevice.info (device : SaneDevice) : ScannerInfo where
  name := device.name
  model := device.model
  vendor := device.vendor
  type := device.type

/-- The pointer is null or leads into the list of the last call. -/
def CSaneDevice.Current (service : CScannerService) (device : CSaneDevice) : Prop :=
  ∀ raw, device.rawDevice = some raw →
    raw.list = service.listed ∧ raw.index < service.deviceList.length

end Model

section Refreshing
open CScannerService
variable {service : CScannerService}

def Shows (service : CScannerService) (object : Nat) (device : SaneDevice) : Prop :=
  ∃ index, service.deviceList[index]? = some device ∧ service.objects object =
    { deviceName := device.name, rawDevice := some { list := service.listed, index := index } }

/-- The wrapper owns an object for each of these entries, and whatever still points into a
list is one of them. -/
structure Filled (service : CScannerService) (entries : List SaneDevice) : Prop where
  shown : List.Forall₂ (Shows service) service.saneDevices entries
  below : ∀ object, service.Alive object → object < service.created
  owned : ∀ object, (service.objects object).rawDevice ≠ none → object ∈ service.saneDevices

theorem shown_of_mem {objects : List Nat} {entries : List SaneDevice} {object : Nat}
    (shown : List.Forall₂ (Shows service) objects entries) (member : object ∈ objects) :
    ∃ device, Shows service object device := by
  induction shown with
  | nil => exact absurd member List.not_mem_nil
  | @cons first device objects entries shows rest ih =>
      rcases List.mem_cons.mp member with rfl | behind
      · exact ⟨device, shows⟩
      · exact ih behind

theorem dereference_shown {raw : RawDevice} {device : SaneDevice}
    (list : raw.list = service.listed) (entry : service.deviceList[raw.index]? = some device) :
    service.dereference raw = .ok device := by
  simp [dereference, list, entry]

theorem clearRawDevices_eq (owners : List Nat) :
    owners.foldl clearRawDevice service = { service with
      objects := fun object =>
        if object ∈ owners then { service.objects object with rawDevice := none }
        else service.objects object } := by
  induction owners generalizing service with
  | nil => simp
  | cons first rest ih =>
      rw [List.foldl_cons, ih]
      congr 1
      funext object
      by_cases same : object = first
      · simp [clearRawDevice, same]
      · simp [clearRawDevice, same]

theorem saneGetDevices_filled {entries : List SaneDevice} (answer : Option (List SaneDevice))
    (filled : Filled service entries) :
    Filled (saneGetDevices { service.saneDevices.foldl clearRawDevice service with
      saneDevices := [] } answer) [] := by
  rw [clearRawDevices_eq]
  constructor
  · exact .nil
  · rintro object (owned | held)
    · exact absurd owned List.not_mem_nil
    · exact filled.below object (Or.inr held)
  · intro object points
    simp only [saneGetDevices] at points
    split at points
    next => exact absurd rfl points
    next other => exact absurd (filled.owned object points) other

theorem makeDevice_filled {front : List SaneDevice} {device : SaneDevice} {rest : List SaneDevice}
    (list : service.deviceList = front ++ device :: rest) (filled : Filled service front) :
    Filled ((service.makeDevice device front.length).emplaceBack service.created)
      (front ++ [device]) := by
  have entry : service.deviceList[front.length]? = some device := by simp [list]
  constructor
  · apply List.rel_append
    · have old : ∀ object ∈ service.saneDevices, object < service.created :=
        fun object owned => filled.below object (Or.inl owned)
      apply ((List.forall₂_and_left _ _).mpr ⟨old, filled.shown⟩).imp
      rintro object shown ⟨before, index, found, made⟩
      refine ⟨index, found, ?_⟩
      simp only [makeDevice, emplaceBack]
      rw [Function.update_of_ne (Nat.ne_of_lt before), made]
    · exact .cons ⟨front.length, entry, by simp [makeDevice, emplaceBack]⟩ .nil
  · rintro object (owned | held)
    · rcases List.mem_append.mp owned with before | now
      · exact Nat.lt_succ_of_lt (filled.below object (Or.inl before))
      · exact Nat.lt_succ_of_le (Nat.le_of_eq (List.mem_singleton.mp now))
    · exact Nat.lt_succ_of_lt (filled.below object (Or.inr held))
  · intro object points
    simp only [emplaceBack, makeDevice, List.mem_append, List.mem_singleton]
    by_cases new : object = service.created
    · exact Or.inr new
    · simp only [emplaceBack, makeDevice, Function.update_of_ne new] at points
      exact Or.inl (filled.owned object points)

theorem printInfo_made {front : List SaneDevice} {device : SaneDevice} {rest : List SaneDevice}
    (list : service.deviceList = front ++ device :: rest) :
    (service.makeDevice device front.length).printInfo service.created =
      .ok (service.makeDevice device front.length) := by
  have entry : service.deviceList[front.length]? = some device := by simp [list]
  have read : (service.makeDevice device front.length).dereference
      { list := service.listed, index := front.length } = .ok device :=
    dereference_shown rfl entry
  have points : ((service.makeDevice device front.length).objects service.created).rawDevice =
      some { list := service.listed, index := front.length } := by simp [makeDevice]
  simp only [printInfo, points, read]

theorem emplaceDevices_filled (front rest : List SaneDevice)
    (list : service.deviceList = front ++ rest) (filled : Filled service front) :
    ∃ last, service.emplaceDevices front.length rest = .ok last ∧ Filled last last.deviceList := by
  induction rest generalizing service front with
  | nil =>
      rw [List.append_nil] at list
      exact ⟨service, rfl, list ▸ filled⟩
  | cons device rest ih =>
      have made := makeDevice_filled list filled
      have longer : ((service.makeDevice device front.length).emplaceBack
          service.created).deviceList = (front ++ [device]) ++ rest := by
        rw [List.append_assoc]
        exact list
      obtain ⟨last, emplaced, all⟩ := ih (front ++ [device]) longer made
      rw [List.length_append] at emplaced
      refine ⟨last, ?_, all⟩
      simp only [emplaceDevices, printInfo_made list]
      exact emplaced

theorem getDevices_filled {entries : List SaneDevice} (answer : Option (List SaneDevice))
    (filled : Filled service entries) :
    ∃ last, service.getDevices answer = .ok last ∧ Filled last last.deviceList :=
  emplaceDevices_filled [] _ rfl (saneGetDevices_filled answer filled)

end Refreshing

structure Sound (service : CScannerService) : Prop where
  filled : Filled service service.deviceList
  shared : service.devices = service.saneDevices

theorem initial_sound : Sound initial where
  filled := {
    shown := .nil
    below _ alive := by simp [CScannerService.Alive, initial] at alive
    owned _ points := absurd rfl points }
  shared := rfl

section Reading
variable {service : CScannerService}

theorem scannerInfos_shown (objects : List Nat) (entries : List SaneDevice)
    (alive : ∀ object ∈ objects, service.Alive object)
    (shown : List.Forall₂ (Shows service) objects entries) :
    service.scannerInfos objects = .ok (entries.map SaneDevice.info) := by
  induction shown with
  | nil => rfl
  | @cons object device objects entries first rest ih =>
      obtain ⟨index, entry, made⟩ := first
      have read : service.dereference { list := service.listed, index := index } = .ok device :=
        dereference_shown rfl entry
      have behind := ih fun other member => alive other (List.mem_cons_of_mem _ member)
      simp only [CScannerService.scannerInfos, alive object List.mem_cons_self, ↓reduceIte,
        CScannerService.scannerInfo, made, read, behind]
      rfl

theorem getScanners_current (sound : Sound service) :
    service.getScanners = .ok (service.deviceList.map SaneDevice.info) := by
  apply scannerInfos_shown
  · intro object member
    rw [sound.shared] at member
    exact Or.inl member
  · rw [sound.shared]
    exact sound.filled.shown

theorem findDevice_alive {name : String} {object : Nat}
    (found : service.findDevice name = some object) : service.Alive object := by
  have passes := List.find?_some found
  simp only [Bool.and_eq_true, decide_eq_true_eq] at passes
  exact passes.1

theorem current_of_sound (sound : Sound service) (object : Nat) :
    (service.objects object).Current service := by
  intro raw points
  have owned := sound.filled.owned object (by simp [points])
  obtain ⟨device, index, entry, made⟩ := shown_of_mem sound.filled.shown owned
  rw [made, Option.some.injEq] at points
  obtain ⟨inside, _⟩ := List.getElem?_eq_some_iff.mp entry
  exact ⟨by rw [← points], by rw [← points]; exact inside⟩

end Reading

theorem held_sound {service : CScannerService} (held : List Nat) (sound : Sound service)
    (alive : ∀ object ∈ held, service.Alive object) : Sound { service with held := held } where
  filled := {
    shown := sound.filled.shown
    below object owner := by
      rcases owner with owned | holder
      · exact sound.filled.below object (Or.inl owned)
      · exact sound.filled.below object (alive object holder)
    owned := sound.filled.owned }
  shared := sound.shared

theorem step_sound (service : CScannerService) (label : Label) (sound : Sound service) :
    ∃ next, step service label = .ok next ∧ Sound next := by
  cases label with
  | refreshDevices answer =>
      obtain ⟨last, got, filled⟩ := getDevices_filled answer sound.filled
      refine ⟨{ last with devices := last.saneDevices }, ?_, ?_⟩
      · simp only [step, CScannerService.refreshDevices, got]
      · exact ⟨⟨filled.shown, filled.below, filled.owned⟩, rfl⟩
  | getScanners => exact ⟨service, by simp only [step, getScanners_current sound], sound⟩
  | scan name =>
      cases found : service.findDevice name with
      | none => exact ⟨service, by simp only [step, found], sound⟩
      | some object =>
          refine ⟨{ service with held := object :: service.held }, by simp only [step, found], ?_⟩
          apply held_sound _ sound
          intro other member
          rcases List.mem_cons.mp member with rfl | before
          · exact findDevice_alive found
          · exact Or.inr before
  | scanDone object =>
      refine ⟨_, rfl, held_sound _ sound ?_⟩
      exact fun other member => Or.inr (List.mem_of_mem_erase member)

/-- In every run the pointers of all live devices are null or lead into the last list, and
what `GetScanners` copies are the entries of that list. -/
theorem device_pointers_current (labels : List Label) :
    ∃ last, Runs.run step initial labels = .ok last ∧
      (∀ object, last.Alive object → (last.objects object).Current last) ∧
      last.getScanners = .ok (last.deviceList.map SaneDevice.info) := by
  have always : Runs.Along step (fun _ _ => True) initial labels :=
    Runs.along_of_labels initial labels fun _ _ => trivial
  obtain ⟨last, reached, sound⟩ := Runs.run_succeeds Sound
    (fun service label sound _ => step_sound service label sound) initial labels initial_sound
    always
  exact ⟨last, reached, fun object _ => current_of_sound sound object, getScanners_current sound⟩

end SaneInTheMembrane.DeviceLists

import Mathlib.Algebra.Group.Nat.Defs
import Mathlib.Data.Finset.Insert
import Mathlib.Data.Finset.Erase
import SaneInTheMembrane.Runs

/-!
Service/ScannerService.cpp: `refresh_devices`, called by the startup worker, by
`GetScanners` where the list is empty, and by `RefreshScanners`. The age of the last
fetch is tested under one lock and the time of the next stored under another, a whole
`sane_get_devices` later; whoever makes the test in between fetches again.
-/

namespace SaneInTheMembrane.DeviceRefresh

section Model

/-- Which operand of the comparison in `should_refresh_devices` comes first: the
language leaves it open. -/
inductive OperandOrder where
  | clockFirst
  | lockFirst
  deriving DecidableEq, Repr

/-- Where a call of `refresh_devices` is. At `locked` it shares the lock of the last
fetch, and its clock comes next; the test has passed at `due`. -/
inductive Phase where
  | idle
  | called
  | clockRead (clock : Nat)
  | locked
  | due
  | holdsDevices
  | holdsBoth
  | fetching
  | fetched
  deriving DecidableEq, Repr

inductive Fetch where
  | started (time : Nat)
  | ended (time : Nat)
  deriving DecidableEq, Repr

/-- Times are nanoseconds since the epoch. The two mutexes: who holds them alone, and who
shares the second. The log has the newest entry first. -/
structure CScannerService where
  now : Nat
  devicesEmpty : Bool := true
  lastDeviceFetch : Nat := 0
  devicesLock : Option Nat := none
  fetchLock : Option Nat := none
  fetchReaders : Finset Nat := ∅
  phases : Nat → Phase := fun _ => .idle
  log : List Fetch := []

def initial (now : Nat) : CScannerService := { now }

def refreshInterval : Nat := 30 * 10 ^ 9

/-- `refreshDevices` is a call of the startup worker or of `RefreshScanners`. What locks the
devices only to read them, as `find_device` does, holds others up and has no label. -/
inductive Label where
  | tick (duration : Nat)
  | refreshDevices (caller : Nat)
  | getScanners (caller : Nat)
  | readClock (caller : Nat)
  | lockShared (caller : Nat)
  | lockDevices (caller : Nat)
  | lockFetch (caller : Nat)
  | startGetDevices (caller : Nat)
  | endGetDevices (caller : Nat) (empty : Bool)
  | store (caller : Nat)
  deriving DecidableEq, Repr

inductive Fault where
  | blocked
  deriving DecidableEq, Repr

def CScannerService.move (service : CScannerService) (caller : Nat) (phase : Phase) :
    CScannerService :=
  { service with phases := Function.update service.phases caller phase }

-- Irreducible: nothing is to be decided by counting up to a clock reading.
@[irreducible] def shouldRefreshDevices (clock lastDeviceFetch : Nat) : Bool :=
  decide (lastDeviceFetch + refreshInterval < clock)

def afterTest (clock lastDeviceFetch : Nat) : Phase :=
  if shouldRefreshDevices clock lastDeviceFetch then .due else .idle

def step (order : OperandOrder) (service : CScannerService) :
    Label → Except Fault CScannerService
  | .tick duration => .ok { service with now := service.now + duration }
  | .refreshDevices caller =>
      if service.phases caller = .idle then .ok (service.move caller .called)
      else .error .blocked
  | .getScanners caller =>
      -- The list is looked at under its lock, which is released before the refresh.
      if service.phases caller = .idle ∧ service.devicesLock = none then
        .ok (if service.devicesEmpty then service.move caller .called else service)
      else .error .blocked
  | .readClock caller =>
      match service.phases caller with
      | .called =>
          if order = .clockFirst then .ok (service.move caller (.clockRead service.now))
          else .error .blocked
      | .locked =>
          .ok { service.move caller (afterTest service.now service.lastDeviceFetch) with
            fetchReaders := service.fetchReaders.erase caller }
      | .idle | .clockRead _ | .due | .holdsDevices | .holdsBoth | .fetching | .fetched =>
          .error .blocked
  | .lockShared caller =>
      if service.fetchLock = none then
        match service.phases caller with
        | .clockRead clock =>
            .ok (service.move caller (afterTest clock service.lastDeviceFetch))
        | .called =>
            if order = .lockFirst then
              .ok { service.move caller .locked with
                fetchReaders := insert caller service.fetchReaders }
            else .error .blocked
        | .idle | .locked | .due | .holdsDevices | .holdsBoth | .fetching | .fetched =>
            .error .blocked
      else .error .blocked
  | .lockDevices caller =>
      if service.phases caller = .due ∧ service.devicesLock = none then
        .ok { service.move caller .holdsDevices with devicesLock := some caller }
      else .error .blocked
  | .lockFetch caller =>
      if service.phases caller = .holdsDevices ∧ service.fetchLock = none ∧
          service.fetchReaders = ∅ then
        .ok { service.move caller .holdsBoth with fetchLock := some caller }
      else .error .blocked
  | .startGetDevices caller =>
      if service.phases caller = .holdsBoth then
        .ok { service.move caller .fetching with log := .started service.now :: service.log }
      else .error .blocked
  | .endGetDevices caller empty =>
      if service.phases caller = .fetching then
        .ok { service.move caller .fetched with
          devicesEmpty := empty
          log := .ended service.now :: service.log }
      else .error .blocked
  | .store caller =>
      -- The guards go out of scope with the call.
      if service.phases caller = .fetched then
        .ok { service.move caller .idle with
          lastDeviceFetch := service.now
          devicesLock := none
          fetchLock := none }
      else .error .blocked

/-- No call of `sane_get_devices` starts within the interval behind the end of one. -/
def Apart : List Fetch → Prop
  | [] => True
  | .started time :: earlier =>
      (∀ ended, .ended ended ∈ earlier → ended + refreshInterval < time) ∧ Apart earlier
  | .ended _ :: earlier => Apart earlier

def Tests : Label → Prop
  | .lockShared _ => True
  | .tick _ | .refreshDevices _ | .getScanners _ | .readClock _ | .lockDevices _
  | .lockFetch _ | .startGetDevices _ | .endGetDevices _ _ | .store _ => False

/-- However the calls go on without another taking the lock for its age test, the fetches
are apart. -/
def Safe (order : OperandOrder) (service : CScannerService) : Prop :=
  ∀ rest, (∀ label ∈ rest, ¬ Tests label) →
    Runs.Ends (fun last => Apart last.log) (fun _ => True) (Runs.run (step order) service rest)

/-- The call may fetch without taking the lock for another age test, and has not stored
its time. -/
def Phase.mayFetch : Phase → Bool
  | .locked | .due | .holdsDevices | .holdsBoth | .fetching | .fetched => true
  | .idle | .called | .clockRead _ => false

/-- The shared lock lets the call through, or may let it through once the clock is read. -/
def MayPass (order : OperandOrder) (service : CScannerService) (caller : Nat) : Prop :=
  match service.phases caller with
  | .clockRead clock => shouldRefreshDevices clock service.lastDeviceFetch = true
  | .called => order = .lockFirst
  | .idle | .locked | .due | .holdsDevices | .holdsBoth | .fetching | .fetched => False

/-- An age test that may pass is begun only while no other call has passed, or may pass,
without having stored its time. -/
def TestsAlone (order : OperandOrder) (service : CScannerService) : Label → Prop
  | .lockShared caller => service.fetchLock = none → MayPass order service caller →
      ∀ other, other ≠ caller → (service.phases other).mayFetch = false
  | .tick _ | .refreshDevices _ | .getScanners _ | .readClock _ | .lockDevices _
  | .lockFetch _ | .startGetDevices _ | .endGetDevices _ _ | .store _ => True

end Model

section Timing
variable {now last : Nat} {phases : Nat → Phase} {log : List Fetch}

/-- What a call knows of the clock and of the fetches that have ended. -/
def Phase.Timely (now : Nat) (log : List Fetch) : Phase → Prop
  | .clockRead clock => clock ≤ now
  | .due | .holdsDevices | .holdsBoth =>
      ∀ ended, .ended ended ∈ log → ended + refreshInterval < now
  | .idle | .called | .locked | .fetching | .fetched => True

/-- At most one call may fetch, and the stored time covers all fetches but the one that is
still to be stored. -/
structure Spaced (now last : Nat) (phases : Nat → Phase) (log : List Fetch) : Prop where
  alone : ∀ first second, (phases first).mayFetch = true → (phases second).mayFetch = true →
    first = second
  apart : Apart log
  past : ∀ ended, .ended ended ∈ log → ended ≤ now
  stamped : (∀ caller, phases caller ≠ .fetched) → ∀ ended, .ended ended ∈ log → ended ≤ last
  timely : ∀ caller, (phases caller).Timely now log

theorem Spaced.others (spaced : Spaced now last phases log) {caller : Nat}
    (fetches : (phases caller).mayFetch = true) (other : Nat) (differs : other ≠ caller) :
    (phases other).mayFetch = false := by
  cases others : (phases other).mayFetch with
  | false => rfl
  | true => exact absurd (spaced.alone other caller others fetches) differs

theorem Phase.Timely.mono {phase : Phase} {later : Nat} (timely : phase.Timely now log)
    (passes : now ≤ later) : phase.Timely later log := by
  cases phase with
  | clockRead clock => exact Nat.le_trans timely passes
  | due | holdsDevices | holdsBoth =>
      exact fun ended member => Nat.lt_of_lt_of_le (timely ended member) passes
  | idle | called | locked | fetching | fetched => trivial

theorem Phase.Timely.of_idle {phase : Phase} {other : List Fetch} (timely : phase.Timely now log)
    (idle : phase.mayFetch = false) : phase.Timely now other := by
  cases phase with
  | clockRead clock => exact timely
  | idle | called => trivial
  | locked | due | holdsDevices | holdsBoth | fetching | fetched =>
      simp [Phase.mayFetch] at idle

theorem tick_spaced (duration : Nat) (spaced : Spaced now last phases log) :
    Spaced (now + duration) last phases log where
  alone := spaced.alone
  apart := spaced.apart
  past ended member := Nat.le_add_right_of_le (spaced.past ended member)
  stamped := spaced.stamped
  timely caller := (spaced.timely caller).mono (Nat.le_add_right now duration)

theorem alone_update (caller : Nat) (phase : Phase)
    (alone : ∀ first second, (phases first).mayFetch = true →
      (phases second).mayFetch = true → first = second)
    (others : phase.mayFetch = true →
      ∀ other, other ≠ caller → (phases other).mayFetch = false) (first second : Nat)
    (one : (Function.update phases caller phase first).mayFetch = true)
    (two : (Function.update phases caller phase second).mayFetch = true) : first = second := by
  simp only [Function.update_apply] at one two
  split at one
  next isFirst =>
    split at two
    next isSecond => rw [isFirst, isSecond]
    next notSecond => simp [others one second notSecond] at two
  next notFirst =>
    split at two
    next isSecond => simp [others two first notFirst] at one
    next notSecond => exact alone first second one two

theorem move_spaced (caller : Nat) (phase : Phase) (spaced : Spaced now last phases log)
    (others : phase.mayFetch = true →
      ∀ other, other ≠ caller → (phases other).mayFetch = false)
    (before : phases caller ≠ .fetched) (timely : phase.Timely now log) :
    Spaced now last (Function.update phases caller phase) log where
  alone := alone_update caller phase spaced.alone others
  apart := spaced.apart
  past := spaced.past
  stamped none := by
    apply spaced.stamped
    intro other
    by_cases same : other = caller
    · rwa [same]
    · have unchanged := none other
      rwa [Function.update_of_ne same] at unchanged
  timely other := by
    by_cases same : other = caller
    · rwa [same, Function.update_self]
    · rw [Function.update_of_ne same]
      exact spaced.timely other

theorem start_spaced (caller : Nat) (spaced : Spaced now last phases log)
    (holds : phases caller = .holdsBoth) :
    Spaced now last (Function.update phases caller .fetching) (.started now :: log) := by
  have fetches : (phases caller).mayFetch = true := by simp [holds, Phase.mayFetch]
  have moved := move_spaced caller .fetching spaced (fun _ => spaced.others fetches)
    (by simp [holds]) trivial
  have knows := spaced.timely caller
  rw [holds] at knows
  have same (ended : Nat) : .ended ended ∈ .started now :: log ↔ .ended ended ∈ log := by simp
  constructor
  · exact moved.alone
  · exact ⟨knows, spaced.apart⟩
  · exact fun ended member => spaced.past ended ((same ended).mp member)
  · exact fun none ended member => moved.stamped none ended ((same ended).mp member)
  · intro other
    have timely := moved.timely other
    cases phase : Function.update phases caller .fetching other with
    | due | holdsDevices | holdsBoth =>
        rw [phase] at timely
        exact fun ended member => timely ended ((same ended).mp member)
    | clockRead clock =>
        rw [phase] at timely
        exact timely
    | idle | called | locked | fetching | fetched => trivial

theorem end_spaced (caller : Nat) (spaced : Spaced now last phases log)
    (fetching : phases caller = .fetching) :
    Spaced now last (Function.update phases caller .fetched) (.ended now :: log) := by
  have fetches : (phases caller).mayFetch = true := by simp [fetching, Phase.mayFetch]
  constructor
  · exact alone_update caller .fetched spaced.alone fun _ => spaced.others fetches
  · exact spaced.apart
  · intro ended member
    rcases List.mem_cons.mp member with same | before
    · exact Nat.le_of_eq (Fetch.ended.inj same)
    · exact spaced.past ended before
  · intro none
    have self := none caller
    simp at self
  · intro other
    by_cases same : other = caller
    · rw [same, Function.update_self]
      trivial
    · rw [Function.update_of_ne same]
      exact (spaced.timely other).of_idle (spaced.others fetches other same)

theorem store_spaced (caller : Nat) (spaced : Spaced now last phases log) :
    Spaced now now (Function.update phases caller .idle) log where
  alone := alone_update caller .idle spaced.alone fun idle => absurd idle (by simp [Phase.mayFetch])
  apart := spaced.apart
  past := spaced.past
  stamped _ := spaced.past
  timely other := by
    by_cases same : other = caller
    · rw [same, Function.update_self]
      trivial
    · rw [Function.update_of_ne same]
      exact spaced.timely other

theorem shouldRefreshDevices_iff (clock last : Nat) :
    shouldRefreshDevices clock last = true ↔ last + refreshInterval < clock := by
  unfold shouldRefreshDevices
  exact decide_eq_true_iff

theorem afterTest_mayFetch (clock last : Nat) :
    (afterTest clock last).mayFetch = shouldRefreshDevices clock last := by
  unfold afterTest
  cases shouldRefreshDevices clock last <;> rfl

theorem afterTest_timely {clock : Nat} (read : clock ≤ now)
    (stamped : shouldRefreshDevices clock last = true →
      ∀ ended, .ended ended ∈ log → ended ≤ last) :
    (afterTest clock last).Timely now log := by
  unfold afterTest
  split
  next passes =>
    intro ended member
    have before := stamped passes ended member
    have old : last + refreshInterval < clock := (shouldRefreshDevices_iff clock last).mp passes
    omega
  next => trivial

end Timing

section Locks
variable {devicesLock fetchLock : Option Nat} {fetchReaders : Finset Nat} {phases : Nat → Phase}

def Phase.ownsDevices : Phase → Bool
  | .holdsDevices | .holdsBoth | .fetching | .fetched => true
  | .idle | .called | .clockRead _ | .locked | .due => false

def Phase.ownsFetch : Phase → Bool
  | .holdsBoth | .fetching | .fetched => true
  | .idle | .called | .clockRead _ | .locked | .due | .holdsDevices => false

/-- The locks are held by calls that are where they hold them. -/
structure Locked (devicesLock fetchLock : Option Nat) (fetchReaders : Finset Nat)
    (phases : Nat → Phase) : Prop where
  devices : ∀ caller, devicesLock = some caller → (phases caller).ownsDevices = true
  fetch : ∀ caller, fetchLock = some caller ↔ (phases caller).ownsFetch = true
  readers : ∀ caller ∈ fetchReaders, phases caller = .locked

theorem move_locked {newDevices newFetch : Option Nat} {newReaders : Finset Nat}
    (caller : Nat) (phase : Phase) (locked : Locked devicesLock fetchLock fetchReaders phases)
    (devices : ∀ other, newDevices = some other →
      if other = caller then phase.ownsDevices = true else devicesLock = some other)
    (fetch : ∀ other, newFetch = some other ↔
      if other = caller then phase.ownsFetch = true else fetchLock = some other)
    (readers : ∀ other ∈ newReaders,
      if other = caller then phase = .locked else other ∈ fetchReaders) :
    Locked newDevices newFetch newReaders (Function.update phases caller phase) := by
  constructor
  · intro other holds
    have owner := devices other holds
    rw [Function.update_apply]
    split at owner
    next same => rwa [if_pos same]
    next differs =>
      rw [if_neg differs]
      exact locked.devices other owner
  · intro other
    rw [fetch, Function.update_apply]
    split
    next => rfl
    next => exact locked.fetch other
  · intro other member
    have reader := readers other member
    rw [Function.update_apply]
    split at reader
    next same => rwa [if_pos same]
    next differs =>
      rw [if_neg differs]
      exact locked.readers other reader

theorem read_locked {newReaders : Finset Nat} (caller : Nat) (phase : Phase)
    (locked : Locked devicesLock fetchLock fetchReaders phases)
    (devices : phase.ownsDevices = (phases caller).ownsDevices)
    (fetch : phase.ownsFetch = (phases caller).ownsFetch)
    (readers : ∀ other ∈ newReaders,
      if other = caller then phase = .locked else other ∈ fetchReaders) :
    Locked devicesLock fetchLock newReaders (Function.update phases caller phase) := by
  apply move_locked caller phase locked
  · intro other holds
    split
    next same => rw [devices, locked.devices caller (same ▸ holds)]
    next => exact holds
  · intro other
    split
    next same => rw [fetch, same, locked.fetch caller]
    next => rfl
  · exact readers

theorem keep_locked (caller : Nat) (phase : Phase)
    (locked : Locked devicesLock fetchLock fetchReaders phases)
    (devices : phase.ownsDevices = (phases caller).ownsDevices)
    (fetch : phase.ownsFetch = (phases caller).ownsFetch) (reader : phases caller ≠ .locked) :
    Locked devicesLock fetchLock fetchReaders (Function.update phases caller phase) := by
  apply read_locked caller phase locked devices fetch
  intro other member
  split
  next same => exact absurd (locked.readers other member) (same ▸ reader)
  next => exact member

end Locks

structure Sound (service : CScannerService) : Prop where
  spaced : Spaced service.now service.lastDeviceFetch service.phases service.log
  locked : Locked service.devicesLock service.fetchLock service.fetchReaders service.phases

theorem initial_sound (now : Nat) : Sound (initial now) where
  spaced := {
    alone _ _ fetches := absurd fetches Bool.false_ne_true
    apart := trivial
    past _ member := absurd member List.not_mem_nil
    stamped _ _ member := absurd member List.not_mem_nil
    timely _ := trivial }
  locked := {
    devices _ holds := absurd holds (by simp [initial])
    fetch _ := by simp [initial, Phase.ownsFetch]
    readers _ member := absurd member (Finset.notMem_empty _) }

section Steps
variable {order : OperandOrder} {service : CScannerService} {caller : Nat}

theorem call_sound (sound : Sound service) (idle : service.phases caller = .idle) :
    Sound (service.move caller .called) where
  spaced := by
    apply move_spaced caller .called sound.spaced
    · exact fun fetches => absurd fetches Bool.false_ne_true
    · simp [idle]
    · trivial
  locked := by
    apply keep_locked caller .called sound.locked
    · rw [idle]; rfl
    · rw [idle]; rfl
    · simp [idle]

theorem afterTest_owns (clock last : Nat) :
    (afterTest clock last).ownsDevices = false ∧ (afterTest clock last).ownsFetch = false := by
  unfold afterTest
  split <;> exact ⟨rfl, rfl⟩

theorem stamped_alone {now last : Nat} {phases : Nat → Phase} {log : List Fetch}
    (spaced : Spaced now last phases log) (before : phases caller ≠ .fetched)
    (others : ∀ other, other ≠ caller → (phases other).mayFetch = false) (ended : Nat)
    (member : .ended ended ∈ log) : ended ≤ last := by
  apply spaced.stamped _ ended member
  intro other fetched
  by_cases same : other = caller
  · exact before (same ▸ fetched)
  · have idle := others other same
    simp [fetched, Phase.mayFetch] at idle

theorem readClock_sound (sound : Sound service) :
    Runs.Ends Sound (fun _ => True) (step order service (.readClock caller)) := by
  simp only [step]
  cases phase : service.phases caller with
  | called =>
      dsimp only
      split
      next =>
        constructor
        · apply move_spaced caller _ sound.spaced
          · exact fun fetches => absurd fetches Bool.false_ne_true
          · simp [phase]
          · exact Nat.le_refl service.now
        · apply keep_locked caller _ sound.locked
          · rw [phase]; rfl
          · rw [phase]; rfl
          · simp [phase]
      next => trivial
  | locked =>
      have fetches : (service.phases caller).mayFetch = true := by simp [phase, Phase.mayFetch]
      have before : service.phases caller ≠ .fetched := by simp [phase]
      have others := sound.spaced.others fetches
      constructor
      · apply move_spaced caller _ sound.spaced (fun _ => others) before
        apply afterTest_timely (Nat.le_refl _)
        exact fun _ => stamped_alone sound.spaced before others
      · apply read_locked caller _ sound.locked
        · rw [phase, (afterTest_owns _ _).1]; rfl
        · rw [phase, (afterTest_owns _ _).2]; rfl
        · intro other member
          obtain ⟨differs, reader⟩ := Finset.mem_erase.mp member
          rwa [if_neg differs]
  | idle | clockRead clock | due | holdsDevices | holdsBoth | fetching | fetched => trivial

theorem lockShared_sound (sound : Sound service)
    (alone : TestsAlone order service (.lockShared caller)) :
    Runs.Ends Sound (fun _ => True) (step order service (.lockShared caller)) := by
  simp only [step]
  split
  next free =>
    have passes := alone free
    unfold MayPass at passes
    cases phase : service.phases caller with
    | clockRead clock =>
        rw [phase] at passes
        have before : service.phases caller ≠ .fetched := by simp [phase]
        have read := sound.spaced.timely caller
        simp only [phase, Phase.Timely] at read
        have others (fetches : (afterTest clock service.lastDeviceFetch).mayFetch = true) :
            ∀ other, other ≠ caller → (service.phases other).mayFetch = false := by
          rw [afterTest_mayFetch] at fetches
          exact passes fetches
        constructor
        · apply move_spaced caller _ sound.spaced others before
          apply afterTest_timely read
          exact fun may => stamped_alone sound.spaced before (passes may)
        · apply keep_locked caller _ sound.locked
          · rw [phase, (afterTest_owns _ _).1]; rfl
          · rw [phase, (afterTest_owns _ _).2]; rfl
          · simp [phase]
    | called =>
        rw [phase] at passes
        dsimp only
        split
        next lockFirst =>
          constructor
          · apply move_spaced caller _ sound.spaced (fun _ => passes lockFirst)
            · simp [phase]
            · trivial
          · apply read_locked caller _ sound.locked
            · rw [phase]; rfl
            · rw [phase]; rfl
            · intro other member
              split
              next => rfl
              next differs => exact Finset.mem_of_mem_insert_of_ne member differs
        next => trivial
    | idle | locked | due | holdsDevices | holdsBoth | fetching | fetched => trivial
  next => trivial

theorem onwards_spaced (phase : Phase) (sound : Sound service)
    (fetches : (service.phases caller).mayFetch = true)
    (before : service.phases caller ≠ .fetched)
    (timely : phase.Timely service.now service.log) :
    Spaced service.now service.lastDeviceFetch (Function.update service.phases caller phase)
      service.log :=
  move_spaced caller phase sound.spaced (fun _ => sound.spaced.others fetches) before timely

theorem lockDevices_sound (sound : Sound service) :
    Runs.Ends Sound (fun _ => True) (step order service (.lockDevices caller)) := by
  simp only [step]
  split
  next taken =>
    have due := taken.1
    have knows := sound.spaced.timely caller
    rw [due] at knows
    constructor
    · exact onwards_spaced .holdsDevices sound (by simp [due, Phase.mayFetch]) (by simp [due])
        knows
    · apply move_locked caller _ sound.locked
      · intro other holds
        rw [if_pos (Option.some.inj holds).symm]
        rfl
      · intro other
        have owner := sound.locked.fetch other
        split
        next same =>
          rw [same, due] at owner
          exact same ▸ owner
        next => rfl
      · intro other member
        split
        next same => simp [← same, sound.locked.readers other member] at due
        next => exact member
  next => trivial

theorem lockFetch_sound (sound : Sound service) :
    Runs.Ends Sound (fun _ => True) (step order service (.lockFetch caller)) := by
  simp only [step]
  split
  next taken =>
    obtain ⟨holds, free, readers⟩ := taken
    have knows := sound.spaced.timely caller
    rw [holds] at knows
    constructor
    · exact onwards_spaced .holdsBoth sound (by simp [holds, Phase.mayFetch]) (by simp [holds])
        knows
    · apply move_locked caller _ sound.locked
      · intro other owner
        split
        next => rfl
        next => exact owner
      · intro other
        split
        next same => simp [same, Phase.ownsFetch]
        next differs => simp [free, Ne.symm differs]
      · intro other member
        simp [CScannerService.move, readers] at member
  next => trivial

theorem startGetDevices_sound (sound : Sound service) :
    Runs.Ends Sound (fun _ => True) (step order service (.startGetDevices caller)) := by
  simp only [step]
  split
  next holds =>
    constructor
    · exact start_spaced caller sound.spaced holds
    · apply keep_locked caller _ sound.locked
      · rw [holds]; rfl
      · rw [holds]; rfl
      · simp [holds]
  next => trivial

theorem endGetDevices_sound (empty : Bool) (sound : Sound service) :
    Runs.Ends Sound (fun _ => True) (step order service (.endGetDevices caller empty)) := by
  simp only [step]
  split
  next fetching =>
    constructor
    · exact end_spaced caller sound.spaced fetching
    · apply keep_locked caller _ sound.locked
      · rw [fetching]; rfl
      · rw [fetching]; rfl
      · simp [fetching]
  next => trivial

theorem store_sound (sound : Sound service) :
    Runs.Ends Sound (fun _ => True) (step order service (.store caller)) := by
  simp only [step]
  split
  next fetched =>
    have owns := (sound.locked.fetch caller).mpr (by simp [fetched, Phase.ownsFetch])
    constructor
    · exact store_spaced caller sound.spaced
    · apply move_locked caller _ sound.locked
      · exact fun other holds => absurd holds (Option.some_ne_none other).symm
      · intro other
        split
        next same => simp [Phase.ownsFetch]
        next differs => simp [owns, Ne.symm differs]
      · intro other member
        split
        next same => simp [← same, sound.locked.readers other member] at fetched
        next => exact member
  next => trivial

theorem step_sound (label : Label) (sound : Sound service)
    (alone : TestsAlone order service label) :
    Runs.Ends Sound (fun _ => True) (step order service label) := by
  cases label with
  | tick duration => exact ⟨tick_spaced duration sound.spaced, sound.locked⟩
  | refreshDevices caller =>
      simp only [step]
      split
      next idle => exact call_sound sound idle
      next => trivial
  | getScanners caller =>
      simp only [step]
      split
      next idle =>
        cases service.devicesEmpty with
        | true => exact call_sound sound idle.1
        | false => exact sound
      next => trivial
  | readClock caller => exact readClock_sound sound
  | lockShared caller => exact lockShared_sound sound alone
  | lockDevices caller => exact lockDevices_sound sound
  | lockFetch caller => exact lockFetch_sound sound
  | startGetDevices caller => exact startGetDevices_sound sound
  | endGetDevices caller empty => exact endGetDevices_sound empty sound
  | store caller => exact store_sound sound

theorem testsAlone_of_not_tests (label : Label) (other : ¬ Tests label) :
    TestsAlone order service label := by
  cases label with
  | lockShared caller => exact absurd trivial other
  | tick | refreshDevices | getScanners | readClock | lockDevices | lockFetch
  | startGetDevices | endGetDevices | store => trivial

theorem safe_of_sound (sound : Sound service) : Safe order service := by
  intro rest quiet
  exact Runs.run_ends_of_labels Sound _ (fun _ => True) (fun last sound => sound.spaced.apart)
    (fun service label sound other => step_sound label sound (testsAlone_of_not_tests label other))
    service rest sound quiet

end Steps

section Races
variable {order : OperandOrder} {service next : CScannerService} {first second : Nat}
  {behind ahead : Phase}

/-- Two calls that have begun their age test before either has stored its time, and that
the clock lets through. -/
structure Race (service : CScannerService) (first second : Nat) (behind ahead : Phase) :
    Prop where
  differ : first ≠ second
  firstAt : service.phases first = behind
  secondAt : service.phases second = ahead
  devices : service.devicesLock ≠ none → ahead = .holdsDevices
  fetch : service.fetchLock = none
  readers : ∀ caller ∈ service.fetchReaders,
    caller = first ∧ behind = .locked ∨ caller = second ∧ ahead = .locked
  late : service.lastDeviceFetch + refreshInterval < service.now

theorem safe_behind (label : Label) (safe : Safe order service) (other : ¬ Tests label)
    (taken : step order service label = .ok next) : Safe order next :=
  Runs.continuations_behind label other taken safe

theorem not_safe_holding (race : Race service first second .due .holdsDevices) :
    ¬ Safe order service := by
  intro safe
  have none : service.fetchReaders = ∅ := by
    apply Finset.eq_empty_of_forall_notMem
    intro caller member
    rcases race.readers caller member with reader | reader <;> cases reader.2
  have apart := safe [.lockFetch second, .startGetDevices second, .endGetDevices second false,
    .store second, .lockDevices first, .lockFetch first, .startGetDevices first]
    (by simp [Tests])
  simp only [Runs.run, step, CScannerService.move, race.firstAt, race.secondAt, race.fetch, none,
    race.differ, Runs.Ends, Apart, Function.update_self, Function.update_of_ne, ne_eq,
    not_false_eq_true, and_self, ↓reduceIte] at apart
  have started := apart.1 service.now List.mem_cons_self
  omega

theorem not_safe_due (race : Race service first second .due .due) : ¬ Safe order service := by
  intro safe
  have free : service.devicesLock = none := by
    cases owner : service.devicesLock with
    | none => rfl
    | some caller => cases race.devices (by simp [owner])
  have taken : step order service (.lockDevices second) =
      .ok { service.move second .holdsDevices with devicesLock := some second } := by
    simp only [step]
    rw [if_pos ⟨race.secondAt, free⟩]
  have holding : Race { service.move second .holdsDevices with devicesLock := some second }
      first second .due .holdsDevices := {
    differ := race.differ
    firstAt := by simp [CScannerService.move, race.differ, race.firstAt]
    secondAt := by simp [CScannerService.move]
    devices _ := rfl
    fetch := race.fetch
    readers caller member := by
      rcases race.readers caller member with reader | reader <;> cases reader.2
    late := race.late }
  exact not_safe_holding holding (safe_behind _ safe id taken)

theorem readClock_taken {caller : Nat} (locked : service.phases caller = .locked)
    (late : service.lastDeviceFetch + refreshInterval < service.now) :
    step order service (.readClock caller) = .ok { service.move caller .due with
      fetchReaders := service.fetchReaders.erase caller } := by
  have passes : afterTest service.now service.lastDeviceFetch = .due :=
    if_pos ((shouldRefreshDevices_iff _ _).mpr late)
  simp only [step, locked, passes]

theorem readClock_second (race : Race service first second behind .locked) :
    Race { service.move second .due with
      fetchReaders := service.fetchReaders.erase second } first second behind .due where
  differ := race.differ
  firstAt := by simp [CScannerService.move, race.differ, race.firstAt]
  secondAt := by simp [CScannerService.move]
  devices held := by cases race.devices held
  fetch := race.fetch
  readers caller member := by
    obtain ⟨differs, reader⟩ := Finset.mem_erase.mp member
    rcases race.readers caller reader with isFirst | isSecond
    · exact Or.inl isFirst
    · exact absurd isSecond.1 differs
  late := race.late

theorem readClock_first (race : Race service first second .locked ahead) :
    Race { service.move first .due with
      fetchReaders := service.fetchReaders.erase first } first second .due ahead where
  differ := race.differ
  firstAt := by simp [CScannerService.move]
  secondAt := by simp [CScannerService.move, race.differ.symm, race.secondAt]
  devices := race.devices
  fetch := race.fetch
  readers caller member := by
    obtain ⟨differs, reader⟩ := Finset.mem_erase.mp member
    rcases race.readers caller reader with isFirst | isSecond
    · exact absurd isFirst.1 differs
    · exact Or.inr isSecond
  late := race.late

theorem not_safe_behind_due (race : Race service first second .due ahead)
    (early : ahead = .locked ∨ ahead = .due ∨ ahead = .holdsDevices) : ¬ Safe order service := by
  rcases early with rfl | rfl | rfl
  · intro safe
    have behind := safe_behind _ safe id (readClock_taken race.secondAt race.late)
    exact not_safe_due (readClock_second race) behind
  · exact not_safe_due race
  · exact not_safe_holding race

theorem not_safe_of_race (race : Race service first second behind ahead)
    (waits : behind = .locked ∨ behind = .due)
    (early : ahead = .locked ∨ ahead = .due ∨ ahead = .holdsDevices) : ¬ Safe order service := by
  rcases waits with rfl | rfl
  · intro safe
    have behind := safe_behind _ safe id (readClock_taken race.firstAt race.late)
    exact not_safe_behind_due (readClock_first race) early behind
  · exact not_safe_behind_due race early

theorem early_of_mayFetch {caller : Nat} (sound : Sound service)
    (free : service.fetchLock = none) (fetches : (service.phases caller).mayFetch = true) :
    service.phases caller = .locked ∨ service.phases caller = .due ∨
      service.phases caller = .holdsDevices := by
  have owner := sound.locked.fetch caller
  rw [free] at owner
  cases phase : service.phases caller with
  | locked | due | holdsDevices => simp
  | holdsBoth | fetching | fetched => simp [phase, Phase.ownsFetch] at owner
  | idle | called | clockRead clock => simp [phase, Phase.mayFetch] at fetches

theorem race_beside {caller other : Nat} (behind : Phase) (readers : Finset Nat)
    (sound : Sound service) (free : service.fetchLock = none) (differs : other ≠ caller)
    (fetches : (service.phases other).mayFetch = true)
    (reads : ∀ reader ∈ readers,
      reader = caller ∧ behind = .locked ∨ reader ∈ service.fetchReaders) :
    Race { service.move caller behind with
      fetchReaders := readers
      now := service.now + (service.lastDeviceFetch + refreshInterval + 1) }
      caller other behind (service.phases other) where
  differ := differs.symm
  firstAt := by simp [CScannerService.move]
  secondAt := by simp [CScannerService.move, differs]
  devices held := by
    obtain ⟨owner, isOwner⟩ := Option.ne_none_iff_exists'.mp held
    have owns := sound.locked.devices owner isOwner
    have same : owner = other := by
      apply sound.spaced.alone owner other _ fetches
      cases phase : service.phases owner <;> simp_all [Phase.ownsDevices, Phase.mayFetch]
    rw [same] at owns
    rcases early_of_mayFetch sound free fetches with locked | due | holds
    · simp [locked, Phase.ownsDevices] at owns
    · simp [due, Phase.ownsDevices] at owns
    · exact holds
  fetch := free
  readers reader member := by
    rcases reads reader member with own | before
    · exact Or.inl own
    · have locked := sound.locked.readers reader before
      have same : reader = other :=
        sound.spaced.alone reader other (by simp [locked, Phase.mayFetch]) fetches
      exact Or.inr ⟨same, same ▸ locked⟩
  late := by
    simp only [CScannerService.move]
    omega

theorem testsAlone_of_safe (label : Label) (sound : Sound service)
    (safe : Runs.Ends (Safe order) (fun _ => True) (step order service label)) :
    TestsAlone order service label := by
  cases label with
  | lockShared caller =>
      intro free may other differs
      cases fetches : (service.phases other).mayFetch with
      | false => rfl
      | true =>
          have early := early_of_mayFetch sound free fetches
          simp only [step, free, ↓reduceIte] at safe
          unfold MayPass at may
          cases phase : service.phases caller with
          | clockRead clock =>
              simp only [phase] at may
              have passes : afterTest clock service.lastDeviceFetch = .due := if_pos may
              simp only [phase, passes] at safe
              have race := race_beside .due service.fetchReaders sound free differs fetches
                fun reader member => Or.inr member
              exact absurd (safe_behind (.tick _) safe id rfl)
                (not_safe_of_race race (Or.inr rfl) early)
          | called =>
              simp only [phase] at may
              simp only [phase, may, ↓reduceIte] at safe
              have race := race_beside .locked (insert caller service.fetchReaders) sound free
                differs fetches fun reader member => by
                  rcases Finset.mem_insert.mp member with own | before
                  · exact Or.inl ⟨own, rfl⟩
                  · exact Or.inr before
              exact absurd (safe_behind (.tick _) safe id rfl)
                (not_safe_of_race race (Or.inl rfl) early)
          | idle | locked | due | holdsDevices | holdsBoth | fetching | fetched =>
              simp only [phase] at may
  | tick | refreshDevices | getScanners | readClock | lockDevices | lockFetch
  | startGetDevices | endGetDevices | store => trivial

end Races

/-- In every state of a run the fetches are apart, and stay so, exactly if each call that
begins an age test that may pass does so while no other is between such a test and storing
its time. -/
theorem fetches_apart_iff (order : OperandOrder) (now : Nat) (labels : List Label) :
    (∀ front, front <+: labels →
      Runs.Ends (Safe order) (fun _ => True) (Runs.run (step order) (initial now) front)) ↔
      Runs.Along (step order) (TestsAlone order) (initial now) labels := by
  apply Runs.prefixes_end_iff Sound (Safe order) (fun _ => True) (fun _ => safe_of_sound)
  · exact fun service label sound alone => step_sound label sound alone
  · exact fun service label sound safe => testsAlone_of_safe label sound safe
  · exact initial_sound now

def bothPass : OperandOrder → List Label
  | .clockFirst => [.refreshDevices 0, .readClock 0, .lockShared 0,
      .getScanners 1, .readClock 1, .lockShared 1]
  | .lockFirst => [.refreshDevices 0, .lockShared 0, .readClock 0,
      .getScanners 1, .lockShared 1, .readClock 1]

def bothFetch : List Label :=
  [.lockDevices 0, .lockFetch 0, .startGetDevices 0, .tick (4 * 10 ^ 9), .endGetDevices 0 false,
    .store 0, .lockDevices 1, .lockFetch 1, .startGetDevices 1]

theorem not_apart_of_log {outcome : Except Fault CScannerService} {log : List Fetch}
    (reached : outcome.toOption.map CScannerService.log = some log) (close : ¬ Apart log) :
    Runs.Ends (fun service => ¬ Apart service.log) (fun _ => False) outcome := by
  cases outcome with
  | ok service =>
      cases (Option.some.inj reached : service.log = log)
      exact close
  | error fault => cases reached

theorem second_fetch_follows_at_once :
    Runs.Ends (fun service => ¬ Apart service.log) (fun _ => False)
      (Runs.run (step .clockFirst) (initial (10 ^ 18)) (bothPass .clockFirst ++ bothFetch)) ∧
    Runs.Ends (fun service => ¬ Apart service.log) (fun _ => False)
      (Runs.run (step .lockFirst) (initial (10 ^ 18)) (bothPass .lockFirst ++ bothFetch)) := by
  have close : ¬ Apart [.started (10 ^ 18 + 4 * 10 ^ 9), .ended (10 ^ 18 + 4 * 10 ^ 9),
      .started (10 ^ 18)] := by
    intro apart
    have started := apart.1 _ List.mem_cons_self
    omega
  exact ⟨not_apart_of_log (by decide +kernel) close, not_apart_of_log (by decide +kernel) close⟩

end SaneInTheMembrane.DeviceRefresh

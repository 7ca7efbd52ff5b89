import Mathlib.Logic.Function.Basic
import SaneInTheMembrane.Runs

/-!
mDns/AvahiServiceRegistration.hpp: `CAutoRestartableAvahiService`. A worker
creates services one after the other and blocks in the poll loop of each;
`shutdown` sets a flag and tells the current service to quit. The worker tests
the flag first and stores the pointer of its next service later, and a shutdown
that reads the pointer in between misses that service.
-/

namespace SaneInTheMembrane.AvahiShutdown

section Model

abbrev ServicePtr := Nat

/-- Where `start` is; `deleting` and `clearing` are the ends of `reset`. -/
inductive Worker where
  | testing
  | resetting
  | deleting (service : ServicePtr)
  | clearing (service : ServicePtr)
  | creating
  | starting (service : ServicePtr)
  | looping (service : ServicePtr)
  | returned
  deriving DecidableEq, Repr

inductive Call where
  | notMade
  | flagSet
  | calling (service : ServicePtr)
  | returned
  deriving DecidableEq, Repr

/-- The calls of `shutdown` come from several threads and from the signal handler. -/
structure CAutoRestartableAvahiService where
  shutdown : Bool := false
  avahiService : Option ServicePtr := none
  created : Nat := 0
  toldToQuit : List ServicePtr := []
  deleted : List ServicePtr := []
  worker : Worker := .testing
  calls : Nat → Call := fun _ => .notMade

def initial : CAutoRestartableAvahiService := {}

inductive Label where
  | worker
  | clientFails
  | daemonFails
  | setFlag (call : Nat)
  | readPointer (call : Nat)
  | quit (call : Nat)
  deriving DecidableEq, Repr

inductive Fault where
  | blocked
  | deletedService
  deriving DecidableEq, Repr

def moveCall (avahi : CAutoRestartableAvahiService) (call : Nat) (place : Call) :
    CAutoRestartableAvahiService :=
  { avahi with calls := Function.update avahi.calls call place }

def workerStep (avahi : CAutoRestartableAvahiService) :
    Except Fault CAutoRestartableAvahiService :=
  match avahi.worker with
  | .testing =>
      if avahi.shutdown then .ok { avahi with worker := .returned }
      else .ok { avahi with worker := .resetting }
  | .resetting =>
      match avahi.avahiService with
      | none => .ok { avahi with worker := .creating }
      | some service =>
          .ok { avahi with
            worker := .deleting service
            toldToQuit := service :: avahi.toldToQuit }
  | .deleting service =>
      .ok { avahi with worker := .clearing service, deleted := service :: avahi.deleted }
  | .clearing _ => .ok { avahi with worker := .creating, avahiService := none }
  | .creating =>
      .ok { avahi with
        worker := .starting avahi.created
        avahiService := some avahi.created
        created := avahi.created + 1 }
  -- `avahi_client_new` succeeds, and the poll loop begins.
  | .starting service => .ok { avahi with worker := .looping service }
  -- `avahi_simple_poll_loop` remembers a quit that came before it.
  | .looping service =>
      if service ∈ avahi.toldToQuit then .ok { avahi with worker := .testing }
      else .error .blocked
  | .returned => .error .blocked

def step (avahi : CAutoRestartableAvahiService) :
    Label → Except Fault CAutoRestartableAvahiService
  | .worker => workerStep avahi
  | .clientFails =>
      match avahi.worker with
      | .starting _ => .ok { avahi with worker := .testing }
      | _ => .error .blocked
  | .daemonFails =>
      match avahi.worker with
      | .looping _ => .ok { avahi with worker := .testing }
      | _ => .error .blocked
  | .setFlag call =>
      match avahi.calls call with
      | .notMade => .ok { moveCall avahi call .flagSet with shutdown := true }
      | _ => .error .blocked
  -- The pointer that is tested is the pointer that is used.
  | .readPointer call =>
      match avahi.calls call with
      | .flagSet =>
          match avahi.avahiService with
          | none => .ok (moveCall avahi call .returned)
          | some service => .ok (moveCall avahi call (.calling service))
      | _ => .error .blocked
  | .quit call =>
      match avahi.calls call with
      | .calling service =>
          if service ∈ avahi.deleted then .error .deletedService
          else .ok { moveCall avahi call .returned with
            toldToQuit := service :: avahi.toldToQuit }
      | _ => .error .blocked

/-- Behind a `shutdown` that has returned the worker is not blocked in the loop of
a service that was not told to quit. -/
def NotStuck (avahi : CAutoRestartableAvahiService) : Prop :=
  ∀ call, avahi.calls call = .returned → ∀ service, avahi.worker = .looping service →
    service ∈ avahi.toldToQuit

def NoDangling (fault : Fault) : Prop := fault ≠ .deletedService

def Reads : Label → Prop
  | .readPointer _ => True
  | .worker | .clientFails | .daemonFails | .setFlag _ | .quit _ => False

/-- However the threads go on without a further read of the pointer, nothing is
called that is deleted, and the worker is not stuck. -/
def Safe (avahi : CAutoRestartableAvahiService) : Prop :=
  ∀ rest, (∀ label ∈ rest, ¬ Reads label) →
    Runs.Ends NotStuck NoDangling (Runs.run step avahi rest)

def Worker.Replacing : Worker → Prop
  | .resetting | .deleting _ | .clearing _ | .creating => True
  | .testing | .starting _ | .looping _ | .returned => False

/-- A shutdown does not read the pointer while the worker replaces the service. -/
def Careful (avahi : CAutoRestartableAvahiService) : Label → Prop
  | .readPointer call => avahi.calls call = .flagSet → ¬ avahi.worker.Replacing
  | .worker | .clientFails | .daemonFails | .setFlag _ | .quit _ => True

def Worker.service : Worker → Option ServicePtr
  | .starting service | .looping service => some service
  | .testing | .resetting | .deleting _ | .clearing _ | .creating | .returned => none

end Model

section Invariant
variable {avahi : CAutoRestartableAvahiService}

/-- What `m_avahi_service` points to at each point of the worker. -/
def PointerFits (avahi : CAutoRestartableAvahiService) : Prop :=
  match avahi.worker with
  | .testing | .resetting | .returned =>
      ∀ service, avahi.avahiService = some service → service ∉ avahi.deleted
  | .deleting service | .starting service | .looping service =>
      avahi.avahiService = some service ∧ service ∉ avahi.deleted
  | .clearing service => avahi.avahiService = some service ∧ service ∈ avahi.deleted
  | .creating => avahi.avahiService = none

structure Placed (avahi : CAutoRestartableAvahiService) : Prop where
  fits : PointerFits avahi
  pointed : ∀ service, avahi.avahiService = some service → service < avahi.created
  told : ∀ service ∈ avahi.toldToQuit, service < avahi.created
  gone : ∀ service ∈ avahi.deleted, service < avahi.created

/-- A call that has read the pointer knows the service the worker runs, or has
told it to quit, and the worker creates no other. -/
def CallFits (avahi : CAutoRestartableAvahiService) : Call → Prop
  | .notMade => True
  | .flagSet => avahi.shutdown = true
  | .calling service => avahi.shutdown = true ∧ ¬ avahi.worker.Replacing ∧
      service ∉ avahi.deleted ∧ service < avahi.created ∧
      ∀ running, avahi.worker.service = some running → running = service
  | .returned => avahi.shutdown = true ∧ ¬ avahi.worker.Replacing ∧
      ∀ running, avahi.worker.service = some running → running ∈ avahi.toldToQuit

structure Heeded (avahi : CAutoRestartableAvahiService) : Prop where
  placed : Placed avahi
  calls : ∀ call, CallFits avahi (avahi.calls call)

theorem initial_placed : Placed initial where
  fits _ pointed := by cases pointed
  pointed _ pointed := by cases pointed
  told _ told := by cases told
  gone _ gone := by cases gone

theorem initial_heeded : Heeded initial := ⟨initial_placed, fun _ => trivial⟩

theorem notStuck_of_heeded (heeded : Heeded avahi) : NotStuck avahi := by
  intro call returned service looping
  have fits := heeded.calls call
  rw [returned] at fits
  exact fits.2.2 service (by simp [looping, Worker.service])

theorem pointer_of_service (placed : Placed avahi) (service : ServicePtr)
    (runs : avahi.worker.service = some service) : avahi.avahiService = some service := by
  have fits := placed.fits
  unfold PointerFits at fits
  cases point : avahi.worker <;> simp_all [Worker.service]

theorem pointer_alive (placed : Placed avahi) (settled : ¬ avahi.worker.Replacing)
    (service : ServicePtr) (pointed : avahi.avahiService = some service) :
    service ∉ avahi.deleted := by
  have fits := placed.fits
  unfold PointerFits at fits
  cases point : avahi.worker <;> simp_all [Worker.Replacing]

end Invariant

section WorkerSteps
variable {avahi : CAutoRestartableAvahiService}

theorem move_placed (worker : Worker) (placed : Placed avahi)
    (fits : PointerFits { avahi with worker := worker }) :
    Placed { avahi with worker := worker } :=
  ⟨fits, placed.pointed, placed.told, placed.gone⟩

theorem workerStep_placed (placed : Placed avahi) :
    Runs.Ends Placed NoDangling (workerStep avahi) := by
  have fits := placed.fits
  unfold workerStep
  unfold PointerFits at fits
  cases point : avahi.worker with
  | testing =>
      rw [point] at fits
      dsimp only
      split <;> exact move_placed _ placed fits
  | resetting =>
      rw [point] at fits
      dsimp only
      split
      next pointer => exact move_placed .creating placed pointer
      next service pointer =>
        refine ⟨⟨pointer, fits service pointer⟩, placed.pointed, ?_, placed.gone⟩
        intro other told
        rcases List.mem_cons.mp told with rfl | before
        · exact placed.pointed other pointer
        · exact placed.told other before
  | deleting service =>
      rw [point] at fits
      refine ⟨⟨fits.1, List.mem_cons_self⟩, placed.pointed, placed.told, ?_⟩
      intro other gone
      rcases List.mem_cons.mp gone with rfl | before
      · exact placed.pointed other fits.1
      · exact placed.gone other before
  | clearing service =>
      refine ⟨rfl, ?_, placed.told, placed.gone⟩
      intro other pointed
      cases pointed
  | creating =>
      constructor
      · refine ⟨rfl, fun gone => ?_⟩
        exact Nat.lt_irrefl _ (placed.gone _ gone)
      · intro service pointed
        cases pointed
        exact Nat.lt_succ_self _
      · exact fun service told => Nat.lt_succ_of_lt (placed.told service told)
      · exact fun service gone => Nat.lt_succ_of_lt (placed.gone service gone)
  | starting service =>
      rw [point] at fits
      exact move_placed (.looping service) placed fits
  | looping service =>
      rw [point] at fits
      dsimp only
      split
      · apply move_placed .testing placed
        rintro other pointed
        rw [fits.1] at pointed
        cases pointed
        exact fits.2
      · exact Fault.noConfusion
  | returned => exact Fault.noConfusion

theorem callFits_replacing (place : Call) (next : CAutoRestartableAvahiService)
    (fits : CallFits avahi place) (replacing : avahi.worker.Replacing)
    (flag : next.shutdown = avahi.shutdown) : CallFits next place := by
  cases place with
  | notMade => trivial
  | flagSet => exact flag.trans fits
  | calling service => exact absurd replacing fits.2.1
  | returned => exact absurd replacing fits.2.1

theorem callFits_move (place : Call) (worker : Worker) (fits : CallFits avahi place)
    (settled : avahi.shutdown = true → ¬ worker.Replacing)
    (same : ∀ running, worker.service = some running →
      avahi.worker.service = some running) :
    CallFits { avahi with worker := worker } place := by
  cases place with
  | notMade => trivial
  | flagSet => exact fits
  | calling service =>
      obtain ⟨flag, _, alive, old, only⟩ := fits
      exact ⟨flag, settled flag, alive, old, fun running runs => only running (same running runs)⟩
  | returned =>
      obtain ⟨flag, _, told⟩ := fits
      exact ⟨flag, settled flag, fun running runs => told running (same running runs)⟩

theorem move_heeded (worker : Worker) (heeded : Heeded avahi)
    (placed : Placed { avahi with worker := worker })
    (settled : avahi.shutdown = true → ¬ worker.Replacing)
    (same : ∀ running, worker.service = some running →
      avahi.worker.service = some running) :
    Heeded { avahi with worker := worker } where
  placed := placed
  calls call := callFits_move _ worker (heeded.calls call) settled same

theorem replace_heeded (next : CAutoRestartableAvahiService) (heeded : Heeded avahi)
    (placed : Placed next) (replacing : avahi.worker.Replacing)
    (flag : next.shutdown = avahi.shutdown) (calls : next.calls = avahi.calls) :
    Heeded next where
  placed := placed
  calls call := by
    rw [calls]
    exact callFits_replacing _ next (heeded.calls call) replacing flag

theorem workerStep_heeded (heeded : Heeded avahi) :
    Runs.Ends Heeded NoDangling (workerStep avahi) := by
  have placed := workerStep_placed heeded.placed
  unfold workerStep at placed ⊢
  cases point : avahi.worker with
  | testing =>
      -- With the flag set the worker returns; with the flag clear no call is past it.
      rw [point] at placed
      dsimp only at placed ⊢
      split
      next flag =>
        rw [if_pos flag] at placed
        apply move_heeded .returned heeded placed
        · exact fun _ => id
        · simp [Worker.service]
      next clear =>
        rw [if_neg clear] at placed
        apply move_heeded .resetting heeded placed
        · exact fun flag => absurd flag clear
        · simp [Worker.service]
  | resetting =>
      rw [point] at placed
      have replacing : avahi.worker.Replacing := by simp [point, Worker.Replacing]
      dsimp only at placed ⊢
      split at placed <;> exact replace_heeded _ heeded placed replacing rfl rfl
  | deleting service | clearing service | creating =>
      rw [point] at placed
      have replacing : avahi.worker.Replacing := by simp [point, Worker.Replacing]
      exact replace_heeded _ heeded placed replacing rfl rfl
  | starting service =>
      rw [point] at placed
      apply move_heeded (.looping service) heeded placed
      · exact fun _ => id
      · simp [Worker.service, point]
  | looping service =>
      rw [point] at placed
      dsimp only at placed ⊢
      split
      next told =>
        rw [if_pos told] at placed
        apply move_heeded .testing heeded placed
        · exact fun _ => id
        · simp [Worker.service]
      next => exact Fault.noConfusion
  | returned => exact Fault.noConfusion

end WorkerSteps

section CallSteps
variable {avahi : CAutoRestartableAvahiService}

theorem failed_heeded (heeded : Heeded avahi)
    (alive : ∀ service, avahi.avahiService = some service → service ∉ avahi.deleted) :
    Heeded { avahi with worker := .testing } := by
  apply move_heeded .testing heeded (move_placed .testing heeded.placed alive)
  · exact fun _ => id
  · simp [Worker.service]

@[simp] theorem callFits_moveCall (call : Nat) (moved place : Call) :
    CallFits (moveCall avahi call moved) place ↔ CallFits avahi place := by
  cases place <;> rfl

theorem moveCall_heeded (call : Nat) (place : Call) (heeded : Heeded avahi)
    (fits : CallFits avahi place) : Heeded (moveCall avahi call place) where
  placed := ⟨heeded.placed.fits, heeded.placed.pointed, heeded.placed.told, heeded.placed.gone⟩
  calls other := by
    rw [callFits_moveCall]
    by_cases same : other = call
    · simpa [moveCall, same] using fits
    · simpa [moveCall, same] using heeded.calls other

theorem setFlag_heeded (heeded : Heeded avahi) : Heeded { avahi with shutdown := true } where
  placed := ⟨heeded.placed.fits, heeded.placed.pointed, heeded.placed.told, heeded.placed.gone⟩
  calls call := by
    have fits := heeded.calls call
    revert fits
    cases avahi.calls call with
    | notMade => exact fun _ => trivial
    | flagSet => exact fun _ => rfl
    | calling service | returned => exact fun fits => ⟨rfl, fits.2⟩

theorem tell_heeded (service : ServicePtr) (heeded : Heeded avahi)
    (old : service < avahi.created) :
    Heeded { avahi with toldToQuit := service :: avahi.toldToQuit } where
  placed := by
    refine ⟨heeded.placed.fits, heeded.placed.pointed, ?_, heeded.placed.gone⟩
    intro other told
    rcases List.mem_cons.mp told with rfl | before
    · exact old
    · exact heeded.placed.told other before
  calls call := by
    have fits := heeded.calls call
    revert fits
    cases avahi.calls call with
    | notMade | flagSet | calling service => exact id
    | returned =>
        rintro ⟨flag, settled, told⟩
        exact ⟨flag, settled, fun running runs => List.mem_cons_of_mem _ (told running runs)⟩

theorem readPointer_heeded (call : Nat) (heeded : Heeded avahi)
    (flagSet : avahi.calls call = .flagSet) (settled : ¬ avahi.worker.Replacing) :
    Runs.Ends Heeded NoDangling (step avahi (.readPointer call)) := by
  have flag := heeded.calls call
  rw [flagSet] at flag
  simp only [step, flagSet]
  split
  next pointer =>
    apply moveCall_heeded call .returned heeded
    refine ⟨flag, settled, fun running runs => ?_⟩
    have pointed := pointer_of_service heeded.placed running runs
    rw [pointer] at pointed
    cases pointed
  next service pointer =>
    apply moveCall_heeded call (.calling service) heeded
    refine ⟨flag, settled, ?_, heeded.placed.pointed service pointer, ?_⟩
    · exact pointer_alive heeded.placed settled service pointer
    · intro running runs
      have pointed := pointer_of_service heeded.placed running runs
      rw [pointer] at pointed
      cases pointed
      rfl

theorem quit_heeded (call : Nat) (service : ServicePtr) (heeded : Heeded avahi)
    (fits : CallFits avahi (.calling service)) :
    Heeded { moveCall avahi call .returned with
      toldToQuit := service :: avahi.toldToQuit } := by
  obtain ⟨flag, settled, _, old, only⟩ := fits
  apply moveCall_heeded call .returned (tell_heeded service heeded old)
  refine ⟨flag, settled, fun running runs => ?_⟩
  rw [only running runs]
  exact List.mem_cons_self

theorem step_heeded (label : Label) (heeded : Heeded avahi) (careful : Careful avahi label) :
    Runs.Ends Heeded NoDangling (step avahi label) := by
  have pointer := heeded.placed.fits
  cases label with
  | worker => exact workerStep_heeded heeded
  | clientFails | daemonFails =>
      simp only [step]
      split
      next service point =>
        apply failed_heeded heeded
        rw [PointerFits, point] at pointer
        rintro other pointed
        rw [pointer.1] at pointed
        cases pointed
        exact pointer.2
      next => exact Fault.noConfusion
  | setFlag call =>
      simp only [step]
      split
      next => exact moveCall_heeded call .flagSet (setFlag_heeded heeded) rfl
      next => exact Fault.noConfusion
  | readPointer call =>
      by_cases flagSet : avahi.calls call = .flagSet
      · exact readPointer_heeded call heeded flagSet (careful flagSet)
      · simp only [step]
        exact Fault.noConfusion
  | quit call =>
      have fits := heeded.calls call
      simp only [step]
      split
      next service place =>
        rw [place] at fits
        rw [if_neg fits.2.2.1]
        exact quit_heeded call service heeded fits
      next => exact Fault.noConfusion

theorem safe_of_heeded (heeded : Heeded avahi) : Safe avahi := by
  have keeps (state : CAutoRestartableAvahiService) (label : Label) (kept : Heeded state)
      (silence : ¬ Reads label) : Runs.Ends Heeded NoDangling (step state label) := by
    apply step_heeded label kept
    cases label with
    | readPointer call => exact absurd trivial silence
    | worker | clientFails | daemonFails | setFlag call | quit call => trivial
  intro rest silent
  exact Runs.run_ends_of_labels Heeded NotStuck NoDangling (fun _ => notStuck_of_heeded) keeps
    avahi rest heeded silent

end CallSteps

section Missed
variable {avahi : CAutoRestartableAvahiService}

theorem safe_step {next : CAutoRestartableAvahiService} (label : Label) (silent : ¬ Reads label)
    (taken : step avahi label = .ok next) (safe : Safe avahi) : Safe next :=
  Runs.continuations_behind label silent taken safe

theorem placed_of_workerStep {next : CAutoRestartableAvahiService} (placed : Placed avahi)
    (moved : workerStep avahi = .ok next) : Placed next := by
  have kept := workerStep_placed placed
  rw [moved] at kept
  exact kept

/-- A call returned before the worker stores its next service: that service is
not told to quit. -/
theorem creating_not_safe (call : Nat) (placed : Placed avahi)
    (returned : avahi.calls call = .returned) (creating : avahi.worker = .creating) :
    ¬ Safe avahi := by
  intro safe
  have ends := safe [.worker, .worker] (by simp [Reads])
  simp only [Runs.run, step, workerStep, creating] at ends
  exact Nat.lt_irrefl _ (placed.told _ (ends call returned avahi.created rfl))

-- Each earlier point of the replacement leads to the next one by a step of the worker.
theorem clearing_not_safe (call : Nat) (service : ServicePtr) (placed : Placed avahi)
    (returned : avahi.calls call = .returned) (clearing : avahi.worker = .clearing service) :
    ¬ Safe avahi := by
  intro safe
  have cleared : workerStep avahi = .ok { avahi with
      worker := .creating, avahiService := none } := by
    simp [workerStep, clearing]
  apply creating_not_safe call (placed_of_workerStep placed cleared) returned rfl
  exact safe_step .worker id cleared safe

theorem deleting_not_safe (call : Nat) (service : ServicePtr) (placed : Placed avahi)
    (returned : avahi.calls call = .returned) (deleting : avahi.worker = .deleting service) :
    ¬ Safe avahi := by
  intro safe
  have gone : workerStep avahi = .ok { avahi with
      worker := .clearing service, deleted := service :: avahi.deleted } := by
    simp [workerStep, deleting]
  apply clearing_not_safe call service (placed_of_workerStep placed gone) returned rfl
  exact safe_step .worker id gone safe

theorem resetting_not_safe (call : Nat) (placed : Placed avahi)
    (returned : avahi.calls call = .returned) (resetting : avahi.worker = .resetting) :
    ¬ Safe avahi := by
  intro safe
  cases pointer : avahi.avahiService with
  | none =>
      have moved : workerStep avahi = .ok { avahi with worker := .creating } := by
        simp [workerStep, resetting, pointer]
      apply creating_not_safe call (placed_of_workerStep placed moved) returned rfl
      exact safe_step .worker id moved safe
  | some service =>
      have moved : workerStep avahi = .ok { avahi with
          worker := .deleting service
          toldToQuit := service :: avahi.toldToQuit } := by
        simp [workerStep, resetting, pointer]
      apply deleting_not_safe call service (placed_of_workerStep placed moved) returned rfl
      exact safe_step .worker id moved safe

theorem returned_not_safe (call : Nat) (placed : Placed avahi)
    (returned : avahi.calls call = .returned) (replacing : avahi.worker.Replacing) :
    ¬ Safe avahi := by
  cases point : avahi.worker with
  | resetting => exact resetting_not_safe call placed returned point
  | deleting service => exact deleting_not_safe call service placed returned point
  | clearing service => exact clearing_not_safe call service placed returned point
  | creating => exact creating_not_safe call placed returned point
  | testing | starting _ | looping _ | returned => simp [point, Worker.Replacing] at replacing

theorem calling_not_safe (call : Nat) (service : ServicePtr) (placed : Placed avahi)
    (calling : avahi.calls call = .calling service) (old : service < avahi.created)
    (replacing : avahi.worker.Replacing) : ¬ Safe avahi := by
  intro safe
  by_cases gone : service ∈ avahi.deleted
  · have ends := safe [.quit call] (by simp [Reads])
    simp only [Runs.run, step, calling, gone, ↓reduceIte] at ends
    exact ends rfl
  · have told : step avahi (.quit call) = .ok { moveCall avahi call .returned with
        toldToQuit := service :: avahi.toldToQuit } := by
      simp [step, calling, gone]
    have kept : Placed { moveCall avahi call .returned with
        toldToQuit := service :: avahi.toldToQuit } := by
      refine ⟨placed.fits, placed.pointed, ?_, placed.gone⟩
      intro other quit
      rcases List.mem_cons.mp quit with rfl | before
      · exact old
      · exact placed.told other before
    apply returned_not_safe call kept _ replacing (safe_step (.quit call) id told safe)
    simp [moveCall]

theorem careful_of_safe (label : Label) (heeded : Heeded avahi)
    (safe : Runs.Ends Safe NoDangling (step avahi label)) : Careful avahi label := by
  have placed := heeded.placed
  cases label with
  | worker | clientFails | daemonFails | setFlag call | quit call => trivial
  | readPointer call =>
      intro flagSet replacing
      have moved (place : Call) : Placed (moveCall avahi call place) :=
        ⟨placed.fits, placed.pointed, placed.told, placed.gone⟩
      simp only [step, flagSet] at safe
      split at safe
      next pointer =>
        apply returned_not_safe call (moved .returned) _ replacing safe
        simp [moveCall]
      next service pointer =>
        apply calling_not_safe call service (moved (.calling service)) _ _ replacing safe
        · simp [moveCall]
        · exact placed.pointed service pointer

/-- No shutdown is lost and none calls into a deleted service, however the threads
go on, in exactly the runs in which the pointer is not read during a replacement. -/
theorem no_lost_shutdown_iff (labels : List Label) :
    (∀ front, front <+: labels →
      Runs.Ends Safe NoDangling (Runs.run step initial front)) ↔
      Runs.Along step Careful initial labels := by
  apply Runs.prefixes_end_iff Heeded Safe NoDangling (fun _ heeded => safe_of_heeded heeded)
  · exact fun _ label heeded careful => step_heeded label heeded careful
  · exact fun _ label heeded safe => careful_of_safe label heeded safe
  · exact initial_heeded

/-- The first service is created behind a shutdown that found no pointer, and its
loop never ends; after a restart the old service is deleted under the shutdown
that has read it. -/
theorem shutdown_during_replacement_is_lost :
    let missed : List Label := [.worker, .setFlag 0, .readPointer 0, .worker, .worker, .worker]
    let restarted : List Label := [.worker, .worker, .worker, .worker, .daemonFails, .worker,
      .setFlag 0, .readPointer 0, .worker, .worker, .quit 0]
    ¬ Runs.Ends NotStuck NoDangling (Runs.run step initial missed) ∧
    ¬ Runs.Ends NotStuck NoDangling (Runs.run step initial restarted) := by
  constructor
  · intro ends
    cases ends 0 rfl 0 rfl
  · intro ends
    exact ends rfl

end Missed
end SaneInTheMembrane.AvahiShutdown

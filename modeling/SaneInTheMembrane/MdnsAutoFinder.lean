import SaneInTheMembrane.Runs

/-!
Utils/mDNS/mDnsAutoFind.cpp: `CMDnsAutoFinder`. One worker thread discovers and
then waits on a condition variable; `discover` and the destructor notify it. The
wait has no predicate and a notification wakes only a thread that waits, so one
that comes while the worker is between the start of a discovery and its wait is
lost.
-/

namespace SaneInTheMembrane.MdnsAutoFinder

section Model

/-- Where the worker is. It holds `m_mutex` at `entering` and at `testing`. -/
inductive Worker where
  | created
  | discovering
  | locking
  | entering
  | waiting
  | waking
  | testing
  | exited
  deriving DecidableEq, Repr

/-- Where the destructor is. It holds `m_mutex` at `locked` and at `stopSet`. -/
inductive Destructor where
  | notCalled
  | locked
  | stopSet
  | unlocked
  | notified
  | joined
  deriving DecidableEq, Repr

/-- `unserved` counts the calls of `discover` since a discovery last started. -/
structure CMDnsAutoFinder where
  worker : Worker := .created
  destructor : Destructor := .notCalled
  stop : Bool := false
  unserved : Nat := 0
  deriving DecidableEq, Repr

def initial : CMDnsAutoFinder := {}

inductive Label where
  | worker
  | spuriousWakeup
  | discover
  | lock
  | setStop
  | unlock
  | notifyAll
  | join
  deriving DecidableEq, Repr

inductive Fault where
  | blocked
  deriving DecidableEq, Repr

def Worker.holdsMutex : Worker → Bool
  | .entering | .testing => true
  | .created | .discovering | .locking | .waiting | .waking | .exited => false

def Destructor.holdsMutex : Destructor → Bool
  | .locked | .stopSet => true
  | .notCalled | .unlocked | .notified | .joined => false

/-- `notify_one` and `notify_all`: the worker is the only thread that waits. -/
def Worker.notify : Worker → Worker
  | .waiting => .waking
  | other => other

def startDiscovery (finder : CMDnsAutoFinder) : CMDnsAutoFinder :=
  { finder with worker := .discovering, unserved := 0 }

def workerStep (finder : CMDnsAutoFinder) : Except Fault CMDnsAutoFinder :=
  match finder.worker with
  | .created => .ok (startDiscovery finder)
  -- `discover_inner` returns, whatever it has found.
  | .discovering => .ok { finder with worker := .locking }
  | .locking =>
      if finder.destructor.holdsMutex then .error .blocked
      else .ok { finder with worker := .entering }
  | .entering => .ok { finder with worker := .waiting }
  | .waiting => .error .blocked
  | .waking =>
      if finder.destructor.holdsMutex then .error .blocked
      else .ok { finder with worker := .testing }
  | .testing =>
      if finder.stop then .ok { finder with worker := .exited }
      else .ok (startDiscovery finder)
  | .exited => .error .blocked

def step (finder : CMDnsAutoFinder) : Label → Except Fault CMDnsAutoFinder
  | .worker => workerStep finder
  | .spuriousWakeup =>
      if finder.worker = .waiting then .ok { finder with worker := .waking }
      else .error .blocked
  | .discover =>
      .ok { finder with worker := finder.worker.notify, unserved := finder.unserved + 1 }
  | .lock =>
      if finder.destructor = .notCalled ∧ ¬ finder.worker.holdsMutex then
        .ok { finder with destructor := .locked }
      else .error .blocked
  | .setStop =>
      if finder.destructor = .locked then
        .ok { finder with destructor := .stopSet, stop := true }
      else .error .blocked
  | .unlock =>
      if finder.destructor = .stopSet then .ok { finder with destructor := .unlocked }
      else .error .blocked
  | .notifyAll =>
      if finder.destructor = .unlocked then
        .ok { finder with destructor := .notified, worker := finder.worker.notify }
      else .error .blocked
  | .join =>
      if finder.destructor = .notified ∧ finder.worker = .exited then
        .ok { finder with destructor := .joined }
      else .error .blocked

def Destructor.hasNotified : Destructor → Bool
  | .notified | .joined => true
  | .notCalled | .locked | .stopSet | .unlocked => false

/-- The worker does not wait behind the destructor's notification, nor with a
request that no discovery has served. -/
def NotStuck (finder : CMDnsAutoFinder) : Prop :=
  finder.worker = .waiting →
    ¬ (finder.stop = true ∧ finder.destructor.hasNotified = true) ∧ finder.unserved = 0

def Notifies : Label → Prop
  | .discover | .notifyAll => True
  | .worker | .spuriousWakeup | .lock | .setStop | .unlock | .join => False

/-- However the threads go on without a further notification, the worker is not
stuck. -/
def Safe (finder : CMDnsAutoFinder) : Prop :=
  ∀ rest, (∀ label ∈ rest, ¬ Notifies label) →
    Runs.Ends NotStuck (fun _ => True) (Runs.run step finder rest)

/-- The worker will wait before it looks at `m_stop` or discovers again. -/
def Worker.Deaf : Worker → Prop
  | .discovering | .locking | .entering => True
  | .created | .waiting | .waking | .testing | .exited => False

instance : (worker : Worker) → Decidable worker.Deaf
  | .discovering | .locking | .entering => isTrue trivial
  | .created | .waiting | .waking | .testing | .exited => isFalse id

/-- `discover` is called, and the destructor notifies, while the worker waits or
when it will still come to start a discovery, or to test `m_stop`, by itself. -/
def Heard (finder : CMDnsAutoFinder) : Label → Prop
  | .discover => ¬ finder.worker.Deaf
  | .notifyAll => finder.destructor = .unlocked →
      ¬ finder.worker.Deaf ∧ finder.worker ≠ .created
  | .worker | .spuriousWakeup | .lock | .setStop | .unlock | .join => True

end Model

section Steps
variable {finder : CMDnsAutoFinder}

/-- No notification has been lost. -/
structure Attended (finder : CMDnsAutoFinder) : Prop where
  served : finder.worker.Deaf ∨ finder.worker = .waiting → finder.unserved = 0
  quiet : finder.worker.Deaf ∨ finder.worker = .waiting ∨ finder.worker = .created →
    finder.destructor.hasNotified = false
  stops : finder.stop = true ∨ finder.destructor = .notCalled ∨ finder.destructor = .locked

theorem initial_attended : Attended initial where
  served _ := rfl
  quiet _ := rfl
  stops := Or.inr (Or.inl rfl)

theorem notStuck_of_attended (attended : Attended finder) : NotStuck finder := by
  intro waiting
  refine ⟨?_, attended.served (Or.inr waiting)⟩
  rintro ⟨_, notified⟩
  simp [attended.quiet (Or.inr (Or.inl waiting))] at notified

theorem stop_of_notified (attended : Attended finder)
    (notified : finder.destructor.hasNotified = true) : finder.stop = true := by
  rcases attended.stops with stop | none | locked
  · exact stop
  · simp [none, Destructor.hasNotified] at notified
  · simp [locked, Destructor.hasNotified] at notified

theorem startDiscovery_attended (attended : Attended finder)
    (quiet : finder.destructor.hasNotified = false) : Attended (startDiscovery finder) where
  served _ := rfl
  quiet _ := quiet
  stops := attended.stops

theorem move_attended (worker : Worker) (attended : Attended finder)
    (deaf : worker.Deaf ∨ worker = .waiting → finder.worker.Deaf)
    (running : worker ≠ .created) : Attended { finder with worker := worker } := by
  constructor
  · intro point
    exact attended.served (Or.inl (deaf point))
  · rintro (point | point | point)
    · exact attended.quiet (Or.inl (deaf (Or.inl point)))
    · exact attended.quiet (Or.inl (deaf (Or.inr point)))
    · exact absurd point running
  · exact attended.stops

theorem workerStep_attended (attended : Attended finder) :
    Runs.Ends Attended (fun _ => True) (workerStep finder) := by
  unfold workerStep
  cases point : finder.worker with
  | created =>
      apply startDiscovery_attended attended
      exact attended.quiet (Or.inr (Or.inr point))
  | discovering =>
      apply move_attended .locking attended
      · intro _
        simp [point, Worker.Deaf]
      · exact Worker.noConfusion
  | locking =>
      dsimp only
      split
      · trivial
      · apply move_attended .entering attended
        · intro _
          simp [point, Worker.Deaf]
        · exact Worker.noConfusion
  | entering =>
      apply move_attended .waiting attended
      · intro _
        simp [point, Worker.Deaf]
      · exact Worker.noConfusion
  | waiting | exited => trivial
  | waking =>
      dsimp only
      split
      · trivial
      · apply move_attended .testing attended
        · simp [Worker.Deaf]
        · exact Worker.noConfusion
  | testing =>
      -- A worker that finds `m_stop` clear comes before the destructor's notification.
      dsimp only
      split
      next => apply move_attended .exited attended <;> simp [Worker.Deaf]
      next running =>
        apply startDiscovery_attended attended
        cases notified : finder.destructor.hasNotified with
        | false => rfl
        | true => exact absurd (stop_of_notified attended notified) running

theorem destructor_attended (destructor : Destructor) (stop : Bool) (attended : Attended finder)
    (quiet : destructor.hasNotified = finder.destructor.hasNotified)
    (stops : stop = true ∨ destructor = .notCalled ∨ destructor = .locked) :
    Attended { finder with destructor := destructor, stop := stop } where
  served := attended.served
  quiet point := quiet.trans (attended.quiet point)
  stops := stops

theorem notify_deaf (worker : Worker) (hears : ¬ worker.Deaf) :
    ¬ (worker.notify.Deaf ∨ worker.notify = .waiting) := by
  cases worker <;> simp_all [Worker.notify, Worker.Deaf]

theorem notify_created (worker : Worker) :
    worker.notify = .created ↔ worker = .created := by
  cases worker <;> simp [Worker.notify]

theorem notify_of_deaf {worker : Worker} (deaf : worker.Deaf) : worker.notify = worker := by
  cases worker <;> simp_all [Worker.notify, Worker.Deaf]

theorem discover_attended (attended : Attended finder) (hears : ¬ finder.worker.Deaf) :
    Attended { finder with
      worker := finder.worker.notify
      unserved := finder.unserved + 1 } := by
  have elsewhere := notify_deaf finder.worker hears
  constructor
  · intro point
    exact absurd point elsewhere
  · rintro (deaf | waiting | created)
    · exact absurd (Or.inl deaf) elsewhere
    · exact absurd (Or.inr waiting) elsewhere
    · exact attended.quiet (Or.inr (Or.inr ((notify_created _).mp created)))
  · exact attended.stops

theorem notifyAll_attended (attended : Attended finder) (unlocked : finder.destructor = .unlocked)
    (hears : ¬ finder.worker.Deaf) (running : finder.worker ≠ .created) :
    Attended { finder with destructor := .notified, worker := finder.worker.notify } := by
  have elsewhere := notify_deaf finder.worker hears
  constructor
  · intro point
    exact absurd point elsewhere
  · rintro (deaf | waiting | created)
    · exact absurd (Or.inl deaf) elsewhere
    · exact absurd (Or.inr waiting) elsewhere
    · exact absurd ((notify_created _).mp created) running
  · left
    simpa [unlocked] using attended.stops

theorem step_attended (label : Label) (attended : Attended finder) (heard : Heard finder label) :
    Runs.Ends Attended (fun _ => True) (step finder label) := by
  cases label with
  | worker => exact workerStep_attended attended
  | spuriousWakeup =>
      simp only [step]
      split
      next => apply move_attended .waking attended <;> simp [Worker.Deaf]
      next => trivial
  | discover => exact discover_attended attended heard
  | lock =>
      simp only [step]
      split
      next start =>
        apply destructor_attended .locked finder.stop attended
        · simp [start.1, Destructor.hasNotified]
        · exact Or.inr (Or.inr rfl)
      next => trivial
  | setStop =>
      simp only [step]
      split
      next locked =>
        apply destructor_attended .stopSet true attended
        · simp [locked, Destructor.hasNotified]
        · exact Or.inl rfl
      next => trivial
  | unlock =>
      simp only [step]
      split
      next stopSet =>
        apply destructor_attended .unlocked finder.stop attended
        · simp [stopSet, Destructor.hasNotified]
        · left
          simpa [stopSet] using attended.stops
      next => trivial
  | notifyAll =>
      simp only [step]
      split
      next unlocked =>
        obtain ⟨hears, running⟩ := heard unlocked
        exact notifyAll_attended attended unlocked hears running
      next => trivial
  | join =>
      simp only [step]
      split
      next notified =>
        apply destructor_attended .joined finder.stop attended
        · simp [notified.1, Destructor.hasNotified]
        · left
          simpa [notified.1] using attended.stops
      next => trivial

theorem safe_of_attended (attended : Attended finder) : Safe finder := by
  have keeps (state : CMDnsAutoFinder) (label : Label) (kept : Attended state)
      (silence : ¬ Notifies label) : Runs.Ends Attended (fun _ => True) (step state label) := by
    apply step_attended label kept
    cases label with
    | discover | notifyAll => exact absurd trivial silence
    | worker | spuriousWakeup | lock | setStop | unlock | join => trivial
  intro rest silent
  exact Runs.run_ends_of_labels Attended NotStuck (fun _ => True)
    (fun _ => notStuck_of_attended) keeps finder rest attended silent

end Steps

section Lost
variable {finder : CMDnsAutoFinder}

theorem mutex_released (finder : CMDnsAutoFinder) :
    ∃ rest next, (∀ label ∈ rest, ¬ Notifies label) ∧ Runs.run step finder rest = .ok next ∧
      next.worker = finder.worker ∧ next.unserved = finder.unserved ∧
      next.destructor.holdsMutex = false ∧
      (finder.stop = true → next.stop = true) ∧
      next.destructor.hasNotified = finder.destructor.hasNotified := by
  cases point : finder.destructor with
  | locked =>
      refine ⟨[.setStop, .unlock], { finder with destructor := .unlocked, stop := true },
        by simp [Notifies], by simp [Runs.run, step, point], rfl, rfl, rfl, fun _ => rfl, rfl⟩
  | stopSet =>
      refine ⟨[.unlock], { finder with destructor := .unlocked },
        by simp [Notifies], by simp [Runs.run, step, point], rfl, rfl, rfl, id, rfl⟩
  | notCalled | unlocked | notified | joined =>
      exact ⟨[], finder, by simp, rfl, rfl, rfl, by rw [point]; rfl, id, by rw [point]⟩

theorem deaf_waits (deaf : finder.worker.Deaf) (released : finder.destructor.holdsMutex = false) :
    ∃ rest, (∀ label ∈ rest, ¬ Notifies label) ∧
      Runs.run step finder rest = .ok { finder with worker := .waiting } := by
  cases point : finder.worker with
  | discovering =>
      exact ⟨[.worker, .worker, .worker], by simp [Notifies],
        by simp [Runs.run, step, workerStep, point, released]⟩
  | locking =>
      exact ⟨[.worker, .worker], by simp [Notifies],
        by simp [Runs.run, step, workerStep, point, released]⟩
  | entering =>
      exact ⟨[.worker], by simp [Notifies], by simp [Runs.run, step, workerStep, point]⟩
  | created | waiting | waking | testing | exited => simp [point, Worker.Deaf] at deaf

/-- A notification the worker has not heard leaves it waiting. -/
theorem lost_not_safe (deaf : finder.worker.Deaf)
    (lost : finder.unserved ≠ 0 ∨
      finder.stop = true ∧ finder.destructor.hasNotified = true) : ¬ Safe finder := by
  obtain ⟨unlocking, free, silent, unlocked, sameWorker, sameUnserved, released, stop, notified⟩ :=
    mutex_released finder
  obtain ⟨waiting, silentToo, waits⟩ := deaf_waits (sameWorker ▸ deaf) released
  intro safe
  have ends := safe (unlocking ++ waiting) (by
    intro label member
    rcases List.mem_append.mp member with front | back
    · exact silent label front
    · exact silentToo label back)
  rw [Runs.run_append_ok waiting unlocked, waits] at ends
  obtain ⟨heard, served⟩ := ends rfl
  rcases lost with request | ⟨stopped, told⟩
  · exact request (sameUnserved ▸ served)
  · exact heard ⟨stop stopped, notified.trans told⟩

theorem heard_of_safe (label : Label) (attended : Attended finder)
    (safe : Runs.Ends Safe (fun _ => True) (step finder label)) : Heard finder label := by
  cases label with
  | worker | spuriousWakeup | lock | setStop | unlock | join => trivial
  | discover =>
      intro deaf
      apply lost_not_safe _ _ safe
      · rw [notify_of_deaf deaf]
        exact deaf
      · exact Or.inl (Nat.succ_ne_zero _)
  | notifyAll =>
      intro unlocked
      have stop : finder.stop = true := by simpa [unlocked] using attended.stops
      simp only [step, unlocked, ↓reduceIte] at safe
      constructor
      · intro deaf
        apply lost_not_safe _ _ safe
        · rw [notify_of_deaf deaf]
          exact deaf
        · exact Or.inr ⟨stop, rfl⟩
      · intro created
        -- The first discovery starts behind the notification, and then the worker waits.
        have started : step { finder with
            destructor := .notified, worker := finder.worker.notify } .worker =
              .ok (startDiscovery { finder with destructor := .notified }) := by
          simp [step, workerStep, created, Worker.notify, startDiscovery]
        have after : Safe (startDiscovery { finder with destructor := .notified }) :=
          Runs.continuations_behind .worker id started safe
        apply lost_not_safe _ _ after
        · trivial
        · exact Or.inr ⟨stop, rfl⟩

/-- No wake-up is lost, however the threads go on, in exactly the runs whose
notifications come when the worker hears them. -/
theorem no_lost_wakeup_iff (labels : List Label) :
    (∀ front, front <+: labels →
      Runs.Ends Safe (fun _ => True) (Runs.run step initial front)) ↔
      Runs.Along step Heard initial labels := by
  apply Runs.prefixes_end_iff Attended Safe (fun _ => True)
    (fun _ attended => safe_of_attended attended)
  · exact fun _ label attended heard => step_attended label attended heard
  · exact fun _ label attended safe => heard_of_safe label attended safe
  · exact initial_attended

/-- The destructor notifies, or `discover` is called, during the first discovery:
the worker then waits for good. -/
theorem notified_while_discovering_waits :
    let destroyed : List Label :=
      [.worker, .lock, .setStop, .unlock, .notifyAll, .worker, .worker, .worker]
    let requested : List Label := [.worker, .discover, .worker, .worker, .worker]
    ¬ Runs.Ends NotStuck (fun _ => True) (Runs.run step initial destroyed) ∧
    ¬ Runs.Ends NotStuck (fun _ => True) (Runs.run step initial requested) := by
  constructor
  · intro ends
    exact (ends rfl).1 ⟨rfl, rfl⟩
  · intro ends
    cases (ends rfl).2

end Lost
end SaneInTheMembrane.MdnsAutoFinder

import SaneInTheMembrane.Runs
import SaneInTheMembrane.ScanReactor

/-!
The handlers of a scan reactor, one atomic step at a time. gRPC may deliver
OnWriteDone as soon as StartWrite was called and OnCancel at any moment, on
other threads. The reactor keeps the rules of its base class as long as no
OnWriteDone looks at `m_finished` between the last StartWrite and its Finish.
-/

namespace SaneInTheMembrane.ScanDiscipline
open SaneDevice ScanReactor CScanResponseReactor

section Machine

inductive Point where
  | clearing
  | opening
  | starting
  | refreshing
  | announcing
  | written (ok : Bool)
  | resetting
  | reading
  | filling (last : Bool)
  | writing (last : Bool)
  | finishing (status : GrpcStatus)
  | cancelling
  deriving DecidableEq

inductive Answer where
  | nothing
  | status (status : SaneStatus)
  | parameters (parameters : SaneParameters)
  | read (read : SaneRead)

def notStarted (message : String) (status : SaneStatus) : GrpcStatus :=
  ⟨.cancelled, message, some status⟩

def notWritten : GrpcStatus := ⟨.unknown, "Write failed", none⟩

def notRead (status : SaneStatus) : GrpcStatus :=
  ⟨.aborted, "Failed to read from device: ", some status⟩

def afterRead (reactor : CScanResponseReactor) (status : SaneStatus) : Point :=
  if packetSize ≤ reactor.byteData.length then .filling false
  else if status = .good then .reading
  else if status = .eof then .filling true
  else .finishing (notRead status)

/-- One atomic step of a handler: where it stands then, unless it has returned,
and what it made of the reactor. `Finish` holds the lock of `m_finished` to its
end, so it is one step. -/
def advance (device : CSaneDevice) (reactor : CScanResponseReactor) :
    Point → Answer → Option (Option Point × CScanResponseReactor)
  | .clearing, .nothing => some (some .opening, reactor.resetResponse device)
  | .opening, .status status =>
      some (some (if status = .good then .starting
        else .finishing (notStarted "Failed to open device: " status)), reactor)
  | .starting, .status status =>
      some (some (if status = .good then .refreshing
        else .finishing (notStarted "Failed to start device: " status)), reactor)
  | .refreshing, .status status =>
      some (some (if status = .good then .announcing
        else .finishing (notStarted "Failed to start device: " status)), reactor)
  | .announcing, .parameters parameters =>
      some (some (.writing false), reactor.writeSaneParameters parameters)
  -- `m_finished` is copied here; what follows acts on the copy.
  | .written ok, .nothing =>
      if reactor.finished then some (none, reactor)
      else if ok then some (some .resetting, reactor)
      else some (some (.finishing notWritten), reactor)
  | .resetting, .nothing => some (some .reading, reactor.resetResponse device)
  | .reading, .read read =>
      some (some (afterRead (reactor.collect read) read.status), reactor.collect read)
  | .filling last, .nothing => some (some (.writing last), reactor.fillResponse)
  -- OnWriteDone may be delivered before the handler reaches its Finish.
  | .writing last, .nothing =>
      some (if last then some (.finishing .ok) else none, reactor.startWrite)
  | .finishing status, .nothing => some (none, reactor.finish status)
  | .cancelling, .nothing => some (none, reactor)
  | _, _ => none

structure State where
  reactor : CScanResponseReactor
  handlers : List Point
  deriving DecidableEq

def initial : State := ⟨{}, [.clearing]⟩

inductive Label where
  | writeDone (ok : Bool)
  | cancel
  | move (index : Nat) (answer : Answer)

inductive Blocked where
  | noWrite | noHandler | noAnswer
  deriving DecidableEq

def replace (handlers : List Point) (index : Nat) : Option Point → List Point
  | none => handlers.eraseIdx index
  | some point => handlers.set index point

def step (device : CSaneDevice) (state : State) : Label → Except Blocked State
  | .writeDone ok =>
      if state.reactor.base.outstanding = 0 then .error .noWrite
      else .ok ⟨{ state.reactor with base := state.reactor.base.writeDone },
        state.handlers ++ [.written ok]⟩
  | .cancel => .ok { state with handlers := state.handlers ++ [.cancelling] }
  | .move index answer =>
      match state.handlers[index]? with
      | none => .error .noHandler
      | some point =>
          match advance device state.reactor point answer with
          | none => .error .noAnswer
          | some (next, reactor) => .ok ⟨reactor, replace state.handlers index next⟩

end Machine

section Rules

def Point.touches : Point → Bool
  | .clearing | .announcing | .resetting | .filling _ => true
  | _ => false

/-- The rules for a reactor of this kind. -/
structure Discipline (state : State) : Prop where
  oneWrite : state.reactor.base.outstanding ≤ 1
  noWriteAfterFinish : ∀ front status back,
    state.reactor.base.calls = front ++ .finish status :: back →
      ∀ response, .startWrite response ∉ back
  finishedOnce : ∀ front status back,
    state.reactor.base.calls = front ++ .finish status :: back → ∀ other, .finish other ∉ back
  untouched : ∀ point ∈ state.handlers, point.touches = true →
    state.reactor.base.outstanding = 0
  accounted : state.handlers = [] →
    state.reactor.base.outstanding = 1 ∨ ∃ status, .finish status ∈ state.reactor.base.calls

/-- OnWriteDone does not find the reactor unfinished while another handler is
between its last StartWrite and its Finish. -/
def TestsSettled (state : State) : Label → Prop
  | .move index _ => state.handlers[index]? = some (.written true) →
      state.reactor.finished = true ∨ .finishing .ok ∉ state.handlers
  | _ => True

instance : (state : State) → (label : Label) → Decidable (TestsSettled state label)
  | _, .writeDone _ => isTrue trivial
  | _, .cancel => isTrue trivial
  | _, .move _ _ => inferInstanceAs (Decidable (_ → _ ∨ _))

end Rules

section Undisturbed
variable {device : CSaneDevice}

def Reaches (device : CSaneDevice) (state last : State) : Prop :=
  ∃ labels, Runs.run (step device) state labels = .ok last

theorem reaches_refl (state : State) : Reaches device state state := ⟨[], rfl⟩

theorem reaches_step {state next last : State} (label : Label)
    (taken : step device state label = .ok next) (rest : Reaches device next last) :
    Reaches device state last := by
  obtain ⟨labels, reached⟩ := rest
  exact ⟨label :: labels, by rw [Runs.run_cons_ok labels taken, reached]⟩

theorem step_head (reactor changed : CScanResponseReactor) (point : Point) (others : List Point)
    (answer : Answer) (next : Option Point)
    (advanced : advance device reactor point answer = some (next, changed)) :
    step device ⟨reactor, point :: others⟩ (.move 0 answer) =
      .ok ⟨changed, next.toList ++ others⟩ := by
  cases next <;> simp [step, advanced, replace]

theorem finishing_reaches (reactor : CScanResponseReactor) (status : GrpcStatus) :
    Reaches device ⟨reactor, [.finishing status]⟩ ⟨reactor.finish status, []⟩ :=
  reaches_step (.move 0 .nothing) (step_head _ _ _ _ _ none rfl) (reaches_refl _)

theorem filling_reaches (reactor : CScanResponseReactor) (last : Bool) :
    Reaches device ⟨reactor, [.filling last]⟩
      ⟨if last then reactor.writeResponse.finish .ok else reactor.writeResponse, []⟩ := by
  refine reaches_step (.move 0 .nothing) (step_head _ _ _ _ _ (some (.writing last)) rfl) ?_
  cases last with
  | false => exact reaches_step (.move 0 .nothing) (step_head _ _ _ _ _ none rfl) (reaches_refl _)
  | true =>
      exact reaches_step (.move 0 .nothing) (step_head _ _ _ _ _ (some (.finishing .ok)) rfl)
        (finishing_reaches _ _)

theorem reading_reaches (reactor next : CScanResponseReactor) (answers rest : List SaneRead)
    (done : readLoop device reactor answers = some (next, rest)) :
    Reaches device ⟨reactor, [.reading]⟩ ⟨next, []⟩ := by
  induction answers generalizing reactor with
  | nil => simp [readLoop] at done
  | cons answer others ih =>
      refine reaches_step (.move 0 (.read (device.read answer)))
        (step_head _ _ _ _ _ (some (afterRead (reactor.collect (device.read answer))
          (device.read answer).status)) rfl) ?_
      rw [readLoop] at done
      unfold afterRead
      split at done
      next full =>
          cases done
          rw [if_pos full]
          exact filling_reaches _ false
      next below =>
      rw [if_neg below]
      split at done
      next good =>
          rw [if_pos good]
          exact ih _ done
      next notGood =>
      rw [if_neg notGood]
      split at done
      next atEnd =>
          cases done
          rw [if_pos atEnd]
          exact filling_reaches _ true
      next failed =>
          cases done
          rw [if_neg failed]
          exact finishing_reaches _ _

/-- A completion handler that nothing disturbs ends as `onWriteDone` says. -/
theorem onWriteDone_reaches (reactor next : CScanResponseReactor) (ok : Bool)
    (answers rest : List SaneRead) (waiting : reactor.base.outstanding ≠ 0)
    (done : reactor.onWriteDone device ok answers = some (next, rest)) :
    Reaches device ⟨reactor, []⟩ ⟨next, []⟩ := by
  refine reaches_step (.writeDone ok) (by simp only [step, if_neg waiting, List.nil_append]; rfl) ?_
  unfold onWriteDone at done
  cases finished : reactor.finished <;> cases ok <;> simp [finished] at done
  -- Unfinished, and the write failed or went out; finished, and nothing is left to do.
  · obtain ⟨rfl, -⟩ := done
    exact reaches_step (.move 0 .nothing)
      (step_head _ _ _ _ _ (some (.finishing notWritten)) rfl)
      (finishing_reaches _ _)
  · refine reaches_step (.move 0 .nothing)
      (step_head _ _ _ _ _ (some .resetting) rfl) ?_
    exact reaches_step (.move 0 .nothing) (step_head _ _ _ _ _ (some .reading) rfl)
      (reading_reaches _ _ answers rest done)
  all_goals
    obtain ⟨rfl, -⟩ := done
    exact reaches_step (.move 0 .nothing)
      (step_head _ _ _ _ _ none rfl) (reaches_refl _)

theorem asked_reaches (reactor : CScanResponseReactor) (point next : Point) (message : String)
    (status : SaneStatus) (last : State)
    (asks : advance device reactor point (.status status) =
      some (some (if status = .good then next
        else .finishing (notStarted message status)), reactor))
    (good : status = .good → Reaches device ⟨reactor, [next]⟩ last)
    (failed : status ≠ .good →
      ⟨reactor.finish (notStarted message status), []⟩ = last) :
    Reaches device ⟨reactor, [point]⟩ last := by
  refine reaches_step (.move 0 (.status status)) (step_head _ _ _ _ _ _ asks) ?_
  by_cases fine : status = .good
  · simpa [fine] using good fine
  · simpa [fine, ← failed fine] using finishing_reaches reactor _

theorem make_reaches (answers : StartAnswers) :
    Reaches device initial ⟨(make device answers).1, []⟩ := by
  refine reaches_step (.move 0 .nothing) (step_head _ _ _ _ _ (some .opening) rfl) ?_
  simp only [make, startScan]
  generalize device.open answers.opening = opened
  generalize opened.2.start answers.starting = started
  generalize started.2.refreshParameters answers.parameters = refreshed
  refine asked_reaches _ .opening .starting _ opened.1 _ rfl (fun good => ?_)
    fun failed => by rw [if_pos failed]; rfl
  rw [if_neg (not_not.mpr good)]
  refine asked_reaches _ .starting .refreshing _ started.1 _ rfl (fun good => ?_)
    fun failed => by rw [if_pos failed]; rfl
  rw [if_neg (not_not.mpr good)]
  refine asked_reaches _ .refreshing .announcing _ refreshed.1 _ rfl (fun good => ?_)
    fun failed => by rw [if_pos failed]; rfl
  rw [if_neg (not_not.mpr good)]
  refine reaches_step (.move 0 (.parameters refreshed.2.parameters))
    (step_head _ _ _ _ _ (some (.writing false)) rfl) ?_
  exact reaches_step (.move 0 .nothing) (step_head _ _ _ _ _ none rfl) (reaches_refl _)

end Undisturbed

section Effects

def Point.active : Point → Bool
  | .written _ | .finishing _ | .cancelling => false
  | _ => true

inductive Effect (reactor : CScanResponseReactor) :
    Point → Option Point → CScanResponseReactor → Prop where
  | works {point next : Point} {changed : CScanResponseReactor} (working : point.active = true)
      (still : next.active = true) (base : changed.base = reactor.base)
      (finished : changed.finished = reactor.finished) : Effect reactor point (some next) changed
  | givesUp {point : Point} {changed : CScanResponseReactor} (status : GrpcStatus)
      (working : point.active = true) (failed : status ≠ .ok) (base : changed.base = reactor.base)
      (finished : changed.finished = reactor.finished) :
      Effect reactor point (some (.finishing status)) changed
  | writes (last : Bool) :
      Effect reactor (.writing last) (if last then some (.finishing .ok) else none)
        reactor.startWrite
  | resumes (unfinished : reactor.finished = false) :
      Effect reactor (.written true) (some .resetting) reactor
  | reports (unfinished : reactor.finished = false) :
      Effect reactor (.written false) (some (.finishing notWritten)) reactor
  | leaves (ok : Bool) (finished : reactor.finished = true) :
      Effect reactor (.written ok) none reactor
  | finishes (status : GrpcStatus) :
      Effect reactor (.finishing status) none (reactor.finish status)
  | cancels : Effect reactor .cancelling none reactor

theorem collect_base (reactor : CScanResponseReactor) (read : SaneRead) :
    (reactor.collect read).base = reactor.base ∧
      (reactor.collect read).finished = reactor.finished := by
  unfold collect
  split <;> exact ⟨rfl, rfl⟩

theorem asked_effect (reactor : CScanResponseReactor) {point next : Point} (message : String)
    (status : SaneStatus) (working : point.active = true) (still : next.active = true) :
    Effect reactor point
      (some (if status = .good then next else .finishing (notStarted message status))) reactor := by
  by_cases good : status = .good
  · rw [if_pos good]
    exact .works working still rfl rfl
  · rw [if_neg good]
    exact .givesUp _ working (by simp [notStarted, GrpcStatus.ok]) rfl rfl

theorem read_effect (reactor : CScanResponseReactor) (read : SaneRead) :
    Effect reactor .reading (some (afterRead (reactor.collect read) read.status))
      (reactor.collect read) := by
  obtain ⟨base, finished⟩ := collect_base reactor read
  unfold afterRead
  split
  · exact .works rfl rfl base finished
  split
  · exact .works rfl rfl base finished
  split
  · exact .works rfl rfl base finished
  · exact .givesUp _ rfl (by simp [notRead, GrpcStatus.ok]) base finished

theorem advance_effect {device : CSaneDevice} {reactor changed : CScanResponseReactor}
    {point : Point} {answer : Answer} {next : Option Point}
    (advanced : advance device reactor point answer = some (next, changed)) :
    Effect reactor point next changed := by
  cases point <;> cases answer <;> simp only [advance, reduceCtorEq] at advanced
  case clearing.nothing | resetting.nothing =>
      cases advanced
      exact .works rfl rfl rfl rfl
  case opening.status status | starting.status status | refreshing.status status =>
      cases advanced
      exact asked_effect reactor _ status rfl rfl
  case announcing.parameters parameters | filling.nothing last =>
      cases advanced
      exact .works rfl rfl rfl rfl
  case written.nothing ok =>
      cases finished : reactor.finished <;> cases ok <;> simp [finished] at advanced <;>
        obtain ⟨rfl, rfl⟩ := advanced
      · exact .reports finished
      · exact .resumes finished
      · exact .leaves _ finished
      · exact .leaves _ finished
  case reading.read read =>
      cases advanced
      exact read_effect reactor read
  case writing.nothing last =>
      cases advanced
      exact .writes last
  case finishing.nothing status =>
      cases advanced
      exact .finishes status
  case cancelling.nothing =>
      cases advanced
      exact .cancels

end Effects

section Invariant

def Point.weight : Point → Nat
  | .finishing _ | .cancelling => 0
  | _ => 1

def load : List Point → Nat
  | [] => 0
  | point :: rest => point.weight + load rest

@[simp] theorem load_nil : load [] = 0 := rfl

@[simp] theorem load_cons (point : Point) (rest : List Point) :
    load (point :: rest) = point.weight + load rest := rfl

@[simp] theorem load_append (front back : List Point) :
    load (front ++ back) = load front + load back := by
  induction front with
  | nil => simp
  | cons point rest ih => simp [ih, Nat.add_assoc]

theorem load_perm {handlers other : List Point} (same : handlers.Perm other) :
    load handlers = load other := by
  induction same with
  | nil => rfl
  | cons point _ ih => simp [ih]
  | swap first second rest =>
      simp only [load_cons]
      omega
  | trans _ _ first second => exact first.trans second

theorem active_weight {point : Point} (active : point.active = true) : point.weight = 1 := by
  cases point <;> first | rfl | cases active

theorem weight_le_load {point : Point} {handlers : List Point} (member : point ∈ handlers) :
    point.weight ≤ load handlers := by
  obtain ⟨before, after, rfl⟩ := List.append_of_mem member
  simp only [load_append, load_cons]
  omega

theorem inactive_of_load {handlers : List Point} (none : load handlers = 0) :
    ∀ point ∈ handlers, point.active = false := by
  intro point member
  have light := weight_le_load member
  by_contra active
  have heavy := active_weight (by simpa using active)
  omega

def Sealed (finished : Bool) (calls : List Call) : Prop :=
  (finished = false → ∀ status, .finish status ∉ calls) ∧
  (finished = true → ∃ writes status, calls = writes ++ [.finish status] ∧
    ∀ other, .finish other ∉ writes)

/-- One token is with a handler or with an outstanding write, until some handler
gives it up for a Finish. -/
structure Orderly (reactor : CScanResponseReactor) (handlers : List Point) : Prop where
  single : load handlers + reactor.base.outstanding ≤ 1
  alone : ∀ point ∈ handlers, point.active = true →
    reactor.finished = false ∧ ∀ status, .finishing status ∉ handlers
  completing : load handlers + reactor.base.outstanding = 1 →
    ∀ status, .finishing status ∈ handlers → status = .ok
  ends : Sealed reactor.finished reactor.base.calls
  alive : load handlers + reactor.base.outstanding = 1 ∨ reactor.finished = true ∨
    ∃ status, .finishing status ∈ handlers

theorem initial_orderly : Orderly initial.reactor initial.handlers where
  single := by decide
  alone := by simp [initial]
  completing := by simp [initial]
  ends := ⟨by simp [initial], by simp [initial]⟩
  alive := .inl rfl

theorem finish_sealed (reactor : CScanResponseReactor) (status : GrpcStatus)
    (ends : Sealed reactor.finished reactor.base.calls) :
    Sealed (reactor.finish status).finished (reactor.finish status).base.calls := by
  unfold finish
  cases finished : reactor.finished with
  | true => simpa [finished] using ends
  | false => exact ⟨by simp, fun _ => ⟨_, status, rfl, ends.1 finished⟩⟩

theorem resume_split {handlers : List Point} {index : Nat} {point : Point}
    (found : handlers[index]? = some point) : ∃ before after,
      handlers = before ++ point :: after ∧
      ∀ next, replace handlers index next = before ++ next.toList ++ after := by
  obtain ⟨inside, rfl⟩ := List.getElem?_eq_some_iff.mp found
  refine ⟨handlers.take index, handlers.drop (index + 1), ?_, ?_⟩
  · rw [← List.drop_eq_getElem_cons, List.take_append_drop]
  · intro next
    cases next with
    | none => simp [replace, List.eraseIdx_eq_take_drop_succ]
    | some point => simp [replace, List.set_eq_take_append_cons_drop, inside]

theorem orderly_perm {reactor : CScanResponseReactor} {handlers other : List Point}
    (same : handlers.Perm other) (orderly : Orderly reactor handlers) : Orderly reactor other := by
  have loads := load_perm same
  obtain ⟨single, alone, completing, ends, alive⟩ := orderly
  simp only [loads, same.mem_iff] at single alone completing alive
  exact ⟨single, alone, completing, ends, alive⟩

section Steps
variable {reactor changed : CScanResponseReactor} {point next : Point} {others : List Point}

theorem others_inactive (single : load (point :: others) + reactor.base.outstanding ≤ 1)
    (holds : point.weight = 1) : ∀ other ∈ others, other.active = false := by
  apply inactive_of_load
  simp only [load_cons] at single
  omega

theorem works_orderly (working : point.active = true) (still : next.active = true)
    (base : changed.base = reactor.base) (finished : changed.finished = reactor.finished)
    (orderly : Orderly reactor (point :: others)) : Orderly changed (next :: others) := by
  obtain ⟨single, alone, -, ends, -⟩ := orderly
  obtain ⟨unfinished, quiet⟩ := alone point List.mem_cons_self working
  have notFinishing (status : GrpcStatus) : .finishing status ∉ next :: others := by
    rintro member
    rcases List.mem_cons.mp member with rfl | aside
    · cases still
    · exact quiet status (List.mem_cons_of_mem _ aside)
  simp only [load_cons, active_weight working] at single
  refine ⟨?_, fun _ _ _ => ⟨finished.trans unfinished, notFinishing⟩,
    fun _ status member => absurd member (notFinishing status), ?_, ?_⟩
  · simpa [base, active_weight still] using single
  · rwa [base, finished]
  · left
    simp only [load_cons, active_weight still, base]
    omega

theorem givesUp_orderly (status : GrpcStatus) (holds : point.weight = 1)
    (base : changed.base = reactor.base) (finished : changed.finished = reactor.finished)
    (orderly : Orderly reactor (point :: others)) :
    Orderly changed (.finishing status :: others) := by
  have inactive := others_inactive orderly.single holds
  obtain ⟨single, -, -, ends, -⟩ := orderly
  simp only [load_cons, holds] at single
  refine ⟨?_, ?_, ?_, by rwa [base, finished], .inr (.inr ⟨status, List.mem_cons_self⟩)⟩
  · simp only [load_cons, Point.weight, base]
    omega
  · intro other member active
    rcases List.mem_cons.mp member with rfl | aside
    · cases active
    · simp [inactive other aside] at active
  · simp only [load_cons, Point.weight, base]
    omega

theorem writes_orderly (last : Bool) (orderly : Orderly reactor (.writing last :: others)) :
    Orderly reactor.startWrite
      ((if last then some (.finishing .ok) else none : Option Point).toList ++ others) := by
  have inactive := others_inactive orderly.single rfl
  obtain ⟨single, alone, -, ends, -⟩ := orderly
  obtain ⟨unfinished, quiet⟩ := alone (.writing last) List.mem_cons_self rfl
  have light : load ((if last then some (.finishing .ok) else none : Option Point).toList ++
      others) = load others := by
    cases last <;> simp [Point.weight]
  simp only [load_cons, Point.weight] at single
  have total : load others + reactor.startWrite.base.outstanding = 1 := by
    simp only [startWrite, ServerWriteReactor.startWrite]
    omega
  refine ⟨by rw [light]; omega, ?_, ?_, ?_, .inl (by rw [light]; exact total)⟩
  · intro other member active
    cases last <;> simp at member
    · simp [inactive other member] at active
    · rcases member with rfl | aside
      · cases active
      · simp [inactive other aside] at active
  · intro _ status member
    cases last <;> simp at member
    · exact absurd (List.mem_cons_of_mem _ member) (quiet status)
    · rcases member with same | aside
      · exact same
      · exact absurd (List.mem_cons_of_mem _ aside) (quiet status)
  · refine ⟨fun _ status member => ?_, fun done => ?_⟩
    · rcases List.mem_append.mp member with earlier | now
      · exact ends.1 unfinished status earlier
      · simp at now
    · simp [startWrite, unfinished] at done

theorem resumes_orderly (unfinished : reactor.finished = false)
    (settled : .finishing .ok ∉ Point.written true :: others)
    (orderly : Orderly reactor (.written true :: others)) :
    Orderly reactor (.resetting :: others) := by
  obtain ⟨single, -, completing, ends, -⟩ := orderly
  simp only [load_cons, Point.weight] at single completing
  have quiet (status : GrpcStatus) : .finishing status ∉ Point.resetting :: others := by
    intro member
    have aside : .finishing status ∈ Point.written true :: others := by simpa using member
    exact settled (completing (by omega) status aside ▸ aside)
  refine ⟨by simpa [Point.weight] using single, fun _ _ _ => ⟨unfinished, quiet⟩,
    fun _ status member => absurd member (quiet status), ends, .inl ?_⟩
  simp only [load_cons, Point.weight]
  omega

theorem leaves_orderly (finished : changed.finished = true)
    (outstanding : changed.base.outstanding = reactor.base.outstanding)
    (ends : Sealed changed.finished changed.base.calls)
    (idle : ∀ other ∈ others, other.active = false)
    (orderly : Orderly reactor (point :: others)) : Orderly changed others := by
  obtain ⟨single, -, completing, -, -⟩ := orderly
  simp only [load_cons] at single completing
  refine ⟨by omega, ?_, ?_, ends, .inr (.inl finished)⟩
  · intro other member active
    simp [idle other member] at active
  · intro total status member
    exact completing (by omega) status (List.mem_cons_of_mem _ member)

theorem cancels_orderly (orderly : Orderly reactor (.cancelling :: others)) :
    Orderly reactor others := by
  obtain ⟨single, alone, completing, ends, alive⟩ := orderly
  simp only [load_cons, Point.weight, Nat.zero_add, List.mem_cons, reduceCtorEq, false_or]
    at single alone completing alive
  exact ⟨single, fun other member => alone other (.inr member), completing, ends, alive⟩

theorem effect_orderly {next : Option Point} (effect : Effect reactor point next changed)
    (orderly : Orderly reactor (point :: others))
    (settled : point = .written true →
      reactor.finished = true ∨ .finishing .ok ∉ point :: others) :
    Orderly changed (next.toList ++ others) := by
  cases effect with
  | works working still base finished => exact works_orderly working still base finished orderly
  | givesUp status working failed base finished =>
      exact givesUp_orderly status (active_weight working) base finished orderly
  | writes last => exact writes_orderly last orderly
  | resumes unfinished =>
      -- The one step that needs the condition on the schedule.
      rcases settled rfl with done | settled
      · simp [unfinished] at done
      · exact resumes_orderly unfinished settled orderly
  | reports unfinished => exact givesUp_orderly notWritten rfl rfl rfl orderly
  | leaves ok finished =>
      exact leaves_orderly finished rfl orderly.ends (others_inactive orderly.single rfl) orderly
  | finishes status =>
      refine leaves_orderly (finish_finished _ _) (finish_outstanding _ _)
        (finish_sealed _ _ orderly.ends) ?_ orderly
      -- Nobody works while a Finish waits, so no handler loses the token to it.
      intro other member
      by_contra active
      have quiet := (orderly.alone other (List.mem_cons_of_mem _ member) (by simpa using active)).2
      exact quiet status List.mem_cons_self
  | cancels => exact cancels_orderly orderly

end Steps

theorem delivered_orderly {reactor : CScanResponseReactor} {handlers : List Point} (ok : Bool)
    (waiting : reactor.base.outstanding ≠ 0) (orderly : Orderly reactor handlers) :
    Orderly { reactor with base := reactor.base.writeDone } (handlers ++ [.written ok]) := by
  obtain ⟨single, -, completing, ends, -⟩ := orderly
  have inactive := inactive_of_load (show load handlers = 0 by omega)
  have total : load (handlers ++ [.written ok]) + (reactor.base.outstanding - 1) = 1 := by
    simp only [load_append, load_cons, load_nil, Point.weight]
    omega
  refine ⟨Nat.le_of_eq total, ?_, ?_, ends, .inl total⟩
  · intro other member active
    rcases List.mem_append.mp member with earlier | now
    · simp [inactive other earlier] at active
    · rw [List.mem_singleton.mp now] at active
      cases active
  · intro _ status member
    exact completing (by omega) status (by simpa using member)

theorem cancelled_orderly {reactor : CScanResponseReactor} {handlers : List Point}
    (orderly : Orderly reactor handlers) : Orderly reactor (handlers ++ [.cancelling]) := by
  obtain ⟨single, alone, completing, ends, alive⟩ := orderly
  refine ⟨by simpa [Point.weight] using single, ?_, ?_, ends, ?_⟩
  · intro other member active
    rcases List.mem_append.mp member with earlier | now
    · simpa using alone other earlier active
    · rw [List.mem_singleton.mp now] at active
      cases active
  · simpa [Point.weight] using completing
  · simpa [Point.weight] using alive

theorem step_orderly {device : CSaneDevice} {state next : State} {label : Label}
    (orderly : Orderly state.reactor state.handlers) (settled : TestsSettled state label)
    (taken : step device state label = .ok next) : Orderly next.reactor next.handlers := by
  cases label with
  | writeDone ok =>
      by_cases waiting : state.reactor.base.outstanding = 0
      · simp [step, waiting] at taken
      · simp only [step, if_neg waiting] at taken
        cases taken
        exact delivered_orderly ok waiting orderly
  | cancel =>
      cases taken
      exact cancelled_orderly orderly
  | move index answer =>
      cases found : state.handlers[index]? with
      | none => simp [step, found] at taken
      | some point =>
          cases advanced : advance device state.reactor point answer with
          | none => simp [step, found, advanced] at taken
          | some result =>
              simp only [step, found, advanced] at taken
              cases taken
              obtain ⟨before, after, split, replaced⟩ := resume_split found
              -- The handler that moves comes to the front; the order of the others does not matter.
              have rotated : state.handlers.Perm (point :: (before ++ after)) :=
                split ▸ List.perm_middle
              have kept := effect_orderly (advance_effect advanced) (orderly_perm rotated orderly)
                (fun written => (settled (written ▸ found)).imp_right
                  fun absent member => absent (rotated.mem_iff.mpr member))
              rw [replaced]
              refine orderly_perm ?_ kept
              rw [← List.append_assoc]
              exact List.perm_append_comm.append_right after

end Invariant

section Result
variable (device : CSaneDevice)

theorem sealed_tail {finished : Bool} {calls front back : List Call} {status : GrpcStatus}
    (ends : Sealed finished calls) (split : calls = front ++ .finish status :: back) :
    back = [] := by
  cases finished with
  | false => exact absurd (by simp [split]) (ends.1 rfl status)
  | true =>
      obtain ⟨writes, final, whole, before⟩ := ends.2 rfl
      rcases List.eq_nil_or_concat back with empty | ⟨start, last, rfl⟩
      · exact empty
      · have aligned :
            writes ++ [.finish final] = (front ++ .finish status :: start) ++ [last] := by
          rw [← whole, split]
          simp
        have inside : writes = front ++ .finish status :: start :=
          (List.append_inj' aligned rfl).1
        exact absurd (by simp [inside]) (before status)

theorem orderly_discipline {state : State} (orderly : Orderly state.reactor state.handlers) :
    Discipline state := by
  obtain ⟨single, alone, completing, ends, alive⟩ := orderly
  refine ⟨by omega, ?_, ?_, ?_, ?_⟩
  · intro front status back split response member
    simp [sealed_tail ends split] at member
  · intro front status back split other member
    simp [sealed_tail ends split] at member
  · intro point member touching
    have heavy : point.weight = 1 := by
      cases point <;> first | rfl | cases touching
    have light := weight_le_load member
    omega
  · intro none
    rcases alive with total | finished | ⟨status, member⟩
    · exact .inl (by simpa [none] using total)
    · obtain ⟨writes, status, whole, -⟩ := ends.2 finished
      exact .inr ⟨status, by simp [whole]⟩
    · simp [none] at member

/-- The rules hold in every state of every schedule in which no OnWriteDone looks
at `m_finished` between the last StartWrite and its Finish. -/
theorem discipline_holds (labels : List Label) (last : State)
    (settled : Runs.Along (step device) TestsSettled initial labels)
    (reached : Runs.run (step device) initial labels = .ok last) : Discipline last :=
  orderly_discipline <| Runs.run_keeps_along
    (fun state => Orderly state.reactor state.handlers)
    (fun _ _ _ orderly settled taken => step_orderly orderly settled taken)
    initial last labels initial_orderly settled reached

def startLabels : List Label :=
  [.move 0 .nothing, .move 0 (.status .good), .move 0 (.status .good), .move 0 (.status .good),
    .move 0 (.parameters {}), .move 0 .nothing]

def lastPacketLabels : List Label :=
  [.move 0 .nothing, .move 0 .nothing, .move 0 (.read (.empty .eof)), .move 0 .nothing,
    .move 0 .nothing]

def flatbed : CSaneDevice := ⟨"flatbed", none, {}, .closed⟩

theorem empty_scan_keeps_rules :
    ∃ last, Runs.run (step flatbed) initial (startLabels ++ .writeDone true ::
      lastPacketLabels ++ [.move 0 .nothing, .writeDone true, .move 0 .nothing]) = .ok last ∧
    Discipline last :=
  ⟨_, rfl, discipline_holds flatbed (startLabels ++ .writeDone true ::
    lastPacketLabels ++ [.move 0 .nothing, .writeDone true, .move 0 .nothing]) _ (by decide) rfl⟩

/-- OnWriteDone for the last message comes before its Finish: the reactor writes
again, after the Finish. -/
theorem early_completion_writes_after_finish :
    ∃ labels last, Runs.run (step flatbed) initial labels = .ok last ∧ ¬ Discipline last := by
  let message : ScanResponse := ⟨"flatbed", some [], none⟩
  let first : ScanResponse := ⟨"flatbed", none, some ⟨0, false, 0, 0, 0, 0⟩⟩
  refine ⟨startLabels ++ .writeDone true :: lastPacketLabels ++ [.writeDone true,
    .move 1 .nothing, .move 0 .nothing, .move 0 .nothing, .move 0 (.read (.empty .eof)),
    .move 0 .nothing, .move 0 .nothing], _, rfl, fun rules => ?_⟩
  exact rules.noWriteAfterFinish [.startWrite first, .startWrite message] .ok
    [.startWrite message] rfl message List.mem_cons_self

end Result
end SaneInTheMembrane.ScanDiscipline

import Mathlib.Data.List.TakeWhile
import SaneInTheMembrane.Runs

/-!
server/src/StartupOrchestrator.cpp: `SStdinWorker`. The worker polls the
descriptor and takes one line with `getline`, which reads ahead into a buffer of
its own. A line that came along with another is in that buffer, where `poll` does
not see it, until there is more input. The end of a pipe does not count as input: it
raises POLLHUP alone, and the worker tests POLLIN.
-/

namespace SaneInTheMembrane.StdinWorker

section Model

inductive Place where
  | testing
  | polling
  | reading
  | obeying
  | returned
  deriving DecidableEq, Repr

/-- `kernel` is what the descriptor holds, and `buffer` what was read ahead. The end of the
input raises POLLIN if `endWakes`: of a file or a terminal it does, of a pipe it does not. -/
structure SStdinWorker where
  endWakes : Bool
  place : Place := .testing
  readStdin : Bool := true
  kernel : List Char := []
  ended : Bool := false
  buffer : List Char := []
  heard : List (List Char) := []
  deriving DecidableEq, Repr

def initial (endWakes : Bool) : SStdinWorker := { endWakes }

def Readable (worker : SStdinWorker) : Prop :=
  worker.kernel ≠ [] ∨ worker.ended = true ∧ worker.endWakes = true

instance (worker : SStdinWorker) : Decidable (Readable worker) :=
  inferInstanceAs (Decidable (_ ∨ _))

inductive Label where
  | worker
  | refill
  | pollEnds
  | input (text : List Char)
  | endOfInput
  | stopReading
  deriving DecidableEq, Repr

inductive Fault where
  | blocked
  deriving DecidableEq, Repr

def firstLine (buffer : List Char) : Option (List Char × List Char) :=
  match buffer.dropWhile (· != '\n') with
  | [] => none
  | _ :: rest => some (buffer.takeWhile (· != '\n'), rest)

def isStop (input : List Char) : Bool := input == "stop".toList || input == "s".toList

def take (worker : SStdinWorker) (input rest : List Char) : SStdinWorker :=
  { worker with
    buffer := rest
    heard := worker.heard ++ [input]
    place := if isStop input then .obeying else .testing }

def readStep (worker : SStdinWorker) : Except Fault SStdinWorker :=
  match firstLine worker.buffer with
  | some (input, rest) => .ok (take worker input rest)
  | none =>
      if worker.kernel ≠ [] ∨ ¬ worker.ended then .error .blocked
      else if worker.buffer = [] then .ok { worker with place := .returned }
      -- A last line without an end is a line.
      else .ok (take worker worker.buffer [])

def workerStep (worker : SStdinWorker) : Except Fault SStdinWorker :=
  match worker.place with
  | .testing =>
      if worker.readStdin then .ok { worker with place := .polling }
      else .ok { worker with place := .returned }
  | .polling =>
      if Readable worker then .ok { worker with place := .reading }
      else .error .blocked
  | .reading => readStep worker
  | .obeying => .ok { worker with place := .returned, readStdin := false }
  | .returned => .error .blocked

/-- `capacity` is the size of the buffer that `getline` reads ahead into. -/
def step (capacity : Nat) (worker : SStdinWorker) : Label → Except Fault SStdinWorker
  | .worker => workerStep worker
  | .refill =>
      if worker.place = .reading ∧ firstLine worker.buffer = none ∧ worker.kernel ≠ [] then
        .ok { worker with
          buffer := worker.buffer ++ worker.kernel.take capacity
          kernel := worker.kernel.drop capacity }
      else .error .blocked
  -- The time is up, or the other end was closed.
  | .pollEnds =>
      if worker.place = .polling then .ok { worker with place := .testing }
      else .error .blocked
  | .input text =>
      if worker.ended then .error .blocked
      else .ok { worker with kernel := worker.kernel ++ text }
  | .endOfInput => .ok { worker with ended := true }
  | .stopReading => .ok { worker with readStdin := false }

/-- The worker does not wait for input while it holds a whole line. -/
def Prompt (worker : SStdinWorker) : Prop :=
  worker.place = .polling → ¬ Readable worker → firstLine worker.buffer = none

def Quiet : Label → Prop
  | .worker | .pollEnds | .stopReading => True
  | .refill | .input _ | .endOfInput => False

/-- However the worker goes on with what it has read, it is prompt. -/
def Heeded (capacity : Nat) (worker : SStdinWorker) : Prop :=
  ∀ rest, (∀ label ∈ rest, Quiet label) →
    Runs.Ends Prompt (fun _ => True) (Runs.run (step capacity) worker rest)

/-- Behind the first line, which is none to obey, another whole line would wait. -/
def LeavesLine (worker : SStdinWorker) : Prop :=
  worker.readStdin = true ∧ ¬ Readable worker ∧
    ∃ input rest, firstLine worker.buffer = some (input, rest) ∧
      isStop input = false ∧ firstLine rest ≠ none

/-- A refill that leaves nothing to wake `poll` does not bring a second line. -/
def OneLine (capacity : Nat) (worker : SStdinWorker) : Label → Prop
  | .refill => ∀ next, step capacity worker .refill = .ok next → ¬ LeavesLine next
  | .worker | .pollEnds | .input _ | .endOfInput | .stopReading => True

end Model

section Invariant
variable {worker next : SStdinWorker} {label : Label} {capacity : Nat}

/-- There is something to wake `poll`, or no line waits. -/
def Awake (worker : SStdinWorker) : Prop :=
  ¬ Readable worker → firstLine worker.buffer = none

def Attentive (worker : SStdinWorker) : Prop :=
  match worker.place with
  | .testing => worker.readStdin = true → Awake worker
  | .polling => Awake worker
  | .reading => ¬ LeavesLine worker
  | .obeying | .returned => True

theorem initial_attentive (endWakes : Bool) : Attentive (initial endWakes) := fun _ _ => rfl

theorem prompt_of_attentive (attentive : Attentive worker) : Prompt worker := by
  intro polling
  rw [Attentive, polling] at attentive
  exact attentive

theorem take_attentive (input rest : List Char)
    (alone : isStop input = false → worker.readStdin = true → ¬ Readable worker →
      firstLine rest = none) : Attentive (take worker input rest) := by
  unfold Attentive take
  cases command : isStop input with
  | true => trivial
  | false => exact alone command

theorem readStep_attentive (reading : worker.place = .reading) (attentive : Attentive worker)
    (taken : readStep worker = .ok next) : Attentive next := by
  rw [Attentive, reading] at attentive
  unfold readStep at taken
  split at taken
  next input rest line =>
    cases taken
    apply take_attentive
    intro command reads silent
    by_contra waits
    exact attentive ⟨reads, silent, input, rest, line, command, waits⟩
  next none =>
    split at taken
    next => cases taken
    next =>
      split at taken
      next =>
        cases taken
        trivial
      next =>
        cases taken
        exact take_attentive worker.buffer [] fun _ _ _ => rfl

theorem attentive_of_more (attentive : Attentive worker) (place : next.place = worker.place)
    (buffer : next.buffer = worker.buffer)
    (reads : next.readStdin = true → worker.readStdin = true)
    (more : Readable worker → Readable next) : Attentive next := by
  have awake : Awake worker → Awake next := by
    intro before silent
    rw [buffer]
    exact before (mt more silent)
  unfold Attentive at attentive ⊢
  rw [place]
  cases point : worker.place with
  | testing =>
      rw [point] at attentive
      exact fun read => awake (attentive (reads read))
  | polling =>
      rw [point] at attentive
      exact awake attentive
  | reading =>
      rw [point] at attentive
      rintro ⟨read, silent, input, rest, line, behind⟩
      rw [buffer] at line
      exact attentive ⟨reads read, mt more silent, input, rest, line, behind⟩
  | obeying | returned => trivial

theorem readStep_blocked {fault : Fault} (stops : readStep worker = .error fault) :
    firstLine worker.buffer = none ∧ (worker.kernel = [] → worker.ended = false) := by
  unfold readStep at stops
  split at stops
  next => cases stops
  next none =>
    split at stops
    next waits =>
      refine ⟨none, fun empty => ?_⟩
      simpa [empty] using waits
    next =>
      split at stops <;> cases stops

theorem workerStep_attentive (attentive : Attentive worker)
    (taken : workerStep worker = .ok next) : Attentive next := by
  unfold workerStep at taken
  split at taken
  next testing =>
    rw [Attentive, testing] at attentive
    split at taken
    next reads =>
      cases taken
      exact attentive reads
    next => cases taken; trivial
  next polling =>
    rw [Attentive, polling] at attentive
    split at taken
    next some =>
      cases taken
      rintro ⟨_, silent, _⟩
      exact silent some
    next => cases taken
  next reading => exact readStep_attentive reading attentive taken
  next => cases taken; trivial
  next => cases taken

theorem refill_place (taken : step capacity worker .refill = .ok next) :
    next.place = .reading := by
  simp only [step] at taken
  split at taken
  next begun =>
    cases taken
    exact begun.1
  next => cases taken

theorem step_attentive (attentive : Attentive worker) (one : OneLine capacity worker label)
    (taken : step capacity worker label = .ok next) : Attentive next := by
  cases label with
  | worker => exact workerStep_attentive attentive taken
  | refill =>
      have alone := one next taken
      rw [Attentive, refill_place taken]
      exact alone
  | pollEnds =>
      simp only [step] at taken
      split at taken
      next polling =>
        cases taken
        rw [Attentive, polling] at attentive
        exact fun _ => attentive
      next => cases taken
  | input text =>
      simp only [step] at taken
      split at taken
      next => cases taken
      next =>
        cases taken
        refine attentive_of_more attentive rfl rfl id (Or.imp_left fun some none => ?_)
        exact some (List.append_eq_nil_iff.mp none).1
  | endOfInput =>
      cases taken
      exact attentive_of_more attentive rfl rfl id (Or.imp_right fun ended => ⟨rfl, ended.2⟩)
  | stopReading =>
      cases taken
      exact attentive_of_more attentive rfl rfl (fun reads => by cases reads) id

/-- A refill that leaves a line waiting leaves it where `poll` waits. -/
theorem leaves_line_unheeded (reading : worker.place = .reading) (leaves : LeavesLine worker) :
    ¬ Heeded capacity worker := by
  intro heeded
  obtain ⟨reads, silent, input, rest, line, command, waits⟩ := leaves
  have run : Runs.run (step capacity) worker [.worker, .worker] =
      .ok { take worker input rest with place := .polling } := by
    simp [Runs.run, step, workerStep, readStep, take, reading, line, command, reads]
  have ends := heeded [.worker, .worker] (by simp [Quiet])
  rw [run] at ends
  exact waits (ends rfl silent)

end Invariant

-- `help` and `stop` in one piece: `stop` is not obeyed, even behind the end of a pipe.
example : ∃ worker, Runs.run (step 4096) (initial false)
      [.worker, .input "help\nstop\n".toList, .endOfInput, .worker, .refill] = .ok worker ∧
    ¬ Heeded 4096 worker :=
  ⟨_, rfl, leaves_line_unheeded rfl ⟨rfl, by decide, _, _, rfl, rfl, by decide⟩⟩

section Order
variable {worker next : SStdinWorker} {label : Label} {capacity : Nat}

def text (worker : SStdinWorker) : List Char :=
  worker.heard.flatMap (· ++ ['\n']) ++ (worker.buffer ++ worker.kernel)

def typed : Label → List Char
  | .input text => text
  | .worker | .refill | .pollEnds | .endOfInput | .stopReading => []

/-- The lines are those that were typed. The end of a last line may be missing. -/
structure Faithful (typed : List Char) (worker : SStdinWorker) : Prop where
  lines : ∀ line ∈ worker.heard, '\n' ∉ line
  order : text worker = typed ∨
    worker.ended = true ∧ worker.buffer ++ worker.kernel = [] ∧ text worker = typed ++ ['\n']

theorem firstLine_some {buffer input rest : List Char}
    (line : firstLine buffer = some (input, rest)) :
    buffer = input ++ '\n' :: rest ∧ '\n' ∉ input := by
  unfold firstLine at line
  split at line
  next => cases line
  next first behind dropped =>
    cases line
    have cut : buffer.dropWhile (· != '\n') ≠ [] := by simp [dropped]
    have newline : first = '\n' := by
      have head := List.head_dropWhile_not (· != '\n') cut
      simpa [dropped] using head
    subst newline
    constructor
    · rw [← dropped, List.takeWhile_append_dropWhile]
    · intro member
      have other := List.mem_takeWhile_imp member
      simp at other

theorem firstLine_none {buffer : List Char} (none : firstLine buffer = none) :
    '\n' ∉ buffer := by
  unfold firstLine at none
  split at none
  next all =>
    intro member
    have other := List.dropWhile_eq_nil_iff.mp all '\n' member
    simp at other
  next => cases none

theorem text_take (input rest : List Char) :
    text (take worker input rest) =
      worker.heard.flatMap (· ++ ['\n']) ++ (input ++ '\n' :: rest ++ worker.kernel) := by
  simp [text, take]

theorem heard_take {input rest : List Char} {line : List Char}
    (member : line ∈ (take worker input rest).heard) : line ∈ worker.heard ∨ line = input := by
  simpa [take] using member

theorem readStep_faithful (typed : List Char) (faithful : Faithful typed worker)
    (taken : readStep worker = .ok next) : Faithful typed next := by
  unfold readStep at taken
  split at taken
  next input rest line =>
    cases taken
    obtain ⟨whole, single⟩ := firstLine_some line
    constructor
    · intro each member
      rcases heard_take member with old | rfl
      · exact faithful.lines each old
      · exact single
    · rcases faithful.order with same | ⟨_, empty, _⟩
      · left
        rw [text_take, ← whole, ← same, text]
      · simp [whole] at empty
  next none =>
    split at taken
    next => cases taken
    next finished =>
      have empty : worker.kernel = [] ∧ worker.ended = true := by
        simpa using finished
      split at taken
      next =>
        cases taken
        exact ⟨faithful.lines, faithful.order⟩
      next some =>
        cases taken
        constructor
        · intro each member
          rcases heard_take member with old | rfl
          · exact faithful.lines each old
          · exact firstLine_none none
        · rcases faithful.order with same | ⟨_, nothing, _⟩
          · refine .inr ⟨empty.2, by simp [take, empty.1], ?_⟩
            rw [text_take, ← same, text, empty.1]
            simp
          · exact absurd (List.append_eq_nil_iff.mp nothing).1 some

theorem faithful_of_same (typed : List Char) (faithful : Faithful typed worker)
    (heard : next.heard = worker.heard)
    (rest : next.buffer ++ next.kernel = worker.buffer ++ worker.kernel)
    (ended : worker.ended = true → next.ended = true) : Faithful typed next := by
  constructor
  · rw [heard]
    exact faithful.lines
  · unfold text
    rw [heard, rest]
    exact faithful.order.imp_right fun ⟨finished, behind⟩ => ⟨ended finished, behind⟩

theorem workerStep_faithful (typed : List Char) (faithful : Faithful typed worker)
    (taken : workerStep worker = .ok next) : Faithful typed next := by
  unfold workerStep at taken
  cases place : worker.place with
  | reading =>
      rw [place] at taken
      exact readStep_faithful typed faithful taken
  | testing | polling | obeying | returned =>
      rw [place] at taken
      dsimp only at taken
      (try split at taken) <;> cases taken <;>
        exact faithful_of_same typed faithful rfl rfl id

theorem step_faithful (before : List Char) (faithful : Faithful before worker)
    (taken : step capacity worker label = .ok next) :
    Faithful (before ++ typed label) next := by
  cases label with
  | worker =>
      rw [typed, List.append_nil]
      exact workerStep_faithful before faithful taken
  | input text =>
      simp only [step] at taken
      split at taken
      next => cases taken
      next unended =>
        cases taken
        refine ⟨faithful.lines, .inl ?_⟩
        rcases faithful.order with same | ⟨finished, _⟩
        · rw [← same]
          simp [StdinWorker.text, typed]
        · exact absurd finished unended
  | refill =>
      rw [typed, List.append_nil]
      simp only [step] at taken
      split at taken
      next =>
        cases taken
        refine faithful_of_same before faithful rfl ?_ id
        dsimp only
        rw [List.append_assoc, List.take_append_drop]
      next => cases taken
  | pollEnds | endOfInput | stopReading =>
      rw [typed, List.append_nil]
      simp only [step] at taken
      (try split at taken) <;> cases taken
      all_goals exact faithful_of_same before faithful rfl rfl (by simp)

/-- Whatever is typed and whenever it arrives, the lines that are heard are the lines that
were typed, in their order: none is lost, split or joined with another. -/
theorem lines_heard_in_order (capacity : Nat) (endWakes : Bool) (labels : List Label) :
    Runs.Ends (Faithful (labels.flatMap typed)) (fun _ => True)
      (Runs.run (step capacity) (initial endWakes) labels) := by
  have runs : ∀ before worker, Faithful before worker →
      Runs.Ends (Faithful (before ++ labels.flatMap typed)) (fun _ => True)
        (Runs.run (step capacity) worker labels) := by
    induction labels with
    | nil =>
        intro before worker faithful
        rwa [List.flatMap_nil, List.append_nil]
    | cons label rest ih =>
        intro before worker faithful
        cases taken : step capacity worker label with
        | error fault => simp [Runs.run, taken, Runs.Ends]
        | ok next =>
            rw [Runs.run_cons_ok rest taken, List.flatMap_cons, ← List.append_assoc]
            exact ih _ next (step_faithful before faithful taken)
  have start : Faithful [] (initial endWakes) := by
    constructor
    · intro line member
      cases member
    · exact .inl rfl
  simpa using runs [] (initial endWakes) start

end Order

end SaneInTheMembrane.StdinWorker

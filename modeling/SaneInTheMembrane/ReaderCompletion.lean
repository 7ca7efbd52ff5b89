import Mathlib.Logic.Function.Basic
import SaneInTheMembrane.Runs

/-!
One reader, the `scan` calls of the UI thread and the completions of the calls it
has started, in atomic steps. A completion clears the busy flag before it deletes
the context and reads the file and the parameters, so the next `scan` can be in
between. Contexts, files and parameters are named by the scan they belong to.
-/

namespace SaneInTheMembrane.ReaderCompletion

section Model

inductive Pointer where
  | null
  | live (scan : Nat)
  | dangling
  deriving DecidableEq, Repr

inductive ScanStep where
  | idle | passed | marked | deleted | reset | filed | contexted
  deriving DecidableEq, Repr

/-- Where a call stands: `OnDone` begins when it clears the flag. -/
inductive CallStep where
  | notStarted | running | cleared | deleted | reset | finished
  deriving DecidableEq, Repr

structure SigDone where
  scan : Nat
  file : Option Nat
  params : Option Nat
  deriving DecidableEq, Repr

/-- The parameters are nobody's until a call reads some; `received` says which
calls have. -/
structure CScanResponseReader where
  inProgress : Bool := false
  context : Pointer := .null
  currentFile : Option Nat := none
  params : Option Nat := none
  ui : ScanStep := .idle
  scans : Nat := 0
  calls : Nat → CallStep := fun _ => .notStarted
  received : Nat → Bool := fun _ => false
  deletions : List (Nat × Nat) := []
  signals : List SigDone := []

def initial : CScanResponseReader := {}

inductive Label where
  | scan
  | onReadDone (scan : Nat) (hasParameters : Bool)
  | onDone (scan : Nat)
  deriving DecidableEq, Repr

inductive Fault where
  | doubleDelete
  | noContext
  | notRunning
  deriving DecidableEq, Repr

namespace CScanResponseReader

def deleteContext (reader : CScanResponseReader) :
    Except Fault (Option Nat × CScanResponseReader) :=
  match reader.context with
  | .null => .ok (none, reader)
  | .live scan => .ok (some scan, { reader with context := .dangling })
  | .dangling => .error .doubleDelete

def setCall (reader : CScanResponseReader) (scan : Nat) (call : CallStep) :
    CScanResponseReader :=
  { reader with calls := Function.update reader.calls scan call }

def scanStep (reader : CScanResponseReader) : Except Fault CScanResponseReader :=
  match reader.ui with
  | .idle =>
      if reader.inProgress then .ok reader
      else .ok { reader with ui := .passed }
  | .passed => .ok { reader with inProgress := true, ui := .marked }
  | .marked =>
      match reader.deleteContext with
      | .ok (_, after) => .ok { after with ui := .deleted }
      | .error fault => .error fault
  | .deleted => .ok { reader with context := .null, ui := .reset }
  | .reset => .ok { reader with currentFile := some reader.scans, ui := .filed }
  | .filed => .ok { reader with context := .live reader.scans, ui := .contexted }
  | .contexted =>
      match reader.context with
      | .live _ =>
          .ok { reader.setCall reader.scans .running with scans := reader.scans + 1, ui := .idle }
      | .null | .dangling => .error .noContext

def onReadDone (reader : CScanResponseReader) (scan : Nat) (hasParameters : Bool) :
    CScanResponseReader :=
  if hasParameters then
    { reader with
      params := some scan
      received := Function.update reader.received scan true }
  else reader

def onDoneStep (reader : CScanResponseReader) (scan : Nat) :
    Except Fault CScanResponseReader :=
  match reader.calls scan with
  | .notStarted | .finished => .error .notRunning
  | .running => .ok { reader.setCall scan .cleared with inProgress := false }
  | .cleared =>
      match reader.deleteContext with
      | .ok (gone, after) =>
          .ok { after.setCall scan .deleted with
            deletions := reader.deletions ++ gone.toList.map fun context => (scan, context) }
      | .error fault => .error fault
  | .deleted => .ok { reader.setCall scan .reset with context := .null }
  | .reset =>
      .ok { reader.setCall scan .finished with
        signals := reader.signals ++ [⟨scan, reader.currentFile, reader.params⟩] }

end CScanResponseReader

def step (reader : CScanResponseReader) : Label → Except Fault CScanResponseReader
  | .scan => reader.scanStep
  -- gRPC reads for a call until it completes.
  | .onReadDone scan hasParameters =>
      if reader.calls scan = .running then .ok (reader.onReadDone scan hasParameters)
      else .error .notRunning
  | .onDone scan => reader.onDoneStep scan

/-- A completion has deleted its own context only, and has sent its own file and
parameters. -/
structure Own (reader : CScanResponseReader) : Prop where
  deletions : ∀ deletion ∈ reader.deletions, deletion.2 = deletion.1
  signals : ∀ signal ∈ reader.signals, signal.file = some signal.scan ∧
    signal.params = if reader.received signal.scan then some signal.scan else none

def CallStep.left : CallStep → Nat
  | .cleared => 3
  | .deleted => 2
  | .reset => 1
  | .notStarted | .running | .finished => 0

def CannotCome (fault : Fault) : Prop := fault = .notRunning

/-- The completions so far are their scans' own, and so is each that has begun when
it runs to its end. -/
structure Settles (reader : CScanResponseReader) : Prop where
  own : Own reader
  ends : ∀ scan, Runs.Ends Own CannotCome
    (Runs.run step reader (List.replicate (reader.calls scan).left (.onDone scan)))

/-- The UI thread deletes the context only when no completion is about to, and
makes a file only when none is about to send one. A call completes after it has
read its parameters, or before any has. -/
def Careful (reader : CScanResponseReader) : Label → Prop
  | .scan =>
      (reader.ui = .marked → ∀ scan, reader.calls scan ≠ .cleared ∧ reader.calls scan ≠ .deleted) ∧
      (reader.ui = .reset → ∀ scan, (reader.calls scan).left = 0)
  | .onDone scan => reader.calls scan = .running →
      reader.received scan = true ∨ ∀ other, reader.received other = false
  | .onReadDone _ _ => True

end Model

section Undisturbed
variable (reader : CScanResponseReader)

/-- Undisturbed, the steps of the UI thread make up `scan`. -/
theorem scan_reaches (idle : reader.ui = .idle) (free : reader.inProgress = false)
    (none : reader.context = .null) :
    Runs.run step reader (List.replicate 7 .scan) =
      .ok { reader.setCall reader.scans .running with
        inProgress := true
        context := .live reader.scans
        currentFile := some reader.scans
        scans := reader.scans + 1 } := by
  simp [Runs.run, step, CScanResponseReader.scanStep, CScanResponseReader.deleteContext,
    CScanResponseReader.setCall, idle, free, none]

theorem onDone_reaches (scan : Nat) (running : reader.calls scan = .running)
    (live : reader.context = .live scan) :
    Runs.run step reader (List.replicate 4 (.onDone scan)) =
      .ok { reader.setCall scan .finished with
        inProgress := false
        context := .null
        deletions := reader.deletions ++ [(scan, scan)]
        signals := reader.signals ++ [⟨scan, reader.currentFile, reader.params⟩] } := by
  simp [Runs.run, step, CScanResponseReader.onDoneStep, CScanResponseReader.deleteContext,
    CScanResponseReader.setCall, running, live]

end Undisturbed

section Invariant

/-- Which steps of `scan` can be beside the last call. -/
def Fits : CallStep → ScanStep → Prop
  | .running, ui => ui = .idle
  | .cleared, ui | .deleted, ui => ui = .idle ∨ ui = .passed ∨ ui = .marked
  | .reset, ui => ui ≠ .filed ∧ ui ≠ .contexted
  | .notStarted, _ | .finished, _ => True

def contextOf (call : CallStep) (ui : ScanStep) (scans : Nat) : Pointer :=
  match ui, call with
  | .contexted, _ => .live scans
  | .deleted, _ | .reset, _ | .filed, _ => .null
  | _, .running | _, .cleared => .live (scans - 1)
  | _, .deleted => .dangling
  | _, _ => .null

theorem contextOf_early (call : CallStep) (ui : ScanStep) (scans : Nat)
    (early : ui = .idle ∨ ui = .passed ∨ ui = .marked) :
    contextOf call ui scans = contextOf call .idle scans := by
  obtain rfl | rfl | rfl := early <;> cases call <;> rfl

def CallStep.Busy (call : CallStep) : Prop := call ≠ .notStarted ∧ call ≠ .finished

def CScanResponseReader.last (reader : CScanResponseReader) : CallStep :=
  reader.calls (reader.scans - 1)

/-- Only the last call is not finished, and the shared fields are its own until the
next `scan` takes them over. -/
structure Sound (reader : CScanResponseReader) : Prop where
  before : ∀ scan, scan + 1 < reader.scans → reader.calls scan = .finished
  started : ∀ scan, scan < reader.scans → reader.calls scan ≠ .notStarted
  after : ∀ scan, reader.scans ≤ scan →
    reader.calls scan = .notStarted ∧ reader.received scan = false
  fits : Fits reader.last reader.ui
  context : reader.context = contextOf reader.last reader.ui reader.scans
  marked : reader.ui ≠ .idle → reader.ui ≠ .passed → reader.inProgress = true
  running : reader.last = .running → reader.inProgress = true
  file : reader.last.Busy → reader.currentFile = some (reader.scans - 1)
  newFile : reader.ui = .filed ∨ reader.ui = .contexted → reader.currentFile = some reader.scans
  params : reader.last.Busy → reader.received (reader.scans - 1) = true →
    reader.params = some (reader.scans - 1)
  nobody : reader.params = none ↔ ∀ scan, reader.received scan = false
  begun : reader.last.left ≠ 0 →
    reader.received (reader.scans - 1) = true ∨ ∀ scan, reader.received scan = false
  own : Own reader
  signalled : ∀ signal ∈ reader.signals, reader.calls signal.scan = .finished

theorem initial_sound : Sound initial := by
  constructor <;> simp [initial, CScanResponseReader.last, Fits, contextOf, CallStep.Busy,
    CallStep.left]
  constructor <;> simp

variable {reader : CScanResponseReader}

theorem Sound.of_busy (sound : Sound reader) (scan : Nat) (busy : (reader.calls scan).Busy) :
    scan + 1 = reader.scans ∧ reader.last = reader.calls scan := by
  have notBefore : ¬ scan + 1 < reader.scans := fun earlier => busy.2 (sound.before scan earlier)
  have notAfter : ¬ reader.scans ≤ scan := fun later => busy.1 (sound.after scan later).1
  have same : scan + 1 = reader.scans := by omega
  refine ⟨same, ?_⟩
  rw [CScanResponseReader.last, ← same, Nat.add_sub_cancel]

theorem Sound.of_ui (sound : Sound reader) (ui : ScanStep) (context : Pointer)
    (file : Option Nat) (flag : Bool) (fits : Fits reader.last ui)
    (pointed : context = contextOf reader.last ui reader.scans)
    (marked : ui ≠ .idle → ui ≠ .passed → flag = true)
    (running : reader.last = .running → flag = true)
    (kept : reader.last.Busy → file = some (reader.scans - 1))
    (newFile : ui = .filed ∨ ui = .contexted → file = some reader.scans) :
    Sound { reader with
      ui := ui, context := context, currentFile := file, inProgress := flag } where
  before := sound.before
  started := sound.started
  after := sound.after
  fits := fits
  context := pointed
  marked := marked
  running := running
  file := kept
  newFile := newFile
  params := sound.params
  nobody := sound.nobody
  begun := sound.begun
  own := ⟨sound.own.deletions, sound.own.signals⟩
  signalled := sound.signalled

theorem passed_sound (sound : Sound reader) (idle : reader.ui = .idle)
    (free : reader.inProgress = false) : Sound { reader with ui := .passed } := by
  have notRunning : reader.last ≠ .running := by
    intro running
    rw [sound.running running] at free
    cases free
  have context := sound.context
  rw [idle] at context
  apply sound.of_ui .passed reader.context reader.currentFile reader.inProgress
  · cases last : reader.last <;> simp_all [Fits]
  · rw [context]
    cases reader.last <;> rfl
  · exact fun _ still => absurd rfl still
  · exact sound.running
  · exact sound.file
  · rintro (filed | contexted) <;> contradiction

theorem marked_sound (sound : Sound reader) (passed : reader.ui = .passed) :
    Sound { reader with inProgress := true, ui := .marked } := by
  have context := sound.context
  have fits := sound.fits
  rw [passed] at context fits
  apply sound.of_ui .marked reader.context reader.currentFile true
  · cases last : reader.last <;> simp_all [Fits]
  · rw [context]
    cases reader.last <;> rfl
  · exact fun _ _ => rfl
  · exact fun _ => rfl
  · exact sound.file
  · rintro (filed | contexted) <;> contradiction

theorem deleted_sound (sound : Sound reader) (marked : reader.ui = .marked)
    (quiet : reader.last ≠ .cleared ∧ reader.last ≠ .deleted) :
    reader.deleteContext = .ok (none, reader) ∧ Sound { reader with ui := .deleted } := by
  have context := sound.context
  have fits := sound.fits
  rw [marked] at context fits
  have null : reader.context = .null := by
    rw [context]
    cases last : reader.last <;> simp_all [Fits, contextOf]
  constructor
  · rw [CScanResponseReader.deleteContext, null]
  · apply sound.of_ui .deleted reader.context reader.currentFile reader.inProgress
    · cases last : reader.last <;> simp_all [Fits]
    · exact null
    · exact fun _ _ => sound.marked (by simp [marked]) (by simp [marked])
    · exact sound.running
    · exact sound.file
    · rintro (filed | contexted) <;> contradiction

theorem reset_sound (sound : Sound reader) (deleted : reader.ui = .deleted) :
    Sound { reader with context := .null, ui := .reset } := by
  have fits := sound.fits
  rw [deleted] at fits
  apply sound.of_ui .reset .null reader.currentFile reader.inProgress
  · cases last : reader.last <;> simp_all [Fits]
  · rfl
  · exact fun _ _ => sound.marked (by simp [deleted]) (by simp [deleted])
  · exact sound.running
  · exact sound.file
  · rintro (filed | contexted) <;> contradiction

theorem filed_sound (sound : Sound reader) (reset : reader.ui = .reset)
    (quiet : reader.last.left = 0) :
    Sound { reader with currentFile := some reader.scans, ui := .filed } := by
  have fits := sound.fits
  rw [reset] at fits
  have settled : ¬ reader.last.Busy := by
    cases last : reader.last <;> simp_all [Fits, CallStep.left, CallStep.Busy]
  have context := sound.context
  rw [reset] at context
  apply sound.of_ui .filed reader.context (some reader.scans) reader.inProgress
  · cases last : reader.last <;> simp_all [Fits, CallStep.Busy]
  · exact context
  · exact fun _ _ => sound.marked (by simp [reset]) (by simp [reset])
  · exact sound.running
  · exact fun busy => absurd busy settled
  · exact fun _ => rfl

theorem contexted_sound (sound : Sound reader) (filed : reader.ui = .filed) :
    Sound { reader with context := .live reader.scans, ui := .contexted } := by
  have fits := sound.fits
  rw [filed] at fits
  apply sound.of_ui .contexted (.live reader.scans) reader.currentFile reader.inProgress
  · cases last : reader.last <;> simp_all [Fits]
  · rfl
  · exact fun _ _ => sound.marked (by simp [filed]) (by simp [filed])
  · exact sound.running
  · exact sound.file
  · exact fun _ => sound.newFile (.inl filed)

theorem setCall_self (reader : CScanResponseReader) (scan : Nat) (call : CallStep) :
    (reader.setCall scan call).calls scan = call :=
  Function.update_self ..

theorem setCall_of_ne (reader : CScanResponseReader) (scan other : Nat) (call : CallStep)
    (apart : other ≠ scan) : (reader.setCall scan call).calls other = reader.calls other :=
  Function.update_of_ne apart ..

@[simp] theorem setCall_scans (reader : CScanResponseReader) (scan : Nat) (call : CallStep) :
    (reader.setCall scan call).scans = reader.scans := rfl

@[simp] theorem setCall_ui (reader : CScanResponseReader) (scan : Nat) (call : CallStep) :
    (reader.setCall scan call).ui = reader.ui := rfl

@[simp] theorem setCall_received (reader : CScanResponseReader) (scan : Nat) (call : CallStep) :
    (reader.setCall scan call).received = reader.received := rfl

theorem start_sound (sound : Sound reader) (contexted : reader.ui = .contexted) :
    Sound { reader.setCall reader.scans .running with
      scans := reader.scans + 1, ui := .idle } := by
  have fits := sound.fits
  have context := sound.context
  rw [contexted] at fits context
  obtain ⟨unborn, unread⟩ := sound.after reader.scans (Nat.le_refl _)
  have new := setCall_self reader reader.scans .running
  have last : (reader.setCall reader.scans .running).calls (reader.scans + 1 - 1) = .running := new
  constructor
  · intro scan earlier
    have within : scan < reader.scans := Nat.lt_of_succ_lt_succ earlier
    refine (setCall_of_ne reader _ scan _ (Nat.ne_of_lt within)).trans ?_
    by_contra unfinished
    obtain ⟨-, last⟩ := sound.of_busy scan ⟨sound.started scan within, unfinished⟩
    have born := sound.started scan within
    rw [last] at fits
    cases call : reader.calls scan <;> simp_all [Fits]
  · intro scan within absent
    by_cases here : scan = reader.scans
    · subst here
      cases new.symm.trans absent
    · have earlier : scan < reader.scans :=
        Nat.lt_of_le_of_ne (Nat.le_of_lt_succ within) here
      exact sound.started scan earlier ((setCall_of_ne reader _ scan _ here).symm.trans absent)
  · intro scan later
    obtain ⟨unborn, unread⟩ := sound.after scan (Nat.le_of_lt later)
    exact ⟨(setCall_of_ne reader _ scan _ (Nat.ne_of_gt later)).trans unborn, unread⟩
  · rw [CScanResponseReader.last, last]
    rfl
  · rw [CScanResponseReader.last, last]
    exact context
  · exact fun busy => absurd rfl busy
  · exact fun _ => sound.marked (by simp [contexted]) (by simp [contexted])
  · exact fun _ => sound.newFile (.inr contexted)
  · rintro (filed | contexted) <;> contradiction
  · intro _ read
    exact absurd (unread.symm.trans read) (by simp)
  · exact sound.nobody
  · rw [CScanResponseReader.last, last]
    exact fun begun => absurd rfl begun
  · exact ⟨sound.own.deletions, sound.own.signals⟩
  · intro signal sent
    have finished := sound.signalled signal sent
    refine (setCall_of_ne reader _ signal.scan _ ?_).trans finished
    intro same
    rw [same, unborn] at finished
    cases finished

theorem Sound.of_call (sound : Sound reader) (scan : Nat) (call : CallStep) (context : Pointer)
    (flag : Bool) (deletions : List (Nat × Nat)) (signals : List SigDone)
    (busy : (reader.calls scan).Busy) (born : call ≠ .notStarted) (fits : Fits call reader.ui)
    (pointed : context = contextOf call reader.ui reader.scans)
    (marked : reader.ui ≠ .idle → reader.ui ≠ .passed → flag = true)
    (running : call = .running → flag = true)
    (begun : call.left ≠ 0 →
      reader.received scan = true ∨ ∀ other, reader.received other = false)
    (own : Own { reader with deletions := deletions, signals := signals })
    (signalled : ∀ signal ∈ signals,
      (reader.setCall scan call).calls signal.scan = .finished) :
    Sound { reader.setCall scan call with
      context := context, inProgress := flag, deletions := deletions, signals := signals } := by
  obtain ⟨position, was⟩ := sound.of_busy scan busy
  have here : reader.scans - 1 = scan := by omega
  have last : (reader.setCall scan call).calls (reader.scans - 1) = call := by
    rw [here]
    exact setCall_self reader scan call
  have stillBusy : reader.last.Busy := was ▸ busy
  constructor
  · intro other earlier
    have apart : other ≠ scan := by
      intro same
      subst same
      exact absurd position (Nat.ne_of_lt earlier)
    exact (setCall_of_ne reader scan other call apart).trans (sound.before other earlier)
  · intro other within absent
    by_cases same : other = scan
    · subst same
      exact born ((setCall_self reader other call).symm.trans absent)
    · exact sound.started other within
        ((setCall_of_ne reader scan other call same).symm.trans absent)
  · intro other later
    have apart : other ≠ scan := by
      intro same
      subst same
      exact busy.1 (sound.after other later).1
    obtain ⟨unborn, unread⟩ := sound.after other later
    exact ⟨(setCall_of_ne reader scan other call apart).trans unborn, unread⟩
  · simpa only [CScanResponseReader.last, setCall_scans, setCall_ui, last] using fits
  · simpa only [CScanResponseReader.last, setCall_scans, setCall_ui, last] using pointed
  · exact marked
  · simpa only [CScanResponseReader.last, setCall_scans, last] using running
  · exact fun _ => sound.file stillBusy
  · exact sound.newFile
  · exact fun _ => sound.params stillBusy
  · exact sound.nobody
  · simpa only [CScanResponseReader.last, setCall_scans, setCall_received, here,
      setCall_self] using begun
  · exact ⟨own.deletions, own.signals⟩
  · exact signalled

theorem signalled_of_unfinished (sound : Sound reader) (scan : Nat) (call : CallStep)
    (unfinished : reader.calls scan ≠ .finished) :
    ∀ signal ∈ reader.signals, (reader.setCall scan call).calls signal.scan = .finished := by
  intro signal sent
  have finished := sound.signalled signal sent
  refine (setCall_of_ne reader scan signal.scan call ?_).trans finished
  intro same
  exact unfinished (same ▸ finished)

theorem cleared_sound (sound : Sound reader) (scan : Nat) (running : reader.calls scan = .running)
    (read : reader.received scan = true ∨ ∀ other, reader.received other = false) :
    Sound { reader.setCall scan .cleared with inProgress := false } := by
  have busy : (reader.calls scan).Busy := by simp [running, CallStep.Busy]
  obtain ⟨-, last⟩ := sound.of_busy scan busy
  have idle : reader.ui = .idle := by
    have fits := sound.fits
    rwa [last, running] at fits
  have context := sound.context
  rw [last, running, idle] at context
  apply sound.of_call scan .cleared reader.context false reader.deletions reader.signals busy
  · simp
  · exact .inl idle
  · rw [idle]
    exact context
  · exact fun unlike => absurd idle unlike
  · simp
  · exact fun _ => read
  · exact ⟨sound.own.deletions, sound.own.signals⟩
  · exact signalled_of_unfinished sound scan .cleared (by simp [running])

theorem onDone_deletes (sound : Sound reader) (scan : Nat)
    (cleared : reader.calls scan = .cleared) :
    reader.deleteContext = .ok (some scan, { reader with context := .dangling }) ∧
    Sound { reader.setCall scan .deleted with
      context := .dangling, deletions := reader.deletions ++ [(scan, scan)] } := by
  have busy : (reader.calls scan).Busy := by simp [cleared, CallStep.Busy]
  obtain ⟨position, last⟩ := sound.of_busy scan busy
  have fits := sound.fits
  have context := sound.context
  rw [last, cleared] at fits context
  have here : reader.scans - 1 = scan := by omega
  have live : reader.context = .live scan := by
    rw [context, contextOf_early _ _ _ fits, ← here]
    rfl
  constructor
  · rw [CScanResponseReader.deleteContext, live]
  · apply sound.of_call scan .deleted .dangling reader.inProgress _ reader.signals busy
    · simp
    · exact fits
    · exact (contextOf_early .deleted _ _ fits).symm
    · exact sound.marked
    · simp
    · intro _
      rw [← here]
      exact sound.begun (by simp [last, cleared, CallStep.left])
    · exact ⟨List.forall_mem_append.mpr ⟨sound.own.deletions,
        List.forall_mem_singleton.mpr rfl⟩, sound.own.signals⟩
    · exact signalled_of_unfinished sound scan .deleted (by simp [cleared])

theorem onDone_resets (sound : Sound reader) (scan : Nat) (deleted : reader.calls scan = .deleted) :
    Sound { reader.setCall scan .reset with context := .null } := by
  have busy : (reader.calls scan).Busy := by simp [deleted, CallStep.Busy]
  obtain ⟨position, last⟩ := sound.of_busy scan busy
  have here : reader.scans - 1 = scan := by omega
  have fits := sound.fits
  rw [last, deleted] at fits
  apply sound.of_call scan .reset .null reader.inProgress reader.deletions reader.signals busy
  · simp
  · obtain idle | passed | marked := fits
    · simp [idle, Fits]
    · simp [passed, Fits]
    · simp [marked, Fits]
  · exact (contextOf_early .reset _ _ fits).symm
  · exact sound.marked
  · simp
  · intro _
    rw [← here]
    exact sound.begun (by simp [last, deleted, CallStep.left])
  · exact ⟨sound.own.deletions, sound.own.signals⟩
  · exact signalled_of_unfinished sound scan .reset (by simp [deleted])

theorem params_of_begun (sound : Sound reader) (begun : reader.last.left ≠ 0) :
    reader.params =
      if reader.received (reader.scans - 1) then some (reader.scans - 1) else none := by
  have busy : reader.last.Busy := by
    cases last : reader.last <;> simp_all [CallStep.left, CallStep.Busy]
  cases read : reader.received (reader.scans - 1) with
  | true => exact sound.params busy read
  | false =>
      cases sound.begun begun with
      | inl received => rw [read] at received; cases received
      | inr none => exact sound.nobody.mpr none

theorem onDone_sends (sound : Sound reader) (scan : Nat) (reset : reader.calls scan = .reset) :
    Sound { reader.setCall scan .finished with
      signals := reader.signals ++ [⟨scan, reader.currentFile, reader.params⟩] } := by
  have busy : (reader.calls scan).Busy := by simp [reset, CallStep.Busy]
  obtain ⟨position, last⟩ := sound.of_busy scan busy
  have here : reader.scans - 1 = scan := by omega
  have fits := sound.fits
  have context := sound.context
  rw [last, reset] at fits context
  apply sound.of_call scan .finished reader.context reader.inProgress reader.deletions _ busy
  · simp
  · trivial
  · rw [context]
    cases reader.ui <;> rfl
  · exact sound.marked
  · simp
  · exact fun begun => absurd rfl begun
  · have params := params_of_begun sound (by simp [last, reset, CallStep.left])
    have file := sound.file (last ▸ busy)
    rw [here] at params file
    exact ⟨sound.own.deletions, List.forall_mem_append.mpr ⟨sound.own.signals,
      List.forall_mem_singleton.mpr ⟨file, params⟩⟩⟩
  · exact List.forall_mem_append.mpr
      ⟨signalled_of_unfinished sound scan .finished (by simp [reset]),
        List.forall_mem_singleton.mpr (setCall_self reader scan .finished)⟩

theorem onReadDone_sound (sound : Sound reader) (scan : Nat) (hasParameters : Bool)
    (running : reader.calls scan = .running) : Sound (reader.onReadDone scan hasParameters) := by
  have busy : (reader.calls scan).Busy := by simp [running, CallStep.Busy]
  obtain ⟨position, last⟩ := sound.of_busy scan busy
  have here : reader.scans - 1 = scan := by omega
  unfold CScanResponseReader.onReadDone
  cases hasParameters with
  | false => exact sound
  | true =>
      constructor
      · exact sound.before
      · exact sound.started
      · intro other later
        obtain ⟨unborn, unread⟩ := sound.after other later
        refine ⟨unborn, (Function.update_of_ne ?_ ..).trans unread⟩
        intro same
        subst same
        rw [running] at unborn
        cases unborn
      · exact sound.fits
      · exact sound.context
      · exact sound.marked
      · exact sound.running
      · exact sound.file
      · exact sound.newFile
      · exact fun _ _ => congrArg some here.symm
      · constructor
        · intro nobody
          cases nobody
        · intro unread
          have read := unread scan
          simp at read
      · intro begun
        refine absurd ?_ begun
        show reader.last.left = 0
        rw [last, running]
        rfl
      · refine ⟨sound.own.deletions, fun signal member => ?_⟩
        have apart : signal.scan ≠ scan := by
          intro same
          have finished := sound.signalled signal member
          rw [same, running] at finished
          cases finished
        simpa [Function.update_of_ne apart] using sound.own.signals signal member
      · exact sound.signalled

theorem step_sound (label : Label) (sound : Sound reader) (careful : Careful reader label) :
    Runs.Ends Sound CannotCome (step reader label) := by
  cases label with
  | scan =>
      simp only [step, CScanResponseReader.scanStep]
      split
      next idle =>
        split
        · exact sound
        next free => exact passed_sound sound idle (by simpa using free)
      next passed => exact marked_sound sound passed
      next marked =>
        obtain ⟨none, kept⟩ := deleted_sound sound marked (careful.1 marked (reader.scans - 1))
        rw [none]
        exact kept
      next deleted => exact reset_sound sound deleted
      next reset => exact filed_sound sound reset (careful.2 reset (reader.scans - 1))
      next filed => exact contexted_sound sound filed
      next contexted =>
        have live := sound.context
        rw [contexted] at live
        simp only [live, contextOf]
        exact start_sound sound contexted
  | onReadDone scan hasParameters =>
      simp only [step]
      split
      next running => exact onReadDone_sound sound scan hasParameters running
      · rfl
  | onDone scan =>
      simp only [step, CScanResponseReader.onDoneStep]
      split
      · rfl
      · rfl
      next running => exact cleared_sound sound scan running (careful running)
      next cleared =>
        obtain ⟨own, kept⟩ := onDone_deletes sound scan cleared
        rw [own]
        exact kept
      next deleted => exact onDone_resets sound scan deleted
      next reset => exact onDone_sends sound scan reset

end Invariant

section Settled
variable {reader : CScanResponseReader}

theorem not_running_after (scan : Nat) (next : CScanResponseReader)
    (taken : step reader (.onDone scan) = .ok next) : next.calls scan ≠ .running := by
  simp only [step, CScanResponseReader.onDoneStep] at taken
  split at taken
  · cases taken
  · cases taken
  · cases taken
    exact fun running => by cases (setCall_self reader scan .cleared).symm.trans running
  · split at taken
    next after _ =>
      cases taken
      exact fun running => by cases (setCall_self after scan .deleted).symm.trans running
    · cases taken
  · cases taken
    exact fun running => by cases (setCall_self reader scan .reset).symm.trans running
  · cases taken
    exact fun running => by cases (setCall_self reader scan .finished).symm.trans running

theorem sound_settles (sound : Sound reader) : Settles reader := by
  refine ⟨sound.own, fun scan => ?_⟩
  by_cases running : reader.calls scan = .running
  · rw [running]
    exact sound.own
  · -- A completion that has begun is careful to its end.
    have keeps (now : CScanResponseReader) (label : Label)
        (begun : Sound now ∧ now.calls scan ≠ .running) (same : label = .onDone scan) :
        Runs.Ends (fun now => Sound now ∧ now.calls scan ≠ .running) CannotCome
          (step now label) := by
      rw [same]
      have one := step_sound (.onDone scan) begun.1 fun again => absurd again begun.2
      cases taken : step now (.onDone scan) with
      | ok next =>
          rw [taken] at one
          exact ⟨one, not_running_after scan next taken⟩
      | error fault =>
          rw [taken] at one
          exact one
    apply Runs.run_ends_of_labels _ Own CannotCome (fun _ begun => begun.1.own) keeps
    · exact ⟨sound, running⟩
    · exact fun _ member => List.eq_of_mem_replicate member

theorem reset_ends (scan : Nat) (reset : reader.calls scan = .reset)
    (ends : Runs.Ends Own CannotCome (Runs.run step reader [.onDone scan])) :
    reader.currentFile = some scan ∧
      reader.params = if reader.received scan then some scan else none := by
  simp only [Runs.run, step, CScanResponseReader.onDoneStep, reset] at ends
  exact ends.signals ⟨scan, reader.currentFile, reader.params⟩
    (List.mem_append_right _ List.mem_cons_self)

theorem deleted_ends (scan : Nat) (deleted : reader.calls scan = .deleted)
    (ends : Runs.Ends Own CannotCome (Runs.run step reader [.onDone scan, .onDone scan])) :
    reader.currentFile = some scan ∧
      reader.params = if reader.received scan then some scan else none := by
  have taken : ∃ next, step reader (.onDone scan) = .ok next ∧
      next.calls scan = .reset ∧ next.currentFile = reader.currentFile ∧
      next.params = reader.params ∧ next.received = reader.received := by
    simp only [step, CScanResponseReader.onDoneStep, deleted]
    exact ⟨_, rfl, setCall_self _ scan .reset, rfl, rfl, rfl⟩
  obtain ⟨next, taken, reset, file, params, received⟩ := taken
  rw [Runs.run_cons_ok _ taken] at ends
  have sent := reset_ends scan reset ends
  rwa [file, params, received] at sent

theorem cleared_ends (scan : Nat) (cleared : reader.calls scan = .cleared)
    (ends : Runs.Ends Own CannotCome
      (Runs.run step reader [.onDone scan, .onDone scan, .onDone scan])) :
    reader.context ≠ .dangling ∧ reader.currentFile = some scan ∧
      reader.params = if reader.received scan then some scan else none := by
  cases context : reader.context with
  | dangling =>
      have faults : step reader (.onDone scan) = .error .doubleDelete := by
        simp only [step, CScanResponseReader.onDoneStep, cleared,
          CScanResponseReader.deleteContext, context]
      simp only [Runs.run, faults] at ends
      cases ends
  | null | live made =>
      have taken : ∃ next, step reader (.onDone scan) = .ok next ∧
          next.calls scan = .deleted ∧ next.currentFile = reader.currentFile ∧
          next.params = reader.params ∧ next.received = reader.received := by
        simp only [step, CScanResponseReader.onDoneStep, cleared,
          CScanResponseReader.deleteContext, context]
        exact ⟨_, rfl, setCall_self _ scan .deleted, rfl, rfl, rfl⟩
      obtain ⟨next, taken, deleted, file, params, received⟩ := taken
      rw [Runs.run_cons_ok _ taken] at ends
      have sent := deleted_ends scan deleted ends
      rw [file, params, received] at sent
      exact ⟨by simp, sent⟩

theorem Settles.sends (settles : Settles reader) (scan : Nat)
    (begun : (reader.calls scan).left ≠ 0) : reader.currentFile = some scan ∧
      reader.params = if reader.received scan then some scan else none := by
  have ends := settles.ends scan
  cases call : reader.calls scan with
  | notStarted | running | finished =>
      rw [call] at begun
      exact absurd rfl begun
  | cleared =>
      rw [call] at ends
      exact (cleared_ends scan call ends).2
  | deleted =>
      rw [call] at ends
      exact deleted_ends scan call ends
  | reset =>
      rw [call] at ends
      exact reset_ends scan call ends

theorem received_of_settles (scan : Nat) (sound : Sound reader)
    (running : reader.calls scan = .running)
    (ends : Runs.Ends Settles CannotCome (step reader (.onDone scan))) :
    reader.received scan = true ∨ ∀ other, reader.received other = false := by
  have taken : step reader (.onDone scan) =
      .ok { reader.setCall scan .cleared with inProgress := false } := by
    simp only [step, CScanResponseReader.onDoneStep, running]
  rw [taken] at ends
  have begun : ((reader.setCall scan .cleared).calls scan).left ≠ 0 := by
    simp [setCall_self, CallStep.left]
  have params : reader.params = if reader.received scan then some scan else none :=
    (Settles.sends ends scan begun).2
  cases read : reader.received scan with
  | true => exact .inl rfl
  | false =>
      rw [read] at params
      exact .inr (sound.nobody.mp params)

theorem marked_of_settles (scan : Nat) (sound : Sound reader) (marked : reader.ui = .marked)
    (ends : Runs.Ends Settles CannotCome (step reader .scan)) :
    reader.calls scan ≠ .cleared ∧ reader.calls scan ≠ .deleted := by
  simp only [step, CScanResponseReader.scanStep, marked] at ends
  have context := sound.context
  constructor
  · intro cleared
    obtain ⟨-, last⟩ := sound.of_busy scan (by simp [cleared, CallStep.Busy])
    rw [last, cleared, marked] at context
    simp only [contextOf] at context
    simp only [CScanResponseReader.deleteContext, context] at ends
    have settled := ends.ends scan
    simp only [cleared] at settled
    refine (cleared_ends scan ?_ settled).1 rfl
    exact cleared
  · intro deleted
    obtain ⟨-, last⟩ := sound.of_busy scan (by simp [deleted, CallStep.Busy])
    rw [last, deleted, marked] at context
    simp only [contextOf] at context
    simp only [CScanResponseReader.deleteContext, context] at ends
    cases ends

theorem reset_of_settles (scan : Nat) (sound : Sound reader) (reset : reader.ui = .reset)
    (ends : Runs.Ends Settles CannotCome (step reader .scan)) :
    (reader.calls scan).left = 0 := by
  by_contra begun
  simp only [step, CScanResponseReader.scanStep, reset] at ends
  have file := (Settles.sends ends scan begun).1
  have busy : (reader.calls scan).Busy := by
    cases call : reader.calls scan <;> simp_all [CallStep.left, CallStep.Busy]
  obtain ⟨position, -⟩ := sound.of_busy scan busy
  have same : reader.scans = scan := Option.some.inj file
  omega

theorem careful_of_settles (label : Label) (sound : Sound reader)
    (ends : Runs.Ends Settles CannotCome (step reader label)) : Careful reader label := by
  cases label with
  | scan =>
      constructor
      · exact fun marked scan => marked_of_settles scan sound marked ends
      · exact fun reset scan => reset_of_settles scan sound reset ends
  | onReadDone scan hasParameters => trivial
  | onDone scan => exact fun running => received_of_settles scan sound running ends

/-- Each completion deletes its own context and sends its own file and parameters,
all along the interleavings whose steps are careful, and along no others. -/
theorem completions_own_iff (labels : List Label) :
    (∀ front, front <+: labels →
        Runs.Ends Settles CannotCome (Runs.run step initial front)) ↔
      Runs.Along step Careful initial labels := by
  apply Runs.prefixes_end_iff Sound Settles CannotCome (fun _ => sound_settles)
  · exact fun _ label sound careful => step_sound label sound careful
  · exact fun _ label sound ends => careful_of_settles label sound ends
  · exact initial_sound

/-- A scan that starts between the cleared flag and the deletion loses its context to
the completion before it, which also sends its file. -/
theorem scan_between_loses_context :
    let labels := List.replicate 7 .scan ++ [.onReadDone 0 true, .onDone 0] ++
      List.replicate 6 .scan ++ List.replicate 3 (.onDone 0)
    (Runs.run step initial labels).map (fun reader => (reader.deletions, reader.signals)) =
      .ok ([(0, 1)], [⟨0, some 1, some 0⟩]) ∧
    ¬ Runs.Ends Settles CannotCome (Runs.run step initial labels) := by
  refine ⟨rfl, fun settles => ?_⟩
  have own := settles.own.deletions (0, 1) (by decide)
  cases own

end Settled
end SaneInTheMembrane.ReaderCompletion

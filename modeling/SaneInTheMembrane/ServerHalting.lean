import SaneInTheMembrane.ServerLifecycle

/-!
`CStartupOrchestrator`: where the threads can be when none of them can go on and a
call of `init_shutdown` has returned. What the call told the workers stays told, so
a worker that waits does not wait for the shutdown.
-/

namespace SaneInTheMembrane.ServerLifecycle

open AvahiShutdown (CAutoRestartableAvahiService)
open IpcServer (CIPC)
open StdinWorker (SStdinWorker)

section Completion

/-- The steps that the workers and `wait` take by themselves. -/
def Works : Label → Bool
  | .grpc | .getDevices | .join => true
  | .avahi label => label = .worker
  | .stdin label => label = .worker ∨ label = .refill ∨ label = .pollEnds
  | .ipc label => label = .worker ∨ label = .pollEnds
  | .call _ | .sigint _ => false

/-- What goes on by itself: the workers, `wait`, and the calls of `init_shutdown`. -/
def Moves : Label → Bool
  | .call _ => true
  | label => Works label

def Blocks : Fault → Prop
  | .blocked | .avahi .blocked | .stdin .blocked | .ipc .blocked => True
  | .nullServer | .destroyedServer | .avahi .deletedService | .ipc .brokenPipe => False

def Halted (capacity : Nat) (orchestrator : CStartupOrchestrator) : Prop :=
  ∀ label, Moves label = true →
    ∃ fault, step capacity orchestrator label = .error fault ∧ Blocks fault

/-- The IPC worker reads from a client that is connected and sends nothing, or writes to one
that is connected and does not receive. -/
def HeldByClient (orchestrator : CStartupOrchestrator) : Prop :=
  ∃ client, (orchestrator.ipc.clients client).connected = true ∧
    (orchestrator.ipc.place = .reading client ∧ (orchestrator.ipc.clients client).unread = [] ∨
      ∃ response, orchestrator.ipc.place = .answering client response ∧
        orchestrator.ipc.capacity ≤ (orchestrator.ipc.clients client).waiting)

/-- The stdin worker is in `getline` behind a line that has no end yet. -/
def HeldByLine (orchestrator : CStartupOrchestrator) : Prop :=
  orchestrator.stdinWorker.place = .reading ∧ orchestrator.stdinWorker.kernel = [] ∧
    orchestrator.stdinWorker.ended = false ∧
    StdinWorker.firstLine orchestrator.stdinWorker.buffer = none

/-- No call reads the pointer of the Avahi service while its worker replaces it. -/
def ReadsCarefully (orchestrator : CStartupOrchestrator) : Label → Prop
  | .call call => orchestrator.calls call = .stoppingAvahi →
      AvahiShutdown.Careful orchestrator.avahiService (.readPointer call)
  | .grpc | .avahi _ | .stdin _ | .getDevices | .ipc _ | .sigint _ | .join => True

instance (worker : AvahiShutdown.Worker) : Decidable worker.Replacing :=
  match worker with
  | .resetting | .deleting _ | .clearing _ | .creating => isTrue trivial
  | .testing | .starting _ | .looping _ | .returned => isFalse id

instance (orchestrator : CStartupOrchestrator) (label : Label) :
    Decidable (ReadsCarefully orchestrator label) :=
  match label with
  | .call _ => inferInstanceAs (Decidable (_ = _ → _ = _ → ¬ _))
  | .grpc | .avahi _ | .stdin _ | .getDevices | .ipc _ | .sigint _ | .join => isTrue trivial

def ServerTold (orchestrator : CStartupOrchestrator) : Prop :=
  orchestrator.grpcShutdown = true ∨ orchestrator.grpcServer = false

def Done (orchestrator : CStartupOrchestrator) (call : Nat) : Call → Prop
  | .notMade | .entered | .stoppingServer => True
  | .stoppingAvahi => ServerTold orchestrator
  | .stoppingStdin => ServerTold orchestrator ∧
      orchestrator.avahiService.calls call = .returned
  | .stoppingIpc => ServerTold orchestrator ∧
      orchestrator.avahiService.calls call = .returned ∧
      orchestrator.stdinWorker.readStdin = false
  | .returned => ServerTold orchestrator ∧
      orchestrator.avahiService.calls call = .returned ∧
      orchestrator.stdinWorker.readStdin = false ∧ orchestrator.ipc.shutdown = true

def Accepts (ipc : CIPC) : Prop := ipc.place = .accepting → ipc.queue ≠ []

structure Orderly (orchestrator : CStartupOrchestrator) : Prop where
  calls : ∀ call, Done orchestrator call (orchestrator.calls call)
  server : orchestrator.grpcServer = false → orchestrator.grpcWorker = .returned
  heeded : AvahiShutdown.Heeded orchestrator.avahiService
  accepts : Accepts orchestrator.ipc
  joined : orchestrator.joined ≤ 5

variable {orchestrator next : CStartupOrchestrator} {label : Label} {capacity : Nat}

/-- What the workers have been told stays told. -/
structure Keeps (orchestrator next : CStartupOrchestrator) : Prop where
  server : ServerTold orchestrator → ServerTold next
  avahi : ∀ call, orchestrator.avahiService.calls call = .returned →
    next.avahiService.calls call = .returned
  stdin : orchestrator.stdinWorker.readStdin = false → next.stdinWorker.readStdin = false
  ipc : orchestrator.ipc.shutdown = true → next.ipc.shutdown = true

theorem done_of_keeps (keeps : Keeps orchestrator next) (call : Nat) (place : Call)
    (done : Done orchestrator call place) : Done next call place := by
  cases place with
  | notMade | entered | stoppingServer => trivial
  | stoppingAvahi => exact keeps.server done
  | stoppingStdin => exact ⟨keeps.server done.1, keeps.avahi call done.2⟩
  | stoppingIpc =>
      exact ⟨keeps.server done.1, keeps.avahi call done.2.1, keeps.stdin done.2.2⟩
  | returned =>
      exact ⟨keeps.server done.1, keeps.avahi call done.2.1, keeps.stdin done.2.2.1,
        keeps.ipc done.2.2.2⟩

theorem avahi_workerStep_calls {avahi after : CAutoRestartableAvahiService}
    (taken : AvahiShutdown.workerStep avahi = .ok after) : after.calls = avahi.calls := by
  unfold AvahiShutdown.workerStep at taken
  (repeat' split at taken) <;> cases taken <;> rfl

theorem moveCall_keeps_returned {avahi : CAutoRestartableAvahiService} {call other : Nat}
    (place : AvahiShutdown.Call) (returned : avahi.calls call = .returned)
    (elsewhere : avahi.calls other ≠ .returned) :
    (AvahiShutdown.moveCall avahi other place).calls call = .returned := by
  have different : call ≠ other := by
    rintro rfl
    exact elsewhere returned
  simpa [AvahiShutdown.moveCall, Function.update_of_ne different] using returned

theorem avahi_keeps_returned {avahi after : CAutoRestartableAvahiService}
    {inner : AvahiShutdown.Label} (call : Nat) (returned : avahi.calls call = .returned)
    (taken : AvahiShutdown.step avahi inner = .ok after) : after.calls call = .returned := by
  cases inner with
  | worker => rwa [avahi_workerStep_calls taken]
  | clientFails | daemonFails =>
      simp only [AvahiShutdown.step] at taken
      split at taken <;> cases taken
      exact returned
  | setFlag other =>
      simp only [AvahiShutdown.step] at taken
      split at taken
      next place =>
        cases taken
        exact moveCall_keeps_returned .flagSet returned (by simp [place])
      next => cases taken
  | readPointer other =>
      simp only [AvahiShutdown.step] at taken
      split at taken
      next place =>
        split at taken <;> cases taken <;>
          exact moveCall_keeps_returned _ returned (by simp [place])
      next => cases taken
  | quit other =>
      simp only [AvahiShutdown.step] at taken
      split at taken
      next service place =>
        split at taken <;> cases taken
        exact moveCall_keeps_returned .returned returned (by simp [place])
      next => cases taken

theorem stdin_keeps_stopped {worker after : SStdinWorker} {inner : StdinWorker.Label}
    (stopped : worker.readStdin = false)
    (taken : StdinWorker.step capacity worker inner = .ok after) : after.readStdin = false := by
  cases inner <;>
    simp only [StdinWorker.step, StdinWorker.workerStep, StdinWorker.readStep,
      StdinWorker.take] at taken <;>
    (repeat' split at taken) <;> cases taken <;> first | exact stopped | rfl

theorem ipc_keeps_shutdown {ipc after : CIPC} {inner : IpcServer.Label}
    (told : ipc.shutdown = true) (taken : IpcServer.step ipc inner = .ok after) :
    after.shutdown = true := by
  cases inner <;>
    simp only [IpcServer.step, IpcServer.workerStep, IpcServer.readStep,
      CIPC.setClient] at taken <;>
    (repeat' split at taken) <;> cases taken <;> first | exact told | rfl

theorem ipc_accepts {ipc after : CIPC} {inner : IpcServer.Label} (accepts : Accepts ipc)
    (taken : IpcServer.step ipc inner = .ok after) : Accepts after := by
  cases inner with
  | worker =>
      simp only [IpcServer.step, IpcServer.workerStep, IpcServer.readStep,
        CIPC.setClient] at taken
      (repeat' split at taken) <;> cases taken <;> intro accepting <;> cases accepting
      assumption
  | connect =>
      cases taken
      intro _ none
      exact absurd (List.append_eq_nil_iff.mp none).2 (List.cons_ne_nil _ _)
  | shutdown =>
      cases taken
      exact accepts
  | send | receive | hangUp =>
      simp only [IpcServer.step, CIPC.setClient] at taken
      split at taken <;> cases taken
      exact accepts
  | socketFails | pollEnds | acceptFails | readFails =>
      simp only [IpcServer.step] at taken
      split at taken <;> cases taken
      intro accepting
      cases accepting

theorem keeps_moveCall (call : Nat) (place : Call) :
    Keeps orchestrator (moveCall orchestrator call place) :=
  ⟨id, fun _ => id, id, id⟩

theorem avahiStep_keeps (inner : AvahiShutdown.Label)
    (taken : avahiStep orchestrator inner = .ok next) : Keeps orchestrator next := by
  unfold avahiStep at taken
  split at taken
  next after moved =>
    cases taken
    exact ⟨id, fun call returned => avahi_keeps_returned call returned moved, id, id⟩
  next => cases taken

theorem stdinStep_keeps (inner : StdinWorker.Label)
    (taken : stdinStep orchestrator capacity inner = .ok next) : Keeps orchestrator next := by
  unfold stdinStep at taken
  split at taken
  next after moved =>
    cases taken
    exact ⟨id, fun _ => id, fun stopped => stdin_keeps_stopped stopped moved, id⟩
  next => cases taken

theorem ipcStep_keeps (inner : IpcServer.Label)
    (taken : ipcStep orchestrator inner = .ok next) : Keeps orchestrator next := by
  unfold ipcStep at taken
  split at taken
  next after moved =>
    cases taken
    exact ⟨id, fun _ => id, id, fun told => ipc_keeps_shutdown told moved⟩
  next => cases taken

theorem orderly_of_call (orderly : Orderly orchestrator) (keeps : Keeps orchestrator next)
    (call : Nat) (place : Call)
    (calls : next.calls = Function.update orchestrator.calls call place)
    (done : Done next call place)
    (server : next.grpcServer = orchestrator.grpcServer)
    (worker : next.grpcWorker = orchestrator.grpcWorker)
    (heeded : AvahiShutdown.Heeded next.avahiService) (accepts : Accepts next.ipc)
    (joined : next.joined = orchestrator.joined) : Orderly next where
  calls other := by
    rw [calls]
    by_cases same : other = call
    · subst same
      simpa using done
    · rw [Function.update_of_ne same]
      exact done_of_keeps keeps other _ (orderly.calls other)
  server := by
    rw [server, worker]
    exact orderly.server
  heeded := heeded
  accepts := accepts
  joined := joined ▸ orderly.joined

theorem orderly_of_same (orderly : Orderly orchestrator) (keeps : Keeps orchestrator next)
    (calls : next.calls = orchestrator.calls)
    (server : next.grpcServer = orchestrator.grpcServer)
    (worker : next.grpcWorker = orchestrator.grpcWorker)
    (heeded : AvahiShutdown.Heeded next.avahiService) (accepts : Accepts next.ipc)
    (joined : next.joined = orchestrator.joined) : Orderly next := by
  apply orderly_of_call orderly keeps 0 (orchestrator.calls 0) _ _ server worker heeded accepts
    joined
  · rw [calls, Function.update_eq_self]
  · exact done_of_keeps keeps 0 _ (orderly.calls 0)

theorem avahiStep_orderly (inner : AvahiShutdown.Label) (orderly : Orderly orchestrator)
    (careful : AvahiShutdown.Careful orchestrator.avahiService inner)
    (taken : avahiStep orchestrator inner = .ok next) : Orderly next := by
  have keeps := avahiStep_keeps inner taken
  have heeded := AvahiShutdown.step_heeded inner orderly.heeded careful
  unfold avahiStep at taken
  split at taken
  next after moved =>
    cases taken
    rw [moved] at heeded
    exact orderly_of_same orderly keeps rfl rfl rfl heeded orderly.accepts rfl
  next => cases taken

theorem stdinStep_orderly (inner : StdinWorker.Label) (orderly : Orderly orchestrator)
    (taken : stdinStep orchestrator capacity inner = .ok next) : Orderly next := by
  have keeps := stdinStep_keeps inner taken
  unfold stdinStep at taken
  split at taken
  next =>
    cases taken
    exact orderly_of_same orderly keeps rfl rfl rfl orderly.heeded orderly.accepts rfl
  next => cases taken

theorem ipcStep_orderly (inner : IpcServer.Label) (orderly : Orderly orchestrator)
    (taken : ipcStep orchestrator inner = .ok next) : Orderly next := by
  have keeps := ipcStep_keeps inner taken
  unfold ipcStep at taken
  split at taken
  next after moved =>
    cases taken
    exact orderly_of_same orderly keeps rfl rfl rfl orderly.heeded
      (ipc_accepts orderly.accepts moved) rfl
  next => cases taken

theorem moveCall_orderly (call : Nat) (place : Call) (orderly : Orderly orchestrator)
    (done : Done orchestrator call place) : Orderly (moveCall orchestrator call place) :=
  orderly_of_call orderly (keeps_moveCall call place) call place rfl
    (done_of_keeps (keeps_moveCall call place) call place done) rfl rfl orderly.heeded
    orderly.accepts rfl

theorem callStep_orderly (call : Nat) (orderly : Orderly orchestrator)
    (careful : ReadsCarefully orchestrator (.call call))
    (taken : callStep orchestrator capacity call = .ok next) : Orderly next := by
  have done := orderly.calls call
  unfold callStep at taken
  cases place : orchestrator.calls call with
  | notMade | returned =>
      rw [place] at taken
      cases taken
  | entered =>
      rw [place] at taken
      dsimp only at taken
      split at taken
      next =>
        cases taken
        exact moveCall_orderly call .stoppingServer orderly trivial
      next gone =>
        cases taken
        exact moveCall_orderly call .stoppingAvahi orderly (.inr (by simpa using gone))
  | stoppingServer =>
      rw [place] at taken
      dsimp only at taken
      split at taken
      next =>
        cases taken
        have keeps : Keeps orchestrator
            { moveCall orchestrator call .stoppingAvahi with grpcShutdown := true } :=
          ⟨fun _ => .inl rfl, fun _ => id, id, id⟩
        exact orderly_of_call orderly keeps call .stoppingAvahi rfl (.inl rfl) rfl rfl
          orderly.heeded orderly.accepts rfl
      next => cases taken
  | stoppingAvahi =>
      rw [place] at taken done
      dsimp only at taken
      split at taken
      · exact avahiStep_orderly (.setFlag call) orderly trivial taken
      · exact avahiStep_orderly (.readPointer call) orderly (careful place) taken
      · exact avahiStep_orderly (.quit call) orderly trivial taken
      next returned =>
        cases taken
        exact moveCall_orderly call .stoppingStdin orderly ⟨done, returned⟩
  | stoppingStdin =>
      rw [place] at taken done
      cases taken
      have keeps : Keeps orchestrator { moveCall orchestrator call .stoppingIpc with
          stdinWorker := { orchestrator.stdinWorker with readStdin := false } } :=
        ⟨id, fun _ => id, fun _ => rfl, id⟩
      exact orderly_of_call orderly keeps call .stoppingIpc rfl ⟨done.1, done.2, rfl⟩ rfl rfl
        orderly.heeded orderly.accepts rfl
  | stoppingIpc =>
      rw [place] at taken done
      cases taken
      have keeps : Keeps orchestrator { moveCall orchestrator call .returned with
          ipc := { orchestrator.ipc with shutdown := true } } :=
        ⟨id, fun _ => id, id, fun _ => rfl⟩
      exact orderly_of_call orderly keeps call .returned rfl
        ⟨done.1, done.2.1, done.2.2, rfl⟩ rfl rfl orderly.heeded orderly.accepts rfl

theorem stdinWorkerStep_orderly (inner : StdinWorker.Label) (orderly : Orderly orchestrator)
    (taken : stdinWorkerStep orchestrator capacity inner = .ok next) : Orderly next := by
  unfold stdinWorkerStep at taken
  split at taken
  · split at taken
    · cases taken
      exact moveCall_orderly 0 .entered orderly trivial
    · exact stdinStep_orderly _ orderly taken
    · cases taken
  · exact stdinStep_orderly _ orderly taken

theorem step_orderly (orderly : Orderly orchestrator) (careful : ReadsCarefully orchestrator label)
    (taken : step capacity orchestrator label = .ok next) : Orderly next := by
  cases label with
  | grpc =>
      simp only [step, grpcStep] at taken
      split at taken
      next =>
        split at taken
        next => cases taken
        next present =>
          split at taken
          next =>
            cases taken
            refine ⟨fun call => orderly.calls call, fun gone => ?_, orderly.heeded, orderly.accepts,
              orderly.joined⟩
            exact absurd gone (by simpa using present)
          next => cases taken
      next =>
        cases taken
        have keeps : Keeps orchestrator { orchestrator with
            grpcServer := false, grpcWorker := .returned } :=
          ⟨fun _ => .inr rfl, fun _ => id, id, id⟩
        exact ⟨fun call => done_of_keeps keeps call _ (orderly.calls call), fun _ => rfl,
          orderly.heeded, orderly.accepts,
              orderly.joined⟩
      next => cases taken
  | avahi inner =>
      cases inner with
      | worker | clientFails | daemonFails =>
          exact avahiStep_orderly _ orderly (by trivial) taken
      | setFlag | readPointer | quit => cases taken
  | stdin inner =>
      simp only [step] at taken
      split at taken
      · cases taken
      · exact stdinWorkerStep_orderly _ orderly taken
  | ipc inner =>
      simp only [step] at taken
      split at taken
      · cases taken
      · exact ipcStep_orderly _ orderly taken
  | sigint call =>
      simp only [step] at taken
      split at taken
      · cases taken
        exact moveCall_orderly call .entered orderly trivial
      · cases taken
  | call call => exact callStep_orderly call orderly careful taken
  | getDevices =>
      simp only [step] at taken
      split at taken
      · cases taken
      · cases taken
        exact ⟨orderly.calls, orderly.server, orderly.heeded, orderly.accepts,
              orderly.joined⟩
  | join =>
      simp only [step] at taken
      split at taken
      next returned =>
        cases taken
        refine ⟨orderly.calls, orderly.server, orderly.heeded, orderly.accepts, ?_⟩
        exact (List.getElem?_eq_some_iff.mp returned).1
      next => cases taken

theorem started_orderly (endWakes : Bool) (ipcCapacity : Nat) (port : Int32) :
    Orderly (started true endWakes ipcCapacity port) where
  calls _ := trivial
  server gone := by cases gone
  heeded := AvahiShutdown.initial_heeded
  accepts accepting := by cases accepting
  joined := Nat.zero_le 5

theorem call_moves (call : Nat) (fault : Fault)
    (stops : callStep orchestrator capacity call = .error fault) (blocks : Blocks fault) :
    orchestrator.calls call = .notMade ∨ orchestrator.calls call = .returned := by
  unfold callStep at stops
  cases place : orchestrator.calls call with
  | notMade => exact .inl rfl
  | returned => exact .inr rfl
  | entered | stoppingServer =>
      rw [place] at stops
      dsimp only at stops
      split at stops <;> cases stops
      all_goals cases blocks
  | stoppingAvahi =>
      rw [place] at stops
      dsimp only at stops
      cases inner : orchestrator.avahiService.calls call with
      | notMade | returned =>
          simp only [inner, avahiStep, AvahiShutdown.step] at stops
          cases stops
      | flagSet =>
          simp only [inner, avahiStep, AvahiShutdown.step] at stops
          cases pointer : orchestrator.avahiService.avahiService <;>
            simp only [pointer] at stops <;> cases stops
      | calling service =>
          simp only [inner, avahiStep, AvahiShutdown.step] at stops
          by_cases gone : service ∈ orchestrator.avahiService.deleted
          · simp only [gone, if_true] at stops
            cases stops
            cases blocks
          · simp only [gone, if_false] at stops
            cases stops
  | stoppingStdin | stoppingIpc =>
      rw [place] at stops
      cases stops

/-- `label` leads nowhere where every thread waits. -/
theorem stopped_of_halted (halted : Halted capacity orchestrator) (label : Label)
    (moves : Moves label = true) : ¬ ∃ after, step capacity orchestrator label = .ok after := by
  rintro ⟨after, taken⟩
  obtain ⟨fault, stops, _⟩ := halted label moves
  rw [taken] at stops
  cases stops

theorem grpc_of_halted (halted : Halted capacity orchestrator) (orderly : Orderly orchestrator)
    (told : ServerTold orchestrator) : orchestrator.grpcWorker = .returned := by
  have stopped := stopped_of_halted halted .grpc rfl
  cases place : orchestrator.grpcWorker with
  | returned => rfl
  | resetting => exact absurd ⟨_, by simp [step, grpcStep, place]; rfl⟩ stopped
  | waiting =>
      have present : orchestrator.grpcServer = true := by
        cases server : orchestrator.grpcServer with
        | true => rfl
        | false =>
            have ended := orderly.server server
            rw [place] at ended
            cases ended
      have asked : orchestrator.grpcShutdown = true := by
        rcases told with asked | gone
        · exact asked
        · rw [present] at gone
          cases gone
      exact absurd ⟨_, by simp [step, grpcStep, place, present, asked]; rfl⟩ stopped

theorem avahi_of_halted (halted : Halted capacity orchestrator) (orderly : Orderly orchestrator)
    (call : Nat) (told : orchestrator.avahiService.calls call = .returned) :
    orchestrator.avahiService.worker = .returned := by
  have stopped := stopped_of_halted halted (.avahi .worker) rfl
  have freed := AvahiShutdown.notStuck_of_heeded orderly.heeded call told
  simp only [step, avahiStep, AvahiShutdown.step, AvahiShutdown.workerStep] at stopped
  cases place : orchestrator.avahiService.worker with
  | returned => rfl
  | looping service =>
      have quit := freed service place
      simp [place, quit] at stopped
  | testing =>
      cases flag : orchestrator.avahiService.shutdown <;> simp [place, flag] at stopped
  | resetting =>
      cases pointer : orchestrator.avahiService.avahiService <;>
        simp [place, pointer] at stopped
  | deleting service | clearing service | creating | starting service =>
      simp [place] at stopped

theorem stdin_of_halted (halted : Halted capacity orchestrator)
    (free : ¬ HeldByLine orchestrator) : orchestrator.stdinWorker.place = .returned := by
  have works := stopped_of_halted halted (.stdin .worker) rfl
  have refills := stopped_of_halted halted (.stdin .refill) rfl
  have polls := stopped_of_halted halted (.stdin .pollEnds) rfl
  simp only [step, stdinWorkerStep, stdinStep, StdinWorker.step, StdinWorker.workerStep]
    at works refills polls
  cases place : orchestrator.stdinWorker.place with
  | returned => rfl
  | testing => cases flag : orchestrator.stdinWorker.readStdin <;> simp [place, flag] at works
  | polling => simp [place] at polls
  | reading =>
      exfalso
      cases read : StdinWorker.readStep orchestrator.stdinWorker with
      | ok after => simp [place, read] at works
      | error fault =>
          obtain ⟨line, waits⟩ := StdinWorker.readStep_blocked read
          by_cases empty : orchestrator.stdinWorker.kernel = []
          · exact free ⟨place, empty, waits empty, line⟩
          · simp [place, line, empty] at refills
  | obeying =>
      exfalso
      have stops := halted (.call 0) rfl
      obtain ⟨fault, stopped, blocks⟩ := stops
      rcases call_moves 0 fault stopped blocks with fresh | done
      · simp [place, fresh] at works
      · simp [place, done] at works

theorem ipc_of_halted (halted : Halted capacity orchestrator) (orderly : Orderly orchestrator)
    (told : orchestrator.ipc.shutdown = true) (free : ¬ HeldByClient orchestrator) :
    orchestrator.ipc.place = .returned := by
  have works := stopped_of_halted halted (.ipc .worker) rfl
  have polls := stopped_of_halted halted (.ipc .pollEnds) rfl
  simp only [step, ipcStep, IpcServer.step, IpcServer.workerStep] at works polls
  cases place : orchestrator.ipc.place with
  | returned => rfl
  | starting => simp [place] at works
  | testing => simp [place, told] at works
  | polling => simp [place] at polls
  | accepting =>
      obtain ⟨client, rest, waiting⟩ := List.exists_cons_of_ne_nil (orderly.accepts place)
      simp [place, waiting] at works
  | reading client =>
      exfalso
      cases unread : (orchestrator.ipc.clients client).unread with
      | cons first rest => simp [place, IpcServer.readStep, unread] at works
      | nil =>
          cases here : (orchestrator.ipc.clients client).connected with
          | true => exact free ⟨client, here, .inl ⟨place, unread⟩⟩
          | false => simp [place, IpcServer.readStep, unread, here] at works
  | answering client response =>
      exfalso
      cases here : (orchestrator.ipc.clients client).connected with
      | true =>
          by_cases room : (orchestrator.ipc.clients client).waiting < orchestrator.ipc.capacity
          · simp [place, here, room] at works
          · exact free ⟨client, here, .inr ⟨response, place, Nat.not_lt.mp room⟩⟩
      | false =>
          obtain ⟨fault, stopped, blocks⟩ := halted (.ipc .worker) rfl
          simp [step, ipcStep, IpcServer.step, IpcServer.workerStep, place, here] at stopped
          subst stopped
          cases blocks

/-- Behind a shutdown, threads that all wait have all returned and been joined, or the IPC
worker is held by a client, or the stdin worker by a line. -/
theorem finished_of_halted (halted : Halted capacity orchestrator)
    (orderly : Orderly orchestrator) (call : Nat)
    (returned : orchestrator.calls call = .returned)
    (free : ¬ HeldByClient orchestrator ∧ ¬ HeldByLine orchestrator) :
    orchestrator.joined = 5 := by
  have done := orderly.calls call
  rw [returned] at done
  obtain ⟨server, avahi, _, ipc⟩ := done
  have stopped := stopped_of_halted halted .join rfl
  have all : hasReturned orchestrator = List.replicate 5 true := by
    have devices : orchestrator.devicesFetched = true := by
      have fetched := stopped_of_halted halted .getDevices rfl
      cases flag : orchestrator.devicesFetched with
      | true => rfl
      | false => simp [step, flag] at fetched
    simp [hasReturned, stdin_of_halted halted free.2, grpc_of_halted halted orderly server,
      avahi_of_halted halted orderly call avahi, devices,
      ipc_of_halted halted orderly ipc free.1, List.replicate]
  simp only [step, all] at stopped
  by_contra unfinished
  have fewer : orchestrator.joined < 5 := Nat.lt_of_le_of_ne orderly.joined unfinished
  have next : (List.replicate 5 true)[orchestrator.joined]? = some true := by
    rw [List.getElem?_replicate, if_pos fewer]
  exact stopped ⟨_, if_pos next⟩

end Completion

end SaneInTheMembrane.ServerLifecycle

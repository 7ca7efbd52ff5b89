import SaneInTheMembrane.AvahiShutdown
import SaneInTheMembrane.IpcServer
import SaneInTheMembrane.StdinWorker

/-!
server/src/StartupOrchestrator.cpp: `CStartupOrchestrator`. Five workers run until
`init_shutdown` has told each of them to end; the stdin worker and the handler of
SIGINT call it, and `wait` joins the workers. The calls and the worker that destroys
the gRPC server use its pointer without a lock.
-/

namespace SaneInTheMembrane.ServerLifecycle

open AvahiShutdown (CAutoRestartableAvahiService)
open IpcServer (CIPC)
open StdinWorker (SStdinWorker)

section Model

inductive SGrpcServerWorker where
  | waiting
  | resetting
  | returned
  deriving DecidableEq, Repr

inductive Call where
  | notMade
  | entered
  | stoppingServer
  | stoppingAvahi
  | stoppingStdin
  | stoppingIpc
  | returned
  deriving DecidableEq, Repr

/-- `grpcServer` tells whether `m_grpc_server` points to a server, and `grpcShutdown`
whether that server was told to shut down. Call 0 is the one of the stdin worker. -/
structure CStartupOrchestrator where
  grpcServer : Bool
  grpcShutdown : Bool := false
  grpcWorker : SGrpcServerWorker := .waiting
  avahiService : CAutoRestartableAvahiService := {}
  stdinWorker : SStdinWorker
  devicesFetched : Bool := false
  ipc : CIPC
  calls : Nat → Call := fun _ => .notMade
  joined : Nat := 0

/-- `BuildAndStart` returns no server where it cannot bind. -/
def started (built endWakes : Bool) (ipcCapacity : Nat) (port : Int32) :
    CStartupOrchestrator where
  grpcServer := built
  stdinWorker := StdinWorker.initial endWakes
  ipc := IpcServer.started ipcCapacity port

inductive Label where
  | grpc
  | avahi (label : AvahiShutdown.Label)
  | stdin (label : StdinWorker.Label)
  | getDevices
  | ipc (label : IpcServer.Label)
  | sigint (call : Nat)
  | call (call : Nat)
  | join
  deriving DecidableEq, Repr

/-- `destroyedServer` is a use of the gRPC server that was destroyed, and
`nullServer` of one that was never built. -/
inductive Fault where
  | blocked
  | nullServer
  | destroyedServer
  | avahi (fault : AvahiShutdown.Fault)
  | stdin (fault : StdinWorker.Fault)
  | ipc (fault : IpcServer.Fault)
  deriving DecidableEq, Repr

def moveCall (orchestrator : CStartupOrchestrator) (call : Nat) (place : Call) :
    CStartupOrchestrator :=
  { orchestrator with calls := Function.update orchestrator.calls call place }

def grpcStep (orchestrator : CStartupOrchestrator) : Except Fault CStartupOrchestrator :=
  match orchestrator.grpcWorker with
  | .waiting =>
      if ¬ orchestrator.grpcServer then .error .nullServer
      else if orchestrator.grpcShutdown then .ok { orchestrator with grpcWorker := .resetting }
      else .error .blocked
  | .resetting => .ok { orchestrator with grpcServer := false, grpcWorker := .returned }
  | .returned => .error .blocked

def avahiStep (orchestrator : CStartupOrchestrator) (label : AvahiShutdown.Label) :
    Except Fault CStartupOrchestrator :=
  match AvahiShutdown.step orchestrator.avahiService label with
  | .ok next => .ok { orchestrator with avahiService := next }
  | .error fault => .error (.avahi fault)

def stdinStep (orchestrator : CStartupOrchestrator) (capacity : Nat)
    (label : StdinWorker.Label) : Except Fault CStartupOrchestrator :=
  match StdinWorker.step capacity orchestrator.stdinWorker label with
  | .ok next => .ok { orchestrator with stdinWorker := next }
  | .error fault => .error (.stdin fault)

def ipcStep (orchestrator : CStartupOrchestrator) (label : IpcServer.Label) :
    Except Fault CStartupOrchestrator :=
  match IpcServer.step orchestrator.ipc label with
  | .ok next => .ok { orchestrator with ipc := next }
  | .error fault => .error (.ipc fault)

def callStep (orchestrator : CStartupOrchestrator) (capacity call : Nat) :
    Except Fault CStartupOrchestrator :=
  match orchestrator.calls call with
  | .notMade | .returned => .error .blocked
  | .entered =>
      if orchestrator.grpcServer then .ok (moveCall orchestrator call .stoppingServer)
      else .ok (moveCall orchestrator call .stoppingAvahi)
  | .stoppingServer =>
      if orchestrator.grpcServer then
        .ok { moveCall orchestrator call .stoppingAvahi with grpcShutdown := true }
      else .error .destroyedServer
  | .stoppingAvahi =>
      match orchestrator.avahiService.calls call with
      | .notMade => avahiStep orchestrator (.setFlag call)
      | .flagSet => avahiStep orchestrator (.readPointer call)
      | .calling _ => avahiStep orchestrator (.quit call)
      | .returned => .ok (moveCall orchestrator call .stoppingStdin)
  | .stoppingStdin => stdinStep (moveCall orchestrator call .stoppingIpc) capacity .stopReading
  | .stoppingIpc => ipcStep (moveCall orchestrator call .returned) .shutdown

def stdinWorkerStep (orchestrator : CStartupOrchestrator) (capacity : Nat)
    (label : StdinWorker.Label) : Except Fault CStartupOrchestrator :=
  if label = .worker ∧ orchestrator.stdinWorker.place = .obeying then
    match orchestrator.calls 0 with
    | .notMade => .ok (moveCall orchestrator 0 .entered)
    | .returned => stdinStep orchestrator capacity .worker
    | _ => .error .blocked
  else stdinStep orchestrator capacity label

def hasReturned (orchestrator : CStartupOrchestrator) : List Bool :=
  [orchestrator.stdinWorker.place = .returned, orchestrator.grpcWorker = .returned,
    orchestrator.avahiService.worker = .returned, orchestrator.devicesFetched,
    orchestrator.ipc.place = .returned]

def step (capacity : Nat) (orchestrator : CStartupOrchestrator) :
    Label → Except Fault CStartupOrchestrator
  | .grpc => grpcStep orchestrator
  | .avahi label =>
      match label with
      | .worker | .clientFails | .daemonFails => avahiStep orchestrator label
      | .setFlag _ | .readPointer _ | .quit _ => .error .blocked
  | .stdin label =>
      match label with
      | .stopReading => .error .blocked
      | _ => stdinWorkerStep orchestrator capacity label
  | .getDevices =>
      if orchestrator.devicesFetched then .error .blocked
      else .ok { orchestrator with devicesFetched := true }
  | .ipc label =>
      match label with
      | .shutdown => .error .blocked
      | _ => ipcStep orchestrator label
  -- `wait` forgets the instance when it has joined all workers.
  | .sigint call =>
      if 0 < call ∧ orchestrator.calls call = .notMade ∧
          orchestrator.joined < (hasReturned orchestrator).length then
        .ok (moveCall orchestrator call .entered)
      else .error .blocked
  | .call call => callStep orchestrator capacity call
  | .join =>
      if (hasReturned orchestrator)[orchestrator.joined]? = some true then
        .ok { orchestrator with joined := orchestrator.joined + 1 }
      else .error .blocked

end Model

section Server
variable {orchestrator next : CStartupOrchestrator} {label : Label} {capacity : Nat}

/-- No call has found the server and not yet told it what is gone by now. -/
def Unharmed (orchestrator : CStartupOrchestrator) : Prop :=
  ∀ call, orchestrator.calls call = .stoppingServer → orchestrator.grpcServer = true

def NotDestroyed (fault : Fault) : Prop := fault ≠ .destroyedServer

/-- The worker does not destroy the server between the test of a call and its use. -/
def Careful (orchestrator : CStartupOrchestrator) : Label → Prop
  | .grpc => orchestrator.grpcWorker = .resetting →
      ∀ call, orchestrator.calls call ≠ .stoppingServer
  | .avahi _ | .stdin _ | .getDevices | .ipc _ | .sigint _ | .call _ | .join => True

theorem unharmed_of_same (unharmed : Unharmed orchestrator)
    (calls : next.calls = orchestrator.calls)
    (server : next.grpcServer = orchestrator.grpcServer) : Unharmed next := by
  intro call stopping
  rw [server]
  exact unharmed call (calls ▸ stopping)

theorem moveCall_unharmed (call : Nat) (place : Call) (unharmed : Unharmed orchestrator)
    (found : place = .stoppingServer → orchestrator.grpcServer = true) :
    Unharmed (moveCall orchestrator call place) := by
  intro other stopping
  by_cases same : other = call
  · subst same
    apply found
    simpa [moveCall] using stopping
  · apply unharmed other
    simpa [moveCall, Function.update_of_ne same] using stopping

theorem avahiStep_ends (inner : AvahiShutdown.Label) (unharmed : Unharmed orchestrator) :
    Runs.Ends Unharmed NotDestroyed (avahiStep orchestrator inner) := by
  unfold avahiStep
  split
  · exact unharmed_of_same unharmed rfl rfl
  · exact Fault.noConfusion

theorem stdinStep_ends (inner : StdinWorker.Label) (unharmed : Unharmed orchestrator) :
    Runs.Ends Unharmed NotDestroyed (stdinStep orchestrator capacity inner) := by
  unfold stdinStep
  split
  · exact unharmed_of_same unharmed rfl rfl
  · exact Fault.noConfusion

theorem ipcStep_ends (inner : IpcServer.Label) (unharmed : Unharmed orchestrator) :
    Runs.Ends Unharmed NotDestroyed (ipcStep orchestrator inner) := by
  unfold ipcStep
  split
  · exact unharmed_of_same unharmed rfl rfl
  · exact Fault.noConfusion

theorem callStep_ends (call : Nat) (unharmed : Unharmed orchestrator) :
    Runs.Ends Unharmed NotDestroyed (callStep orchestrator capacity call) := by
  unfold callStep
  cases place : orchestrator.calls call with
  | notMade | returned => exact Fault.noConfusion
  | entered =>
      dsimp only
      split
      next found => exact moveCall_unharmed call _ unharmed fun _ => found
      next => exact moveCall_unharmed call _ unharmed Call.noConfusion
  | stoppingServer =>
      have found := unharmed call place
      have moved : Unharmed (moveCall orchestrator call .stoppingAvahi) :=
        moveCall_unharmed call _ unharmed Call.noConfusion
      simp only [found, if_true]
      exact unharmed_of_same moved rfl rfl
  | stoppingAvahi =>
      dsimp only
      split
      · exact avahiStep_ends _ unharmed
      · exact avahiStep_ends _ unharmed
      · exact avahiStep_ends _ unharmed
      · exact moveCall_unharmed call _ unharmed Call.noConfusion
  | stoppingStdin =>
      exact stdinStep_ends _ (moveCall_unharmed call _ unharmed Call.noConfusion)
  | stoppingIpc => exact ipcStep_ends _ (moveCall_unharmed call _ unharmed Call.noConfusion)

theorem stdinWorkerStep_ends (inner : StdinWorker.Label) (unharmed : Unharmed orchestrator) :
    Runs.Ends Unharmed NotDestroyed (stdinWorkerStep orchestrator capacity inner) := by
  unfold stdinWorkerStep
  split
  · split
    · exact moveCall_unharmed 0 _ unharmed Call.noConfusion
    · exact stdinStep_ends _ unharmed
    · exact Fault.noConfusion
  · exact stdinStep_ends _ unharmed

theorem step_unharmed (unharmed : Unharmed orchestrator) (careful : Careful orchestrator label) :
    Runs.Ends Unharmed NotDestroyed (step capacity orchestrator label) := by
  cases label with
  | grpc =>
      simp only [step, grpcStep]
      cases place : orchestrator.grpcWorker with
      | waiting =>
          dsimp only
          split
          · exact Fault.noConfusion
          · split
            · exact unharmed_of_same unharmed rfl rfl
            · exact Fault.noConfusion
      | resetting =>
          intro call stopping
          exact absurd stopping (careful place call)
      | returned => exact Fault.noConfusion
  | avahi inner =>
      simp only [step]
      split
      all_goals first
        | exact avahiStep_ends _ unharmed
        | exact Fault.noConfusion
  | stdin inner =>
      simp only [step]
      split
      · exact Fault.noConfusion
      · exact stdinWorkerStep_ends _ unharmed
  | ipc inner =>
      simp only [step]
      split
      · exact Fault.noConfusion
      · exact ipcStep_ends _ unharmed
  | sigint call =>
      simp only [step]
      split
      · exact moveCall_unharmed call _ unharmed Call.noConfusion
      · exact Fault.noConfusion
  | call call => exact callStep_ends call unharmed
  | getDevices =>
      simp only [step]
      split
      · exact Fault.noConfusion
      · exact unharmed_of_same unharmed rfl rfl
  | join =>
      simp only [step]
      split
      · exact unharmed_of_same unharmed rfl rfl
      · exact Fault.noConfusion

/-- No call of `init_shutdown` uses a destroyed server, nor is about to, in exactly the runs
in which the worker destroys it while no call is between its test and its use. -/
theorem server_outlives_calls_iff (capacity ipcCapacity : Nat) (built endWakes : Bool)
    (port : Int32) (labels : List Label) :
    (∀ front, front <+: labels → Runs.Ends Unharmed NotDestroyed
        (Runs.run (step capacity) (started built endWakes ipcCapacity port) front)) ↔
      Runs.Along (step capacity) Careful (started built endWakes ipcCapacity port) labels := by
  apply Runs.prefixes_end_iff Unharmed Unharmed NotDestroyed (fun _ => id)
    (fun _ _ => step_unharmed)
  · intro orchestrator label _ ends
    cases label with
    | grpc =>
        intro resetting call stopping
        simp only [step, grpcStep, resetting] at ends
        exact Bool.noConfusion (ends call stopping)
    | avahi | stdin | getDevices | ipc | sigint | call | join => trivial
  · intro call stopping
    cases stopping

end Server

end SaneInTheMembrane.ServerLifecycle

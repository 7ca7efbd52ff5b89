import SaneInTheMembrane.ServerHalting

/-!
`CStartupOrchestrator`: how many steps the workers have left once a call of
`init_shutdown` has returned. Only input from outside adds to them.
-/

namespace SaneInTheMembrane.ServerLifecycle

open AvahiShutdown (CAutoRestartableAvahiService)
open IpcServer (CIPC)
open StdinWorker (SStdinWorker)

section Bound

/-- Nothing more is typed, and no client sends anything. -/
def Quiet : Label → Prop
  | .ipc (.send _ _) | .stdin (.input _) => False
  | .ipc _ | .stdin _ | .grpc | .avahi _ | .getDevices | .sigint _ | .call _ | .join => True

/-- How many steps a worker has left, once it was told to end. -/
def grpcLeft : SGrpcServerWorker → Nat
  | .waiting => 2
  | .resetting => 1
  | .returned => 0

def avahiLeft : AvahiShutdown.Worker → Nat
  | .resetting => 7
  | .deleting _ => 6
  | .clearing _ => 5
  | .creating => 4
  | .starting _ => 3
  | .looping _ => 2
  | .testing => 1
  | .returned => 0

def stdinLeft (worker : SStdinWorker) (call : Call) : Nat :=
  match worker.place with
  | .polling => 4 + worker.kernel.length
  | .reading => 3 + worker.kernel.length
  | .obeying => if call = .notMade then 2 else 1
  | .testing => 1
  | .returned => 0

def devicesLeft : Bool → Nat
  | false => 1
  | true => 0

def unreadOf (ipc : CIPC) (client : Option IpcServer.ClientId) : Nat :=
  client.elim 0 fun client => (ipc.clients client).unread.length

def ipcLeft (ipc : CIPC) : Nat :=
  match ipc.place with
  | .polling => 4 + 2 * unreadOf ipc ipc.queue.head?
  | .accepting => 3 + 2 * unreadOf ipc ipc.queue.head?
  | .reading client => 2 + 2 * unreadOf ipc client
  | .answering client _ => 3 + 2 * unreadOf ipc client
  | .starting => 2
  | .testing => 1
  | .returned => 0

def left (orchestrator : CStartupOrchestrator) : Nat :=
  stdinLeft orchestrator.stdinWorker (orchestrator.calls 0) + grpcLeft orchestrator.grpcWorker +
    avahiLeft orchestrator.avahiService.worker + devicesLeft orchestrator.devicesFetched +
    ipcLeft orchestrator.ipc + (5 - orchestrator.joined)

def Fresh (ipc : CIPC) : Prop :=
  ∀ client, ipc.connections ≤ client → (ipc.clients client).unread = []

variable {capacity : Nat}

theorem ipc_fresh {ipc after : CIPC} {inner : IpcServer.Label} (fresh : Fresh ipc)
    (taken : IpcServer.step ipc inner = .ok after) : Fresh after := by
  intro client unknown
  have before : ipc.connections ≤ client := (IpcServer.connections_grow taken).trans unknown
  have empty := fresh client before
  have change := IpcServer.step_changes client taken
  unfold IpcServer.Changes at change
  generalize after.clients client = connection at change
  generalize IpcServer.outstanding client after.place = remaining at change
  cases change with
  | quiet | answered | received | hungUp => exact empty
  | took some => exact absurd empty some
  | sent bytes here =>
      simp only [IpcServer.step] at taken
      split at taken
      next known => exact absurd known.1 (Nat.not_lt.mpr before)
      next => cases taken

theorem unreadOf_congr {ipc after : CIPC} (client : Option IpcServer.ClientId)
    (same : ∀ client, (after.clients client).unread = (ipc.clients client).unread) :
    unreadOf after client = unreadOf ipc client := by
  cases client with
  | none => rfl
  | some client => exact congrArg List.length (same client)

theorem setClient_unread (ipc : CIPC) (client other : IpcServer.ClientId)
    (connection : IpcServer.Client)
    (same : connection.unread = (ipc.clients client).unread) :
    ((ipc.setClient client connection).clients other).unread = (ipc.clients other).unread := by
  by_cases here : other = client
  · subst here
    simpa [CIPC.setClient] using same
  · simp [CIPC.setClient, Function.update_of_ne here]

theorem ipcWorker_spends {ipc after : CIPC} (told : ipc.shutdown = true)
    (taken : IpcServer.workerStep ipc = .ok after) : ipcLeft after + 1 ≤ ipcLeft ipc := by
  unfold IpcServer.workerStep at taken
  cases place : ipc.place with
  | starting =>
      rw [place] at taken
      cases taken
      simp [ipcLeft, place]
  | testing =>
      rw [place] at taken
      simp only [told, if_true] at taken
      cases taken
      simp [ipcLeft, place]
  | polling =>
      rw [place] at taken
      dsimp only at taken
      split at taken <;> cases taken
      simp only [ipcLeft, place, unreadOf]
      omega
  | accepting =>
      rw [place] at taken
      cases queue : ipc.queue with
      | nil => simp [queue] at taken
      | cons client rest =>
          simp only [queue] at taken
          cases taken
          simp only [ipcLeft, place, queue, List.head?_cons, unreadOf]
          omega
  | reading client =>
      rw [place] at taken
      simp only [IpcServer.readStep] at taken
      split at taken
      next empty =>
        split at taken <;> cases taken
        simp only [ipcLeft, place]
        omega
      next first rest unread =>
        cases taken
        simp only [ipcLeft, place, unreadOf, Option.elim_some, CIPC.setClient,
          Function.update_self, unread, List.length_drop, List.length_cons]
        have read : 0 < IpcServer.readBufferSize := by simp [IpcServer.readBufferSize]
        omega
  | answering client response =>
      rw [place] at taken
      dsimp only at taken
      (repeat' split at taken) <;> cases taken
      simp only [ipcLeft, place, unreadOf, Option.elim_some, CIPC.setClient, Function.update_self]
      omega
  | returned =>
      rw [place] at taken
      cases taken

theorem ipcLeft_congr {ipc after : CIPC} (place : after.place = ipc.place)
    (queue : unreadOf after after.queue.head? = unreadOf ipc ipc.queue.head?)
    (same : ∀ client, (after.clients client).unread = (ipc.clients client).unread) :
    ipcLeft after = ipcLeft ipc := by
  have all := fun client => unreadOf_congr client same
  simp only [ipcLeft, place, queue, all]

theorem ipc_spends {ipc after : CIPC} {inner : IpcServer.Label} (fresh : Fresh ipc)
    (told : ipc.shutdown = true) (quiet : Quiet (.ipc inner))
    (taken : IpcServer.step ipc inner = .ok after) :
    ipcLeft after + (if Works (.ipc inner) then 1 else 0) ≤ ipcLeft ipc := by
  cases inner with
  | worker => exact ipcWorker_spends told taken
  | socketFails =>
      simp only [IpcServer.step] at taken
      split at taken
      next place =>
        cases taken
        simp [ipcLeft, place, Works]
      next => cases taken
  | pollEnds | acceptFails =>
      simp only [IpcServer.step] at taken
      split at taken
      next place =>
        cases taken
        simp only [ipcLeft, place, Works]
        simp
        omega
      next => cases taken
  | readFails =>
      simp only [IpcServer.step] at taken
      split at taken
      next place =>
        cases taken
        simp only [ipcLeft, place, Works]
        simp
        omega
      next => cases taken
  | connect =>
      cases taken
      have head : unreadOf ipc (ipc.queue ++ [ipc.connections]).head? =
          unreadOf ipc ipc.queue.head? := by
        cases queue : ipc.queue with
        | nil => simp [unreadOf, fresh ipc.connections (Nat.le_refl _)]
        | cons first rest => rfl
      have same : ipcLeft { ipc with
          connections := ipc.connections + 1
          queue := ipc.queue ++ [ipc.connections] } = ipcLeft ipc :=
        ipcLeft_congr rfl head fun _ => rfl
      exact same.le
  | send => cases quiet
  | receive receiver count =>
      simp only [IpcServer.step] at taken
      split at taken <;> cases taken
      have unread := fun other => setClient_unread ipc receiver other
        { ipc.clients receiver with received := (ipc.clients receiver).received + count } rfl
      have same : ipcLeft (ipc.setClient receiver { ipc.clients receiver with
          received := (ipc.clients receiver).received + count }) = ipcLeft ipc :=
        ipcLeft_congr rfl (unreadOf_congr _ unread) unread
      exact same.le
  | hangUp leaver =>
      simp only [IpcServer.step] at taken
      split at taken <;> cases taken
      have unread := fun other => setClient_unread ipc leaver other
        { ipc.clients leaver with connected := false } rfl
      have same : ipcLeft (ipc.setClient leaver
          { ipc.clients leaver with connected := false }) = ipcLeft ipc :=
        ipcLeft_congr rfl (unreadOf_congr _ unread) unread
      exact same.le
  | shutdown =>
      cases taken
      exact Nat.le_refl (ipcLeft ipc)

theorem avahi_spends {avahi after : CAutoRestartableAvahiService} {inner : AvahiShutdown.Label}
    (told : avahi.shutdown = true) (taken : AvahiShutdown.step avahi inner = .ok after) :
    avahiLeft after.worker + (if Works (.avahi inner) then 1 else 0) ≤ avahiLeft avahi.worker := by
  cases inner with
  | worker =>
      simp only [AvahiShutdown.step, AvahiShutdown.workerStep] at taken
      (repeat' split at taken) <;> cases taken <;> simp_all [Works, avahiLeft]
  | clientFails | daemonFails =>
      simp only [AvahiShutdown.step] at taken
      split at taken <;> cases taken
      simp_all [Works, avahiLeft]
  | setFlag | readPointer | quit =>
      simp only [AvahiShutdown.step] at taken
      (repeat' split at taken) <;> cases taken <;> simp [Works, AvahiShutdown.moveCall]

theorem take_left (worker : SStdinWorker) (input rest : List Char) (call : Call) :
    stdinLeft (StdinWorker.take worker input rest) call ≤ 2 := by
  cases command : StdinWorker.isStop input with
  | true =>
      simp only [stdinLeft, StdinWorker.take, command, if_true]
      split <;> omega
  | false => simp [stdinLeft, StdinWorker.take, command]

theorem stdin_spends {worker after : SStdinWorker} {inner : StdinWorker.Label} (call : Call)
    (room : 0 < capacity) (stopped : worker.readStdin = false) (quiet : Quiet (.stdin inner))
    (elsewhere : inner = .worker → worker.place ≠ .obeying)
    (taken : StdinWorker.step capacity worker inner = .ok after) :
    stdinLeft after call + (if Works (.stdin inner) then 1 else 0) ≤ stdinLeft worker call := by
  cases inner with
  | worker =>
      simp only [StdinWorker.step, StdinWorker.workerStep] at taken
      have moved := elsewhere rfl
      cases place : worker.place with
      | testing =>
          simp only [place, stopped] at taken
          cases taken
          simp [stdinLeft, place, Works]
      | polling =>
          simp only [place] at taken
          split at taken <;> cases taken
          simp only [stdinLeft, place, Works]
          simp
      | reading =>
          simp only [place, StdinWorker.readStep] at taken
          have left : stdinLeft worker call = 3 + worker.kernel.length := by
            simp [stdinLeft, place]
          have ends : stdinLeft after call ≤ 2 := by
            (repeat' split at taken) <;> cases taken
            · exact take_left _ _ _ _
            · exact Nat.zero_le 2
            · exact take_left _ _ _ _
          have one : (if Works (.stdin .worker) then 1 else 0) = 1 := rfl
          omega
      | obeying => exact absurd place moved
      | returned =>
          simp only [place] at taken
          cases taken
  | refill =>
      simp only [StdinWorker.step] at taken
      split at taken
      next begun =>
        cases taken
        have some : 0 < worker.kernel.length := List.length_pos_iff.mpr begun.2.2
        simp only [stdinLeft, begun.1, Works, List.length_drop]
        simp
        omega
      next => cases taken
  | pollEnds =>
      simp only [StdinWorker.step] at taken
      split at taken
      next polling =>
        cases taken
        simp only [stdinLeft, polling, Works]
        simp
        omega
      next => cases taken
  | input => cases quiet
  | endOfInput | stopReading =>
      cases taken
      exact Nat.le_refl (stdinLeft worker call)

variable {orchestrator next : CStartupOrchestrator} {label : Label}

theorem avahiStep_calls (inner : AvahiShutdown.Label)
    (taken : avahiStep orchestrator inner = .ok next) : next.calls = orchestrator.calls := by
  unfold avahiStep at taken
  split at taken <;> cases taken
  rfl

theorem stdinStep_calls (inner : StdinWorker.Label)
    (taken : stdinStep orchestrator capacity inner = .ok next) :
    next.calls = orchestrator.calls := by
  unfold stdinStep at taken
  split at taken <;> cases taken
  rfl

theorem ipcStep_calls (inner : IpcServer.Label)
    (taken : ipcStep orchestrator inner = .ok next) : next.calls = orchestrator.calls := by
  unfold ipcStep at taken
  split at taken <;> cases taken
  rfl

theorem callStep_calls (call : Nat) (taken : callStep orchestrator capacity call = .ok next) :
    orchestrator.calls call ≠ .notMade ∧ orchestrator.calls call ≠ .returned ∧
    ∃ place, place ≠ .notMade ∧ next.calls = Function.update orchestrator.calls call place := by
  unfold callStep at taken
  cases place : orchestrator.calls call with
  | notMade | returned =>
      rw [place] at taken
      cases taken
  | entered | stoppingServer =>
      rw [place] at taken
      dsimp only at taken
      refine ⟨Call.noConfusion, Call.noConfusion, ?_⟩
      split at taken <;> cases taken <;> exact ⟨_, Call.noConfusion, rfl⟩
  | stoppingAvahi =>
      rw [place] at taken
      dsimp only at taken
      refine ⟨Call.noConfusion, Call.noConfusion, ?_⟩
      split at taken
      case h_4 =>
        cases taken
        exact ⟨_, Call.noConfusion, rfl⟩
      all_goals
        refine ⟨orchestrator.calls call, by simp [place], ?_⟩
        rw [Function.update_eq_self, avahiStep_calls _ taken]
  | stoppingStdin =>
      rw [place] at taken
      refine ⟨Call.noConfusion, Call.noConfusion, .stoppingIpc, Call.noConfusion, ?_⟩
      rw [stdinStep_calls _ taken]
      rfl
  | stoppingIpc =>
      rw [place] at taken
      refine ⟨Call.noConfusion, Call.noConfusion, .returned, Call.noConfusion, ?_⟩
      rw [ipcStep_calls _ taken]
      rfl

theorem step_calls (taken : step capacity orchestrator label = .ok next) :
    next.calls = orchestrator.calls ∨
    ∃ call place, orchestrator.calls call ≠ .returned ∧
      next.calls = Function.update orchestrator.calls call place := by
  cases label with
  | grpc =>
      left
      simp only [step, grpcStep] at taken
      (repeat' split at taken) <;> cases taken <;> rfl
  | avahi inner =>
      left
      cases inner with
      | worker | clientFails | daemonFails => exact avahiStep_calls _ taken
      | setFlag | readPointer | quit => cases taken
  | stdin inner =>
      simp only [step] at taken
      split at taken
      next => cases taken
      next =>
        unfold stdinWorkerStep at taken
        split at taken
        next =>
          split at taken
          next fresh =>
            cases taken
            exact .inr ⟨0, .entered, by simp [fresh], rfl⟩
          next => exact .inl (stdinStep_calls _ taken)
          next => cases taken
        next => exact .inl (stdinStep_calls _ taken)
  | ipc inner =>
      left
      simp only [step] at taken
      split at taken
      next => cases taken
      next => exact ipcStep_calls _ taken
  | sigint call =>
      simp only [step] at taken
      split at taken
      next fresh =>
        cases taken
        exact .inr ⟨call, .entered, by simp [fresh.2.1], rfl⟩
      next => cases taken
  | call call =>
      obtain ⟨_, open_, place, _, moved⟩ := callStep_calls call taken
      exact .inr ⟨call, place, open_, moved⟩
  | getDevices | join =>
      left
      simp only [step] at taken
      (split at taken <;> cases taken); rfl

theorem returned_stays (call : Nat) (returned : orchestrator.calls call = .returned)
    (taken : step capacity orchestrator label = .ok next) : next.calls call = .returned := by
  rcases step_calls taken with same | ⟨other, place, unfinished, moved⟩
  · rwa [same]
  · have different : call ≠ other := by
      rintro rfl
      exact unfinished returned
    rwa [moved, Function.update_of_ne different]

theorem avahiStep_ipc (inner : AvahiShutdown.Label)
    (taken : avahiStep orchestrator inner = .ok next) : next.ipc = orchestrator.ipc := by
  unfold avahiStep at taken
  split at taken <;> cases taken
  rfl

theorem stdinStep_ipc (inner : StdinWorker.Label)
    (taken : stdinStep orchestrator capacity inner = .ok next) : next.ipc = orchestrator.ipc := by
  unfold stdinStep at taken
  split at taken <;> cases taken
  rfl

theorem ipcStep_inner (inner : IpcServer.Label)
    (taken : ipcStep orchestrator inner = .ok next) :
    IpcServer.step orchestrator.ipc inner = .ok next.ipc := by
  unfold ipcStep at taken
  split at taken
  next after moved =>
    cases taken
    exact moved
  next => cases taken

theorem callStep_ipc (call : Nat) (taken : callStep orchestrator capacity call = .ok next) :
    next.ipc = orchestrator.ipc ∨ IpcServer.step orchestrator.ipc .shutdown = .ok next.ipc := by
  unfold callStep at taken
  split at taken
  · cases taken
  · cases taken
  · left
    split at taken <;> cases taken <;> rfl
  · left
    split at taken <;> cases taken
    rfl
  · left
    split at taken
    · exact avahiStep_ipc _ taken
    · exact avahiStep_ipc _ taken
    · exact avahiStep_ipc _ taken
    · cases taken
      rfl
  · have same := stdinStep_ipc .stopReading taken
    exact .inl same
  · have moved := ipcStep_inner .shutdown taken
    exact .inr moved

theorem step_fresh (fresh : Fresh orchestrator.ipc)
    (taken : step capacity orchestrator label = .ok next) : Fresh next.ipc := by
  have unchanged : next.ipc = orchestrator.ipc → Fresh next.ipc := fun same => same ▸ fresh
  cases label with
  | grpc =>
      simp only [step, grpcStep] at taken
      (repeat' split at taken) <;> cases taken <;> exact fresh
  | avahi inner =>
      cases inner with
      | worker | clientFails | daemonFails => exact unchanged (avahiStep_ipc _ taken)
      | setFlag | readPointer | quit => cases taken
  | stdin inner =>
      simp only [step] at taken
      split at taken
      next => cases taken
      next =>
        unfold stdinWorkerStep at taken
        (repeat' split at taken) <;> first
          | exact unchanged (stdinStep_ipc _ taken)
          | cases taken; exact fresh
          | cases taken
  | ipc inner =>
      simp only [step] at taken
      split at taken
      next => cases taken
      next => exact ipc_fresh fresh (ipcStep_inner _ taken)
  | call call =>
      rcases callStep_ipc call taken with same | moved
      · exact unchanged same
      · exact ipc_fresh fresh moved
  | sigint | getDevices | join =>
      simp only [step] at taken
      split at taken <;> cases taken
      exact fresh

theorem stdinLeft_call (worker : SStdinWorker) (before after : Call) (made : after ≠ .notMade) :
    stdinLeft worker after ≤ stdinLeft worker before := by
  unfold stdinLeft
  split
  · exact Nat.le_refl _
  · exact Nat.le_refl _
  · rw [if_neg made]
    split <;> omega
  · exact Nat.le_refl _
  · exact Nat.le_refl _

theorem stdinLeft_update (worker : SStdinWorker) (calls : Nat → Call) (call : Nat) (place : Call)
    (made : place ≠ .notMade) :
    stdinLeft worker (Function.update calls call place 0) ≤ stdinLeft worker (calls 0) := by
  by_cases own : call = 0
  · subst own
    rw [Function.update_self]
    exact stdinLeft_call worker _ _ made
  · rw [Function.update_of_ne (Ne.symm own)]

theorem moveCall_left (call : Nat) (place : Call) (made : place ≠ .notMade) :
    left (moveCall orchestrator call place) ≤ left orchestrator := by
  have stdin := stdinLeft_update orchestrator.stdinWorker orchestrator.calls call place made
  simp only [left, moveCall]
  omega

theorem avahiStep_left (inner : AvahiShutdown.Label)
    (told : orchestrator.avahiService.shutdown = true)
    (taken : avahiStep orchestrator inner = .ok next) :
    left next + (if Works (.avahi inner) then 1 else 0) ≤ left orchestrator := by
  unfold avahiStep at taken
  split at taken
  next after moved =>
    cases taken
    have spent := avahi_spends told moved
    simp only [left]
    omega
  next => cases taken

theorem stdinStep_left (inner : StdinWorker.Label) (room : 0 < capacity)
    (stopped : orchestrator.stdinWorker.readStdin = false) (quiet : Quiet (.stdin inner))
    (elsewhere : inner = .worker → orchestrator.stdinWorker.place ≠ .obeying)
    (taken : stdinStep orchestrator capacity inner = .ok next) :
    left next + (if Works (.stdin inner) then 1 else 0) ≤ left orchestrator := by
  unfold stdinStep at taken
  split at taken
  next after moved =>
    cases taken
    have spent := stdin_spends (orchestrator.calls 0) room stopped quiet elsewhere moved
    simp only [left]
    omega
  next => cases taken

theorem ipcStep_left (inner : IpcServer.Label) (fresh : Fresh orchestrator.ipc)
    (told : orchestrator.ipc.shutdown = true) (quiet : Quiet (.ipc inner))
    (taken : ipcStep orchestrator inner = .ok next) :
    left next + (if Works (.ipc inner) then 1 else 0) ≤ left orchestrator := by
  unfold ipcStep at taken
  split at taken
  next after moved =>
    cases taken
    have spent := ipc_spends fresh told quiet moved
    simp only [left]
    omega
  next => cases taken

/-- What a shutdown that has returned told the workers. -/
structure Told (orchestrator : CStartupOrchestrator) : Prop where
  avahi : orchestrator.avahiService.shutdown = true
  stdin : orchestrator.stdinWorker.readStdin = false
  ipc : orchestrator.ipc.shutdown = true

theorem told_of_returned (orderly : Orderly orchestrator) (call : Nat)
    (returned : orchestrator.calls call = .returned) : Told orchestrator := by
  have done := orderly.calls call
  rw [returned] at done
  obtain ⟨_, avahi, stdin, ipc⟩ := done
  have fits := orderly.heeded.calls call
  rw [avahi] at fits
  exact ⟨fits.1, stdin, ipc⟩

theorem moveCall_told (call : Nat) (place : Call) (told : Told orchestrator) :
    Told (moveCall orchestrator call place) :=
  ⟨told.avahi, told.stdin, told.ipc⟩

theorem callStep_left (call : Nat) (room : 0 < capacity) (told : Told orchestrator)
    (fresh : Fresh orchestrator.ipc)
    (taken : callStep orchestrator capacity call = .ok next) : left next ≤ left orchestrator := by
  unfold callStep at taken
  split at taken
  · cases taken
  · cases taken
  · split at taken <;> cases taken
    · exact moveCall_left call _ Call.noConfusion
    · exact moveCall_left call _ Call.noConfusion
  · split at taken <;> cases taken
    have moved : left (moveCall orchestrator call .stoppingAvahi) ≤ left orchestrator :=
      moveCall_left call .stoppingAvahi Call.noConfusion
    simp only [left, moveCall] at moved ⊢
    exact moved
  · split at taken
    · exact avahiStep_left (.setFlag call) told.avahi taken
    · exact avahiStep_left (.readPointer call) told.avahi taken
    · exact avahiStep_left (.quit call) told.avahi taken
    · cases taken
      exact moveCall_left call _ Call.noConfusion
  · have moved : left (moveCall orchestrator call .stoppingIpc) ≤ left orchestrator :=
      moveCall_left call .stoppingIpc Call.noConfusion
    have stopped := (moveCall_told call .stoppingIpc told).stdin
    have spent := stdinStep_left .stopReading room stopped trivial (fun same => by cases same) taken
    exact Nat.le_trans spent moved
  · have moved : left (moveCall orchestrator call .returned) ≤ left orchestrator :=
      moveCall_left call .returned Call.noConfusion
    have asked := (moveCall_told call .returned told).ipc
    have unsent : Fresh (moveCall orchestrator call .returned).ipc := fresh
    have spent := ipcStep_left .shutdown unsent asked trivial taken
    exact Nat.le_trans spent moved

theorem stdinWorkerStep_left (inner : StdinWorker.Label) (room : 0 < capacity)
    (told : Told orchestrator) (quiet : Quiet (.stdin inner))
    (taken : stdinWorkerStep orchestrator capacity inner = .ok next) :
    left next + (if Works (.stdin inner) then 1 else 0) ≤ left orchestrator := by
  unfold stdinWorkerStep at taken
  split at taken
  next obeys =>
    obtain ⟨rfl, obeying⟩ := obeys
    split at taken
    next fresh =>
      cases taken
      simp [left, stdinLeft, moveCall, obeying, fresh, Works]
    next done =>
      simp only [stdinStep, StdinWorker.step, StdinWorker.workerStep, obeying] at taken
      cases taken
      simp [left, stdinLeft, obeying, done, Works]
    next => cases taken
  next other =>
    apply stdinStep_left inner room told.stdin quiet _ taken
    rintro rfl obeying
    exact other ⟨rfl, obeying⟩

/-- Each step of a worker is one less to take, and nothing that happens meanwhile adds to
them, except input. -/
theorem step_pays (room : 0 < capacity) (told : Told orchestrator)
    (fresh : Fresh orchestrator.ipc) (quiet : Quiet label)
    (taken : step capacity orchestrator label = .ok next) :
    left next + (if Works label then 1 else 0) ≤ left orchestrator := by
  cases label with
  | grpc =>
      simp only [step, grpcStep] at taken
      split at taken
      next place =>
        (repeat' split at taken) <;> cases taken
        simp only [left, grpcLeft, place, Works, if_true]
        omega
      next place =>
        cases taken
        simp only [left, grpcLeft, place, Works, if_true]
        omega
      next => cases taken
  | avahi inner =>
      cases inner with
      | worker | clientFails | daemonFails => exact avahiStep_left _ told.avahi taken
      | setFlag | readPointer | quit => cases taken
  | stdin inner =>
      simp only [step] at taken
      split at taken
      next => cases taken
      next => exact stdinWorkerStep_left inner room told quiet taken
  | ipc inner =>
      simp only [step] at taken
      split at taken
      next => cases taken
      next => exact ipcStep_left inner fresh told.ipc quiet taken
  | call call => exact callStep_left call room told fresh taken
  | sigint call =>
      simp only [step] at taken
      split at taken <;> cases taken
      exact moveCall_left call .entered Call.noConfusion
  | getDevices =>
      simp only [step] at taken
      split at taken
      next => cases taken
      next waits =>
        cases taken
        have one : orchestrator.devicesFetched = false := by simpa using waits
        simp only [left, one, devicesLeft, Works, if_true]
        omega
  | join =>
      simp only [step] at taken
      split at taken
      next returned =>
        cases taken
        have fewer : orchestrator.joined < 5 := (List.getElem?_eq_some_iff.mp returned).1
        simp only [left, Works, if_true]
        omega
      next => cases taken

/-- A shutdown comes to its end. Behind a call that has returned, with nothing more typed or
sent, the workers and `wait` take a bounded number of steps; and when every thread waits, all
workers are joined, unless a client that stays connected and neither sends nor receives, or a
line without an end, holds its worker. -/
theorem shutdown_completes (capacity ipcCapacity : Nat) (room : 0 < capacity) (endWakes : Bool)
    (port : Int32) (labels : List Label) (reached : CStartupOrchestrator)
    (careful : Runs.Along (step capacity) ReadsCarefully
      (started true endWakes ipcCapacity port) labels)
    (ran : Runs.run (step capacity) (started true endWakes ipcCapacity port) labels = .ok reached)
    (call : Nat) (returned : reached.calls call = .returned) :
    (Halted capacity reached →
      reached.joined = 5 ∨ HeldByClient reached ∨ HeldByLine reached) ∧
    ∀ rest last, Runs.Along (step capacity) ReadsCarefully reached rest →
      (∀ label ∈ rest, Quiet label) → Runs.run (step capacity) reached rest = .ok last →
      left last + rest.countP Works ≤ left reached := by
  have kept : Orderly reached ∧ Fresh reached.ipc := by
    apply Runs.run_keeps_along (fun orchestrator => Orderly orchestrator ∧ Fresh orchestrator.ipc)
      _ _ _ labels _ careful ran
    · rintro orchestrator label next ⟨orderly, fresh⟩ reads taken
      exact ⟨step_orderly orderly reads taken, step_fresh fresh taken⟩
    · exact ⟨started_orderly endWakes ipcCapacity port, fun _ _ => rfl⟩
  obtain ⟨orderly, fresh⟩ := kept
  constructor
  · intro halted
    by_cases client : HeldByClient reached
    · exact .inr (.inl client)
    · by_cases line : HeldByLine reached
      · exact .inr (.inr line)
      · exact .inl (finished_of_halted halted orderly call returned ⟨client, line⟩)
  · intro rest last reads quiet ran
    have silent : Runs.Along (step capacity) (fun _ label => Quiet label) reached rest :=
      Runs.along_of_labels reached rest quiet
    apply Runs.run_spends (fun orchestrator => (Orderly orchestrator ∧ Fresh orchestrator.ipc) ∧
      orchestrator.calls call = .returned) left Works _ _ reached last rest
      ⟨⟨orderly, fresh⟩, returned⟩ ((Runs.along_and reached rest).mpr ⟨reads, silent⟩) ran
    · rintro orchestrator label next ⟨⟨orderly, fresh⟩, returned⟩ admitted taken
      exact ⟨⟨step_orderly orderly admitted.1 taken, step_fresh fresh taken⟩,
        returned_stays call returned taken⟩
    · rintro orchestrator label next ⟨⟨orderly, fresh⟩, returned⟩ admitted taken
      exact step_pays room (told_of_returned orderly call returned) fresh admitted.2 taken

def interrupted : List Label :=
  [.avahi .worker, .avahi .worker, .avahi .worker, .avahi .worker, .stdin .worker, .ipc .worker,
    .ipc .worker, .getDevices, .sigint 1] ++ List.replicate 8 (.call 1)

theorem shutdown_completes_of_sigint :
    ∃ reached, Runs.run (step 4096) (started true false 4096 50051) interrupted = .ok reached ∧
      (Halted 4096 reached → reached.joined = 5 ∨ HeldByClient reached ∨ HeldByLine reached) ∧
      ∀ rest last, Runs.Along (step 4096) ReadsCarefully reached rest →
        (∀ label ∈ rest, Quiet label) → Runs.run (step 4096) reached rest = .ok last →
        left last + rest.countP Works ≤ left reached :=
  ⟨_, rfl, shutdown_completes 4096 4096 (by decide) false 50051 interrupted _ (by decide) rfl 1
    rfl⟩

end Bound

end SaneInTheMembrane.ServerLifecycle

import SaneInTheMembrane.Runs
import SaneInTheMembrane.SaneCalls
import SaneInTheMembrane.ScanIndependence

/-!
One device of the server and the Scan calls made on it, one after the other. A
scan ends in many ways, but every one of them goes through OnDone, and OnDone
closes the device if it is open. So each scan finds the device as the first one
did.
-/

namespace SaneInTheMembrane.ScanServer
open SaneDevice SaneCalls ScanReactor CScanResponseReactor

section Machine

/-- The device, the reactor of the call that is running, and the calls made of the
backend. -/
structure Server where
  device : CSaneDevice
  scan : Option CScanResponseReactor := none
  calls : List SaneCall := []

inductive Label where
  | construct (answers : StartAnswers)
  | writeDone (ok : Bool) (answers : List SaneRead)
  | cancel
  | done

inductive Blocked where
  | busy | noReactor | noWrite | unfinished | noAnswer
  deriving DecidableEq, Repr

def initial (name : String) : Server where
  device := { deviceName := name }

def startScanCalls (device : CSaneDevice) (answers : StartAnswers) : List SaneCall :=
  let opened := device.open answers.opening
  let started := opened.2.start answers.starting
  openCalls answers.opening ++
    if opened.1 ≠ .good then []
    else startCalls opened.2 answers.starting ++
      if started.1 ≠ .good then [] else refreshCalls started.2 answers.parameters

/-- Handlers run one at a time and scans do not overlap. OnDone comes after
Finish. -/
def step (server : Server) : Label → Except Blocked Server
  | .construct answers =>
      match server.scan with
      | some _ => .error .busy
      | none =>
          let made := make server.device answers
          .ok ⟨made.2, some made.1, server.calls ++ startScanCalls server.device answers⟩
  | .writeDone ok answers =>
      match server.scan with
      | none => .error .noReactor
      | some reactor =>
          if reactor.base.outstanding = 0 then .error .noWrite
          else
            match reactor.onWriteDone server.device ok answers with
            | some (next, []) =>
                .ok { server with
                  scan := some next
                  calls := server.calls ++ readCalls server.device answers }
            | _ => .error .noAnswer
  | .cancel =>
      match server.scan with
      | none => .error .noReactor
      | some reactor =>
          .ok ⟨onCancel server.device, some reactor,
            server.calls ++ cancelCalls server.device⟩
  | .done =>
      match server.scan with
      | none => .error .noReactor
      | some reactor =>
          if reactor.finished then
            .ok ⟨onDone server.device, none, server.calls ++ closeCalls server.device⟩
          else .error .unfinished

/-- The device is as it was before the first scan, and ready for the next one. -/
structure GivenBack (server : Server) : Prop where
  noHandle : server.device.handle = none
  closed : server.device.currentState = .closed
  ready : ∀ handle, (server.device.open (.opened handle)).2.Startable
  balanced : server.calls.countP SaneCall.opens = server.calls.countP SaneCall.closes

end Machine

section Steps
variable {server next : Server}

inductive Taken (server : Server) : Label → Server → Prop where
  | construct (answers : StartAnswers) (idle : server.scan = none) :
      Taken server (.construct answers) ⟨(make server.device answers).2,
        some (make server.device answers).1,
        server.calls ++ startScanCalls server.device answers⟩
  | writeDone (ok : Bool) (answers : List SaneRead) (reactor changed : CScanResponseReactor)
      (live : server.scan = some reactor)
      (handled : reactor.onWriteDone server.device ok answers = some (changed, [])) :
      Taken server (.writeDone ok answers)
        { server with
          scan := some changed
          calls := server.calls ++ readCalls server.device answers }
  | cancel (reactor : CScanResponseReactor) (live : server.scan = some reactor) :
      Taken server .cancel
        ⟨onCancel server.device, some reactor, server.calls ++ cancelCalls server.device⟩
  | done (reactor : CScanResponseReactor) (live : server.scan = some reactor)
      (finished : reactor.finished = true) :
      Taken server .done
        ⟨onDone server.device, none, server.calls ++ closeCalls server.device⟩

theorem step_taken (label : Label) (taken : step server label = .ok next) :
    Taken server label next := by
  cases label with
  | construct answers =>
      cases scan : server.scan <;> simp only [step, scan, reduceCtorEq] at taken
      cases taken
      exact .construct answers scan
  | writeDone ok answers =>
      cases scan : server.scan <;> simp only [step, scan, reduceCtorEq] at taken
      rename_i reactor
      split at taken
      next => cases taken
      next waiting =>
        split at taken
        next changed handled =>
            cases taken
            exact .writeDone ok answers reactor changed scan handled
        next => cases taken
  | cancel =>
      cases scan : server.scan <;> simp only [step, scan, reduceCtorEq] at taken
      rename_i reactor
      cases taken
      exact .cancel reactor scan
  | done =>
      cases scan : server.scan <;> simp only [step, scan, reduceCtorEq] at taken
      rename_i reactor
      split at taken
      next finished =>
          cases taken
          exact .done reactor scan finished
      next => cases taken

theorem startScanCalls_split (device : CSaneDevice) (answers : StartAnswers) :
    ∃ rest, startScanCalls device answers = openCalls answers.opening ++ rest ∧ Quiet rest := by
  refine ⟨_, rfl, ?_⟩
  split
  · simp [Quiet]
  · apply quiet_append (startCalls_quiet _ _)
    split
    · simp [Quiet]
    · exact refreshCalls_quiet _ _

/-- A scan that runs holds the device, unless it was refused. -/
structure Kept (server : Server) : Prop where
  resting : server.scan = none → server.device.handle = none
  closed : server.device.handle = none → server.device.currentState = .closed
  balanced : server.calls.countP SaneCall.opens =
    server.calls.countP SaneCall.closes + (if server.device.handle = none then 0 else 1)
  cancelledFirst : CancelledFirst server.calls

theorem initial_kept (name : String) : Kept (initial name) where
  resting _ := rfl
  closed _ := rfl
  balanced := rfl
  cancelledFirst := cancelledFirst_of_closeless (by simp [initial])

theorem quiet_kept (calls : List SaneCall) (kept : Kept server) (quiet : Quiet calls)
    (device : next.device.handle = server.device.handle ∧
      next.device.currentState = server.device.currentState)
    (running : next.scan ≠ none) (made : next.calls = server.calls ++ calls) : Kept next where
  resting idle := absurd idle running
  closed none := by
    rw [device.2]
    exact kept.closed (device.1.symm.trans none)
  balanced := by
    rw [made, device.1, List.countP_append, List.countP_append, (quiet_counts quiet).1,
      (quiet_counts quiet).2]
    exact kept.balanced
  cancelledFirst := by
    rw [made]
    exact cancelledFirst_append kept.cancelledFirst (quiet_cancelledFirst quiet)

theorem construct_kept (answers : StartAnswers) (kept : Kept server) (idle : server.scan = none) :
    Kept ⟨(make server.device answers).2, some (make server.device answers).1,
      server.calls ++ startScanCalls server.device answers⟩ := by
  have free := kept.resting idle
  obtain ⟨rest, split, quiet⟩ := startScanCalls_split server.device answers
  have counts := quiet_counts quiet
  have balanced := kept.balanced
  rw [if_pos free] at balanced
  have first : CancelledFirst (server.calls ++ startScanCalls server.device answers) := by
    rw [split]
    apply cancelledFirst_append kept.cancelledFirst
    apply cancelledFirst_append _ (quiet_cancelledFirst quiet)
    exact cancelledFirst_of_closeless (by simp [openCalls, SaneCall.closes])
  cases opening : answers.opening with
  | refused status failed =>
      have same := (ScanIndependence.make_refused server.device answers status failed opening).2
      refine ⟨(fun absent => by cases absent), ?_, ?_, first⟩
      · rw [same]
        exact kept.closed
      · rw [same, split, opening]
        simp [openCalls, SaneCall.opens, SaneCall.closes, counts, balanced, free]
  | opened handle =>
      have held := (ScanIndependence.make_opened server.device answers handle opening).1
      refine ⟨(fun absent => by cases absent), fun none => ?_, ?_, first⟩
      · simp [held] at none
      · rw [split, opening]
        simp [openCalls, List.countP_cons, SaneCall.opens, SaneCall.closes, counts, balanced, held]

theorem done_kept (kept : Kept server) :
    Kept ⟨onDone server.device, none, server.calls ++ closeCalls server.device⟩ := by
  have first := cancelledFirst_append kept.cancelledFirst (closeCalls_cancelledFirst server.device)
  have balanced := kept.balanced
  by_cases free : server.device.handle = none
  · -- The scan was refused: nothing is open, and nothing is closed.
    have same : onDone server.device = server.device := ScanIndependence.close_free _ free
    rw [if_pos free] at balanced
    refine ⟨fun _ => by rw [same, free], fun _ => by rw [same, kept.closed free], ?_, first⟩
    simp [same, free, closeCalls, balanced]
  · rw [if_neg free] at balanced
    have closed : onDone server.device =
        { server.device with handle := none, currentState := .closed } := by
      rw [onDone, CSaneDevice.close, if_neg free]
    refine ⟨fun _ => by rw [closed], fun _ => by rw [closed], ?_, first⟩
    simp [closed, closeCalls, free, SaneCall.opens, SaneCall.closes, balanced]

theorem taken_kept (label : Label) (kept : Kept server) (taken : Taken server label next) :
    Kept next := by
  cases taken with
  | construct answers idle => exact construct_kept answers kept idle
  | writeDone ok answers reactor changed live handled =>
      exact quiet_kept _ kept (readCalls_quiet _ _) ⟨rfl, rfl⟩ (by simp) rfl
  | cancel reactor live =>
      exact quiet_kept _ kept (cancelCalls_quiet _) ⟨rfl, rfl⟩ (by simp) rfl
  | done reactor live finished => exact done_kept kept

/-- Whenever no scan is running the device has been given back, and every close
was a close of a cancelled handle. -/
theorem every_scan_gives_back (name : String) (labels : List Label) (server : Server)
    (reached : Runs.run step (initial name) labels = .ok server) :
    (server.scan = none → GivenBack server) ∧ CancelledFirst server.calls := by
  have kept : Kept server := Runs.run_keeps Kept
    (fun _ label _ kept taken => taken_kept label kept (step_taken label taken))
    (initial name) server labels (initial_kept name) reached
  refine ⟨fun idle => ?_, kept.cancelledFirst⟩
  have free := kept.resting idle
  constructor
  · exact free
  · exact kept.closed free
  · intro handle
    exact ⟨by simp [CSaneDevice.«open»], rfl⟩
  · have balanced := kept.balanced
    rwa [if_pos free, Nat.add_zero] at balanced

def threeFailures : List Label :=
  [.construct ScanIndependence.busy, .cancel, .done,
    .construct ⟨.opened 1, .jammed, .good, {}⟩, .cancel, .done,
    .construct ⟨.opened 2, .good, .good, {}⟩, .writeDone true [.empty .eof],
    .writeDone false [], .done]

/-- Two of the scans have opened the device, and no scan is left. -/
theorem three_failed_scans_give_back : ∃ server,
    Runs.run step (initial "flatbed") threeFailures = .ok server ∧
    server.scan.isNone ∧ server.calls.countP SaneCall.opens = 2 ∧
    server.calls.countP SaneCall.closes = 2 ∧
    (server.scan = none → GivenBack server) ∧ CancelledFirst server.calls := by
  obtain ⟨server, reached, none, opened, closed⟩ : ∃ server,
      Runs.run step (initial "flatbed") threeFailures = .ok server ∧
      server.scan.isNone ∧ server.calls.countP SaneCall.opens = 2 ∧
      server.calls.countP SaneCall.closes = 2 := ⟨_, rfl, rfl, rfl, rfl⟩
  exact ⟨server, reached, none, opened, closed,
    every_scan_gives_back "flatbed" threeFailures server reached⟩

end Steps
end SaneInTheMembrane.ScanServer

import SaneInTheMembrane.ScanProgress
import SaneInTheMembrane.ScanServer

/-!
A scan from the device to the finished file. One client makes scans of one device,
each after the server is done with the one before; the stream between them is
ordered and loses nothing. Both sides keep state from scan to scan, and whatever
a failed scan leaves there, a scan that ends with OK shows exactly what the device
produced in it. The two halves meet at `Carries`, a description of the calls a
server has made.
-/

namespace SaneInTheMembrane.ScanEndToEnd
open SaneDevice SaneCalls ScanReactor ScanReader ScanServer ScanProgress
open ScanStream (parametersMessage)
open ScanIndependence (dataBytes)
open CScanResponseReactor CScanResponseReader

section Machine

/-- One `sig_done`. Beside its arguments it keeps the backend calls made since its
scan was requested. -/
structure Done where
  status : GrpcStatus
  file : List UInt8
  params : ScannerParameters
  calls : List SaneCall

structure Client where
  reader : CScanResponseReader
  inProgress : Bool := false
  done : List Done := []

namespace Client

/-- `reset`: the parameters stay. -/
def reset (reader : CScanResponseReader) : CScanResponseReader :=
  { reader with totalBytes := 0, hundredPercent := 0 }

/-- The path of a temporary file is fresh, so the file starts empty. -/
def startNewFile (reader : CScanResponseReader) : CScanResponseReader :=
  { reader with currentFile := [] }

def scan (client : Client) : Client :=
  if client.inProgress then client
  else { client with inProgress := true, reader := startNewFile (reset client.reader) }

def onDone (client : Client) (status : GrpcStatus) (calls : List SaneCall) : Client :=
  let reader := reset client.reader
  { client with
    inProgress := false
    reader
    done := client.done ++ [⟨status, reader.currentFile, reader.params, calls⟩] }

end Client

/-- `transcript` are the calls of the base class in the current scan; its messages
reach the client in order, and `delivered` of them have. The call is `pending`
until it reaches the server. The backend had made `before` calls when the scan was
requested. -/
structure System where
  server : Server
  client : Client
  pending : Bool := false
  transcript : List Call := []
  delivered : Nat := 0
  before : Nat := 0

def System.scanCalls (system : System) : List SaneCall := system.server.calls.drop system.before

inductive Label where
  | scan
  | server (label : ScanServer.Label)
  | deliver
  | done (status : GrpcStatus)

inductive Blocked where
  | server (blocked : ScanServer.Blocked)
  | overlapping | noCall | noMessage | notFinished
  deriving DecidableEq, Repr

/-- The parameters of a new reader are not initialized. -/
def initial (name : String) (params : ScannerParameters) : System where
  server := ScanServer.initial name
  client := { reader := { params } }

def System.afterServer (system : System) (server : Server) (pending : Bool) : System :=
  { system with
    server
    pending
    transcript := match server.scan with
      | some reactor => reactor.base.calls
      | none => system.transcript }

def step (system : System) : Label → Except Blocked System
  | .scan =>
      if system.client.inProgress then .ok { system with client := system.client.scan }
      else if system.server.scan.isSome then .error .overlapping
      else .ok ⟨system.server, system.client.scan, true, [], 0, system.server.calls.length⟩
  | .server (.construct answers) =>
      if system.pending then
        match ScanServer.step system.server (.construct answers) with
        | .ok server => .ok (system.afterServer server false)
        | .error blocked => .error (.server blocked)
      else .error .noCall
  | .server label =>
      match ScanServer.step system.server label with
      | .ok server => .ok (system.afterServer server system.pending)
      | .error blocked => .error (.server blocked)
  | .deliver =>
      if system.client.inProgress then
        match (messages system.transcript)[system.delivered]? with
        | some message => .ok { system with
            client := { system.client with reader := system.client.reader.onReadDone message }
            delivered := system.delivered + 1 }
        | none => .error .noMessage
      else .error .noCall
  -- OK comes from the server and after all its messages; any other status may cut the
  -- stream short.
  | .done status =>
      if system.client.inProgress then
        if status.code = .ok ∧ ¬ (.finish .ok ∈ system.transcript ∧
            system.delivered = (messages system.transcript).length) then .error .notFinished
        else .ok { system with client := system.client.onDone status system.scanCalls }
      else .error .noCall

end Machine

section Production

def produced (calls : List SaneCall) : List UInt8 :=
  calls.flatMap fun call => match call with
    | .read _ read => read.data
    | _ => []

def reported (calls : List SaneCall) : List SaneParameters :=
  calls.filterMap fun call => match call with
    | .getParameters _ answer => some answer.2
    | _ => none

/-- The file holds what the device produced in the scan, and the parameters are
those it reported. -/
def Intact (done : Done) : Prop :=
  done.file = produced done.calls ∧
    ∃ parameters, reported done.calls = [parameters] ∧ done.params = clientParameters parameters

/-- What the messages of a scan say is what the device did. -/
structure Carries (calls : List SaneCall) (transcript : List Call) : Prop where
  bytes : dataBytes transcript = produced calls
  opening : ∃ name parameters rest,
    transcript = .startWrite (parametersMessage name parameters) :: rest ∧
      reported calls = [parameters] ∧
      ∀ message ∈ messages rest, message.parameters = none

end Production

section Client

theorem dataBytes_messages (transcript : List Call) :
    dataBytes transcript = (messages transcript).flatMap fun message => message.data.getD [] := by
  induction transcript with
  | nil => rfl
  | cons call rest ih => cases call <;> simpa [dataBytes, messages] using ih

theorem fold_file (received : List ScanResponse) (reader : CScanResponseReader) :
    (received.foldl onReadDone reader).currentFile =
      reader.currentFile ++ received.flatMap fun message => message.data.getD [] := by
  induction received generalizing reader with
  | nil => simp
  | cons message rest ih =>
      rw [List.foldl_cons, ih, onReadDone_currentFile]
      simp

theorem fold_params (received : List ScanResponse) (reader : CScanResponseReader)
    (plain : ∀ message ∈ received, message.parameters = none) :
    (received.foldl onReadDone reader).params = reader.params := by
  induction received generalizing reader with
  | nil => rfl
  | cons message rest ih =>
      have first := plain message List.mem_cons_self
      rw [List.foldl_cons, ih _ fun later member => plain later (List.mem_cons_of_mem _ member),
        onReadDone_params, first]
      rfl

/-- A client that got all messages of such a scan has all it says. -/
theorem carries_received {calls : List SaneCall} {transcript : List Call}
    (carries : Carries calls transcript) (reader : CScanResponseReader)
    (empty : reader.currentFile = []) :
    let last := (messages transcript).foldl onReadDone reader
    last.currentFile = produced calls ∧
      ∃ parameters, reported calls = [parameters] ∧
        last.params = clientParameters parameters := by
  obtain ⟨name, parameters, rest, opening, device, plain⟩ := carries.opening
  constructor
  · rw [fold_file, empty, List.nil_append, ← dataBytes_messages, carries.bytes]
  · refine ⟨parameters, device, ?_⟩
    have first : messages transcript = parametersMessage name parameters :: messages rest := by
      simp [opening, messages]
    rw [first, List.foldl_cons, fold_params (messages rest) _ plain]
    rfl

end Client

section Server
variable {device : CSaneDevice} {calls : List SaneCall} {transcript : List Call}

theorem messages_append (front back : List Call) :
    messages (front ++ back) = messages front ++ messages back := List.filterMap_append

theorem dataBytes_append (front back : List Call) :
    dataBytes (front ++ back) = dataBytes front ++ dataBytes back := List.flatMap_append

theorem produced_append (front back : List SaneCall) :
    produced (front ++ back) = produced front ++ produced back := List.flatMap_append

theorem reported_append (front back : List SaneCall) :
    reported (front ++ back) = reported front ++ reported back := List.filterMap_append

theorem produced_readCalls (readable : device.Readable) (reads : List SaneRead) :
    produced (readCalls device reads) = reads.flatMap SaneRead.data := by
  rw [readCalls, if_pos readable, produced, List.flatMap_map]

theorem reported_readCalls (reads : List SaneRead) : reported (readCalls device reads) = [] := by
  unfold readCalls
  split
  · simp [reported, List.filterMap_map]
  · rfl

theorem carries_silent (more : List SaneCall) (carries : Carries calls transcript)
    (unread : produced more = []) (unasked : reported more = []) :
    Carries (calls ++ more) transcript := by
  obtain ⟨name, parameters, rest, opening, device, plain⟩ := carries.opening
  constructor
  · rw [produced_append, unread, List.append_nil, carries.bytes]
  · refine ⟨name, parameters, rest, opening, ?_, plain⟩
    rw [reported_append, unasked, List.append_nil, device]

theorem carries_finish (status : GrpcStatus) (carries : Carries calls transcript) :
    Carries calls (transcript ++ [.finish status]) := by
  obtain ⟨name, parameters, rest, opening, device, plain⟩ := carries.opening
  constructor
  · rw [dataBytes_append, carries.bytes]
    exact List.append_nil _
  · refine ⟨name, parameters, rest ++ [.finish status], by rw [opening]; rfl, device, ?_⟩
    rw [messages_append]
    simpa [messages] using plain

theorem carries_message (message : ScanResponse) (reads : List SaneRead)
    (carries : Carries calls transcript) (readable : device.Readable)
    (data : message.data = some (reads.flatMap SaneRead.data))
    (plain : message.parameters = none) :
    Carries (calls ++ readCalls device reads) (transcript ++ [.startWrite message]) := by
  obtain ⟨name, parameters, rest, opening, asked, others⟩ := carries.opening
  constructor
  · rw [dataBytes_append, produced_append, carries.bytes, produced_readCalls readable]
    simp [dataBytes, data]
  · refine ⟨name, parameters, rest ++ [.startWrite message], by rw [opening]; rfl, ?_, ?_⟩
    · rw [reported_append, reported_readCalls, List.append_nil, asked]
    · rw [messages_append]
      intro later member
      rcases List.mem_append.mp member with earlier | now
      · exact others later earlier
      · obtain rfl : later = message := by simpa [messages] using now
        exact plain

theorem make_started (device : CSaneDevice) (handle : Nat) (parameters : SaneParameters) :
    let answers : StartAnswers := ⟨.opened handle, .good, .good, parameters⟩
    (make device answers).2.Readable ∧
      Carries (startScanCalls device answers) (make device answers).1.base.calls ∧
      .finish .ok ∉ (make device answers).1.base.calls := by
  intro answers
  have sent : (make device answers).1.base.calls =
      [.startWrite (parametersMessage device.deviceName parameters)] := rfl
  have asked : startScanCalls device answers = [.open (.opened handle),
      .start (some handle) .good, .getParameters (some handle) (.good, parameters)] := rfl
  have held : (make device answers).2.handle = some handle := rfl
  refine ⟨⟨by simp [held], rfl⟩, ?_, by simp [sent]⟩
  rw [sent, asked]
  exact ⟨rfl, _, parameters, [], rfl, rfl, by simp [messages]⟩

theorem make_carries (device : CSaneDevice) (answers : StartAnswers) :
    ((make device answers).1.finished = false → (make device answers).2.Readable ∧
      Carries (startScanCalls device answers) (make device answers).1.base.calls) ∧
    .finish .ok ∉ (make device answers).1.base.calls := by
  have failed (notStarted : ScanIndependence.NotStarted (make device answers).1) :
      ((make device answers).1.finished = false → (make device answers).2.Readable ∧
        Carries (startScanCalls device answers) (make device answers).1.base.calls) ∧
      .finish .ok ∉ (make device answers).1.base.calls :=
    ⟨fun running => by simp [notStarted.1] at running, notStarted.2.2⟩
  obtain ⟨opening, starting, status, parameters⟩ := answers
  cases opening with
  | refused reason bad => exact failed (ScanIndependence.make_refused device _ reason bad rfl).1
  | opened handle =>
      obtain ⟨held, ⟨good, state, notStarted | started⟩ | ⟨-, notStarted, -⟩⟩ :=
        ScanIndependence.make_opened device ⟨.opened handle, starting, status, parameters⟩ handle rfl
      · exact failed notStarted
      · obtain rfl : starting = .good := good
        have answered : status = .good := by
          by_contra bad
          have unfinished := started.1
          simp [make, startScan, CSaneDevice.«open», CSaneDevice.start, CSaneDevice.Startable,
            CSaneDevice.refreshParameters, bad, finish_finished] at unfinished
        subst answered
        obtain ⟨readable, carries, unended⟩ := make_started device handle parameters
        exact ⟨fun _ => ⟨readable, carries⟩, unended⟩
      · exact failed notStarted

theorem finish_plain (reactor : CScanResponseReactor) (status : GrpcStatus) :
    ∃ more, (reactor.finish status).base.calls = reactor.base.calls ++ more ∧
      ∀ message ∈ messages more, message.parameters = none := by
  cases finished : reactor.finished with
  | true => exact ⟨[], by simp [CScanResponseReactor.finish, finished], by simp [messages]⟩
  | false => exact ⟨[.finish status], finish_calls _ _ finished, by simp [messages]⟩

theorem readLoop_plain (answers rest : List SaneRead) (reactor changed : CScanResponseReactor)
    (plain : reactor.response.parameters = none)
    (handled : readLoop device reactor answers = some (changed, rest)) :
    ∃ more, changed.base.calls = reactor.base.calls ++ more ∧
      ∀ message ∈ messages more, message.parameters = none := by
  induction answers generalizing reactor with
  | nil => simp [readLoop] at handled
  | cons answer others ih =>
      let collected := reactor.collect (device.read answer)
      have same : collected.base = reactor.base ∧ collected.response = reactor.response := by
        simp only [collected, CScanResponseReactor.collect]
        split <;> exact ⟨rfl, rfl⟩
      have written : collected.writeResponse.base.calls = reactor.base.calls ++
          [.startWrite collected.fillResponse.response] := by
        simp only [CScanResponseReactor.writeResponse, startWrite, ServerWriteReactor.startWrite]
        rw [fillResponse, same.1]
      have unlabelled : collected.fillResponse.response.parameters = none := by
        rw [fillResponse, same.2]
        exact plain
      simp only [readLoop] at handled
      split at handled
      next full =>
          cases handled
          exact ⟨_, written, by simpa [messages] using unlabelled⟩
      next =>
      split at handled
      next good =>
          obtain ⟨more, made, others⟩ := ih collected (by rw [same.2, plain]) handled
          exact ⟨more, by rw [made, same.1], others⟩
      next =>
      split at handled
      next atEnd =>
          cases handled
          obtain ⟨more, made, others⟩ := finish_plain collected.writeResponse .ok
          refine ⟨.startWrite collected.fillResponse.response :: more, ?_, ?_⟩
          · rw [made, written, List.append_assoc]
            rfl
          · intro message member
            rcases List.mem_cons.mp member with rfl | later
            · exact unlabelled
            · exact others message later
      next failed =>
          cases handled
          obtain ⟨more, made, others⟩ := finish_plain collected _
          exact ⟨more, by rw [made, same.1], others⟩

theorem onWriteDone_plain (ok : Bool) (answers : List SaneRead)
    (reactor changed : CScanResponseReactor)
    (handled : reactor.onWriteDone device ok answers = some (changed, [])) :
    ∃ more, changed.base.calls = reactor.base.calls ++ more ∧
      ∀ message ∈ messages more, message.parameters = none := by
  simp only [CScanResponseReactor.onWriteDone] at handled
  split at handled
  next =>
      exact readLoop_plain answers []
        (resetResponse { reactor with base := reactor.base.writeDone } device) changed rfl handled
  next =>
  split at handled
  next =>
      cases handled
      exact finish_plain _ _
  next =>
      cases handled
      exact ⟨[], by simp [ServerWriteReactor.writeDone], by simp [messages]⟩

end Server

section Steps
variable {system next : System}

/-- The reader took the messages delivered so far into a new file. -/
def Receiving (transcript : List Call) (delivered : Nat) (reader : CScanResponseReader) : Prop :=
  delivered ≤ (messages transcript).length ∧ ∃ started : CScanResponseReader,
    started.currentFile = [] ∧
      reader = ((messages transcript).take delivered).foldl onReadDone started

structure Sound (system : System) : Prop where
  within : system.before ≤ system.server.calls.length
  waiting : system.pending = true →
    system.server.scan = none ∧ system.transcript = [] ∧ system.scanCalls = []
  running : ∀ reactor, system.server.scan = some reactor →
    system.transcript = reactor.base.calls ∧
      (reactor.finished = false → system.server.device.Readable ∧
        Carries system.scanCalls system.transcript ∧ .finish .ok ∉ system.transcript)
  ended : .finish .ok ∈ system.transcript → Carries system.scanCalls system.transcript
  receiving : system.client.inProgress = true →
    Receiving system.transcript system.delivered system.client.reader
  intact : ∀ done ∈ system.client.done, done.status.code = .ok → Intact done

theorem initial_sound (name : String) (params : ScannerParameters) :
    Sound (initial name params) where
  within := Nat.zero_le _
  waiting pending := by cases pending
  running _ live := by cases live
  ended ends := by cases ends
  receiving busy := by cases busy
  intact _ member := by cases member

theorem receiving_extend {transcript : List Call} {delivered : Nat} {reader : CScanResponseReader}
    (more : List Call) (receiving : Receiving transcript delivered reader) :
    Receiving (transcript ++ more) delivered reader := by
  obtain ⟨bound, started, empty, same⟩ := receiving
  refine ⟨?_, started, empty, ?_⟩
  · rw [messages_append, List.length_append]
    omega
  · rw [messages_append, List.take_append_of_le_length bound, same]

theorem scanCalls_extend (sound : Sound system) (more : List SaneCall) :
    (system.server.calls ++ more).drop system.before = system.scanCalls ++ more :=
  List.drop_append_of_le_length sound.within

theorem construct_sound (answers : StartAnswers) (sound : Sound system)
    (pending : system.pending = true) :
    Sound (system.afterServer ⟨(make system.server.device answers).2,
      some (make system.server.device answers).1,
      system.server.calls ++ startScanCalls system.server.device answers⟩ false) := by
  obtain ⟨-, fresh, unused⟩ := sound.waiting pending
  obtain ⟨carries, unended⟩ := make_carries system.server.device answers
  have calls := scanCalls_extend sound (startScanCalls system.server.device answers)
  rw [unused, List.nil_append] at calls
  constructor
  · exact sound.within.trans (by simp [System.afterServer])
  · simp [System.afterServer]
  · rintro reactor live
    obtain rfl := Option.some.inj live
    refine ⟨rfl, fun running => ⟨(carries running).1, ?_, unended⟩⟩
    rw [System.scanCalls]
    simp only [System.afterServer, calls]
    exact (carries running).2
  · exact fun ends => absurd ends unended
  · intro busy
    have received := sound.receiving busy
    rw [fresh] at received
    simpa [System.afterServer] using receiving_extend
      (make system.server.device answers).1.base.calls received
  · exact sound.intact

theorem written_carries {reactor changed : CScanResponseReactor} {ok : Bool}
    {answers : List SaneRead} {device : CSaneDevice} {calls : List SaneCall}
    {message : ScanResponse} {behind : List Call} (readable : device.Readable)
    (carries : Carries calls reactor.base.calls)
    (handled : reactor.onWriteDone device ok answers = some (changed, []))
    (made : changed.base.calls = reactor.base.calls ++ .startWrite message :: behind)
    (data : message.data = some (answers.flatMap SaneRead.data)) :
    Carries (calls ++ readCalls device answers)
      (reactor.base.calls ++ [.startWrite message]) := by
  obtain ⟨more, split, plain⟩ := onWriteDone_plain ok answers reactor changed handled
  have unlabelled : message.parameters = none := by
    apply plain
    rw [List.append_cancel_left (split.symm.trans made)]
    simp [messages]
  exact carries_message message answers carries readable data unlabelled

theorem onWriteDone_carries {reactor changed : CScanResponseReactor} {ok : Bool}
    {answers : List SaneRead} {device : CSaneDevice} {calls : List SaneCall}
    (readable : device.Readable) (carries : Carries calls reactor.base.calls)
    (unended : .finish .ok ∉ reactor.base.calls) (unfinished : reactor.finished = false)
    (handled : reactor.onWriteDone device ok answers = some (changed, [])) :
    (changed.finished = false → Carries (calls ++ readCalls device answers) changed.base.calls ∧
      .finish .ok ∉ changed.base.calls) ∧
    (.finish .ok ∈ changed.base.calls →
      Carries (calls ++ readCalls device answers) changed.base.calls) := by
  cases ScanIndependence.onWriteDone_ends readable ok answers reactor changed unfinished
    handled with
  | packet message _ made data =>
      have longer := written_carries readable carries handled made data
      rw [made]
      exact ⟨fun _ => ⟨longer, by simpa using unended⟩, fun _ => longer⟩
  | ended message earlier last finished made data _ _ =>
      rw [List.append_assoc] at made
      have longer := written_carries readable carries handled made data
      rw [made, ← List.append_assoc]
      exact ⟨fun running => by simp [finished] at running, fun _ => carries_finish .ok longer⟩
  | failed status finished notOk made =>
      rw [made]
      refine ⟨fun running => by simp [finished] at running, fun ends => ?_⟩
      simp [unended, notOk.symm] at ends

theorem writeDone_carried (ok : Bool) (answers : List SaneRead)
    (reactor changed : CScanResponseReactor) (sound : Sound system)
    (live : system.server.scan = some reactor)
    (handled : reactor.onWriteDone system.server.device ok answers = some (changed, [])) :
    (changed.finished = false → system.server.device.Readable ∧
      Carries (system.scanCalls ++ readCalls system.server.device answers) changed.base.calls ∧
      .finish .ok ∉ changed.base.calls) ∧
    (.finish .ok ∈ changed.base.calls →
      Carries (system.scanCalls ++ readCalls system.server.device answers)
        changed.base.calls) := by
  obtain ⟨same, unfinished⟩ := sound.running reactor live
  cases finished : reactor.finished with
  | true =>
      -- Nothing is read and nothing is written.
      obtain ⟨still, kept, rfl⟩ :=
        ScanIndependence.onWriteDone_finished ok answers reactor changed finished handled
      have unread : readCalls system.server.device [] = [] := by simp [readCalls]
      rw [unread, List.append_nil, kept, ← same]
      exact ⟨fun running => by simp [still] at running, sound.ended⟩
  | false =>
      obtain ⟨readable, carries, unended⟩ := unfinished finished
      rw [same] at carries unended
      obtain ⟨runs, ends⟩ := onWriteDone_carries readable carries unended finished handled
      exact ⟨fun running => ⟨readable, runs running⟩, ends⟩

theorem writeDone_sound (ok : Bool) (answers : List SaneRead)
    (reactor changed : CScanResponseReactor) (sound : Sound system)
    (live : system.server.scan = some reactor)
    (handled : reactor.onWriteDone system.server.device ok answers = some (changed, [])) :
    Sound (system.afterServer { system.server with
      scan := some changed
      calls := system.server.calls ++ readCalls system.server.device answers }
      system.pending) := by
  obtain ⟨same, -⟩ := sound.running reactor live
  obtain ⟨more, split, -⟩ := onWriteDone_plain ok answers reactor changed handled
  have calls := scanCalls_extend sound (readCalls system.server.device answers)
  obtain ⟨runs, ends⟩ := writeDone_carried ok answers reactor changed sound live handled
  have idle : system.pending = false := by
    by_contra waits
    simp [(sound.waiting (by simpa using waits)).1] at live
  constructor
  · exact sound.within.trans (by simp [System.afterServer])
  · intro pending
    simp [System.afterServer, idle] at pending
  · rintro other current
    obtain rfl := Option.some.inj current
    refine ⟨rfl, fun running => ?_⟩
    rw [System.scanCalls]
    simp only [System.afterServer, calls]
    exact runs running
  · intro ended
    rw [System.scanCalls]
    simp only [System.afterServer, calls] at ended ⊢
    exact ends ended
  · intro busy
    simp only [System.afterServer]
    rw [split, ← same]
    exact receiving_extend more (sound.receiving busy)
  · exact sound.intact

theorem silent_sound (server : Server) (more : List SaneCall) (sound : Sound system)
    (made : server.calls = system.server.calls ++ more) (unread : produced more = [])
    (unasked : reported more = []) (present : system.server.scan ≠ none)
    (device : ∀ reactor, server.scan = some reactor → system.server.scan = some reactor ∧
      (system.server.device.Readable → server.device.Readable)) :
    Sound (system.afterServer server system.pending) := by
  have calls : server.calls.drop system.before = system.scanCalls ++ more := by
    rw [made]
    exact scanCalls_extend sound more
  have same : (system.afterServer server system.pending).transcript = system.transcript := by
    cases live : server.scan with
    | none => simp [System.afterServer, live]
    | some reactor =>
        simp [System.afterServer, live, (sound.running reactor (device reactor live).1).1]
  have longer : Carries system.scanCalls system.transcript →
      Carries (System.scanCalls (system.afterServer server system.pending))
        (system.afterServer server system.pending).transcript := by
    intro carries
    rw [same, System.scanCalls]
    simp only [System.afterServer, calls]
    exact carries_silent more carries unread unasked
  constructor
  · refine sound.within.trans ?_
    simp [System.afterServer, made]
  · intro pending
    exact absurd (sound.waiting pending).1 present
  · intro reactor live
    obtain ⟨earlier, readable⟩ := device reactor live
    obtain ⟨transcript, running⟩ := sound.running reactor earlier
    refine ⟨same.trans transcript, fun unfinished => ?_⟩
    obtain ⟨able, carries, unended⟩ := running unfinished
    exact ⟨readable able, longer carries, by rwa [same]⟩
  · intro ends
    rw [same] at ends
    exact longer (sound.ended ends)
  · intro busy
    rw [same]
    exact sound.receiving busy
  · exact sound.intact

theorem server_sound (label : ScanServer.Label) (server : Server) (sound : Sound system)
    (taken : Taken system.server label server) (started : ∀ answers, label ≠ .construct answers) :
    Sound (system.afterServer server system.pending) := by
  cases taken with
  | construct answers idle => exact absurd rfl (started answers)
  | writeDone ok answers reactor changed live handled =>
      exact writeDone_sound ok answers reactor changed sound live handled
  | cancel reactor live =>
      apply silent_sound _ (cancelCalls system.server.device) sound rfl rfl rfl (by simp [live])
      intro other same
      exact ⟨live.trans same, fun readable => readable⟩
  | done reactor live finished =>
      apply silent_sound _ (closeCalls system.server.device) sound rfl ?_ ?_ (by simp [live])
      · intro other gone
        cases gone
      · unfold closeCalls
        split <;> rfl
      · unfold closeCalls
        split <;> rfl

theorem scan_sound (sound : Sound system) (idle : system.client.inProgress = false)
    (free : system.server.scan = none) :
    Sound ⟨system.server, system.client.scan, true, [], 0, system.server.calls.length⟩ where
  within := Nat.le_refl _
  waiting _ := ⟨free, rfl, List.drop_length⟩
  running reactor live := by simp [free] at live
  ended ends := by cases ends
  receiving _ := by
    refine ⟨Nat.zero_le _, Client.startNewFile (Client.reset system.client.reader), rfl, ?_⟩
    simp [Client.scan, idle, messages]
  intact done member := by
    simp only [Client.scan, idle, Bool.false_eq_true, if_false] at member
    exact sound.intact done member

theorem deliver_sound (message : ScanResponse) (sound : Sound system)
    (busy : system.client.inProgress = true)
    (next : (messages system.transcript)[system.delivered]? = some message) :
    Sound { system with
      client := { system.client with reader := system.client.reader.onReadDone message }
      delivered := system.delivered + 1 } where
  within := sound.within
  waiting := sound.waiting
  running := sound.running
  ended := sound.ended
  receiving _ := by
    obtain ⟨-, started, empty, same⟩ := sound.receiving busy
    obtain ⟨inside, rfl⟩ := List.getElem?_eq_some_iff.mp next
    refine ⟨inside, started, empty, ?_⟩
    rw [List.take_succ_eq_append_getElem inside, List.foldl_append, ← same]
    rfl
  intact := sound.intact

theorem done_sound (status : GrpcStatus) (sound : Sound system)
    (busy : system.client.inProgress = true)
    (complete : status.code = .ok → .finish .ok ∈ system.transcript ∧
      system.delivered = (messages system.transcript).length) :
    Sound { system with client := system.client.onDone status system.scanCalls } where
  within := sound.within
  waiting := sound.waiting
  running := sound.running
  ended := sound.ended
  receiving busy := by cases busy
  intact done member := by
    intro ok
    rcases List.mem_append.mp member with earlier | now
    · exact sound.intact done earlier ok
    · obtain rfl := List.mem_singleton.mp now
      obtain ⟨ends, all⟩ := complete ok
      obtain ⟨-, started, empty, same⟩ := sound.receiving busy
      rw [all, List.take_length] at same
      have received := carries_received (sound.ended ends) started empty
      rw [← same] at received
      exact received

theorem serverStep_sound (label : ScanServer.Label) (sound : Sound system)
    (taken : step system (.server label) = .ok next) : Sound next := by
  cases label with
  | construct answers =>
      simp only [step] at taken
      split at taken
      next pending =>
          split at taken
          next server moved =>
              cases taken
              cases step_taken _ moved
              exact construct_sound answers sound pending
          next => cases taken
      next => cases taken
  | writeDone ok answers | cancel | done =>
      simp only [step] at taken
      split at taken
      next server moved =>
          cases taken
          apply server_sound _ server sound (step_taken _ moved)
          intro answers same
          cases same
      next => cases taken

theorem step_sound (label : Label) (sound : Sound system)
    (taken : step system label = .ok next) : Sound next := by
  cases label with
  | scan =>
      simp only [step] at taken
      split at taken
      next busy =>
          cases taken
          rwa [show system.client.scan = system.client by simp [Client.scan, busy]]
      next idle =>
        split at taken
        next => cases taken
        next free =>
            cases taken
            exact scan_sound sound (by simpa using idle) (by simpa using free)
  | server label => exact serverStep_sound label sound taken
  | deliver =>
      simp only [step] at taken
      split at taken
      next busy =>
          split at taken
          next message first =>
              cases taken
              exact deliver_sound message sound busy first
          next => cases taken
      next => cases taken
  | done status =>
      simp only [step] at taken
      split at taken
      next busy =>
          split at taken
          next => cases taken
          next complete =>
              cases taken
              apply done_sound status sound busy
              intro ok
              by_contra missing
              exact complete ⟨ok, missing⟩
      next => cases taken

/-- Every scan that the client sees end with OK shows what the device produced and
reported in it, whatever the scans before it have left. -/
theorem ok_scans_are_intact (name : String) (params : ScannerParameters) (labels : List Label)
    (system : System) (reached : Runs.run step (initial name params) labels = .ok system) :
    ∀ done ∈ system.client.done, done.status.code = .ok → Intact done := by
  have sound : Sound system := Runs.run_keeps Sound
    (fun _ label _ sound taken => step_sound label sound taken)
    (initial name params) system labels (initial_sound name params) reached
  exact sound.intact

def cancelledStatus : GrpcStatus := ⟨.cancelled, "", none⟩

def scannedByte : SaneRead := ⟨.eof, [7], by simp [bufferSize]⟩

def cancelledThenScanned : List Label :=
  [.scan, .server (.construct ⟨.opened 1, .good, .good, {}⟩), .deliver, .server .cancel,
    .done cancelledStatus, .server (.writeDone false []), .server .done,
    .scan, .server (.construct ⟨.opened 1, .good, .good, {}⟩),
    .server (.writeDone true [scannedByte]), .deliver, .deliver, .done .ok]

/-- The second scan ends with OK, with the byte that was scanned. -/
theorem scan_after_cancelled_is_intact : ∃ system,
    Runs.run step (initial "flatbed" {}) cancelledThenScanned = .ok system ∧
    (∃ done ∈ system.client.done, done.status.code = .ok ∧ done.file = [7]) ∧
    ∀ done ∈ system.client.done, done.status.code = .ok → Intact done := by
  obtain ⟨system, reached, completed⟩ : ∃ system,
      Runs.run step (initial "flatbed" {}) cancelledThenScanned = .ok system ∧
      ∃ done ∈ system.client.done, done.status.code = .ok ∧ done.file = [7] :=
    ⟨_, rfl, _, List.mem_cons_of_mem _ List.mem_cons_self, rfl, rfl⟩
  exact ⟨system, reached, completed,
    ok_scans_are_intact "flatbed" {} cancelledThenScanned system reached⟩

end Steps
end SaneInTheMembrane.ScanEndToEnd

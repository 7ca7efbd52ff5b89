import Mathlib
import SaneInTheMembrane.Runs

/-!
server/src/IPC/IPC.cpp: `CIPC`. One thread polls a listening socket, accepts one
client after the other and answers each message of it before it reads the next.
All messages of all clients pass through one buffer that is never cleared, and a
client that stays connected keeps the thread from its loop. `write` waits while the
connection holds as much as it can of what the client has not received.
-/

namespace SaneInTheMembrane.IpcServer

section Requests

def readBufferSize : Nat := 1024

structure ReadBuffer where
  bytes : List UInt8
  size : bytes.length = readBufferSize
  deriving DecidableEq, Repr

namespace ReadBuffer

def zero : ReadBuffer where
  bytes := List.replicate readBufferSize 0
  size := List.length_replicate

def message (unread : List UInt8) : List UInt8 := unread.take readBufferSize

/-- The rest of the buffer keeps what an earlier message left there. -/
def read (buffer : ReadBuffer) (unread : List UInt8) : ReadBuffer where
  bytes := message unread ++ buffer.bytes.drop (message unread).length
  size := by
    have fits : (message unread).length ≤ readBufferSize := List.length_take_le _ _
    rw [List.length_append, List.length_drop, buffer.size]
    omega

def terminate (buffer : ReadBuffer) (messageSize : Nat) : ReadBuffer where
  bytes := buffer.bytes.set
    (if messageSize = readBufferSize then readBufferSize - 1 else messageSize) 0
  size := by rw [List.length_set, buffer.size]

/-- `std::string request{read_buffer}`. -/
def request (buffer : ReadBuffer) : List UInt8 := buffer.bytes.takeWhile (· != 0)

end ReadBuffer

def portCommand : List UInt8 := [112, 111, 114, 116]

def currentPort (serverPort : Int32) : String := "Current port is: `" ++ toString serverPort ++ "`"

/-- `request.find("port") == 0`: the request starts with it. -/
def processRequest (serverPort : Int32) (request : List UInt8) : String :=
  if portCommand.isPrefixOf request then currentPort serverPort else "Unknown request"

def reply (serverPort : Int32) (message : List UInt8) : String :=
  if portCommand <+: message then currentPort serverPort else "Unknown request"

end Requests

section Model

abbrev ClientId := Nat

inductive Place where
  | starting
  | testing
  | polling
  | accepting
  | reading (client : ClientId)
  | answering (client : ClientId) (response : String)
  | returned
  deriving DecidableEq, Repr

/-- A connection: what went through it so far, and what waits to be read. Of the responses
the client has received so many bytes. -/
structure Client where
  connected : Bool := true
  sent : List UInt8 := []
  unread : List UInt8 := []
  messages : List (List UInt8) := []
  responses : List String := []
  received : Nat := 0
  deriving DecidableEq, Repr

def Client.written (connection : Client) : List Char :=
  connection.responses.flatMap String.toList

def Client.waiting (connection : Client) : Nat :=
  connection.written.length - connection.received

/-- `capacity` is what a connection holds for its client. -/
structure CIPC where
  capacity : Nat
  shutdown : Bool := false
  serverPort : Int32 := 0
  readBuffer : ReadBuffer := .zero
  place : Place := .starting
  connections : Nat := 0
  queue : List ClientId := []
  clients : ClientId → Client := fun _ => {}

def CIPC.setPort (ipc : CIPC) (port : Int32) : CIPC := { ipc with serverPort := port }

def started (capacity : Nat) (port : Int32) : CIPC := ({ capacity } : CIPC).setPort port

inductive Label where
  | worker
  | socketFails
  | pollEnds
  | acceptFails
  | readFails
  | connect
  | send (client : ClientId) (bytes : List UInt8)
  | receive (client : ClientId) (count : Nat)
  | hangUp (client : ClientId)
  | shutdown
  deriving DecidableEq, Repr

/-- `brokenPipe` is the signal of a `write` whose client is gone. It ends the process, as
nothing gives SIGPIPE another action. -/
inductive Fault where
  | blocked
  | brokenPipe
  deriving DecidableEq, Repr

def CIPC.setClient (ipc : CIPC) (client : ClientId) (connection : Client) : CIPC :=
  { ipc with clients := Function.update ipc.clients client connection }

def readStep (ipc : CIPC) (client : ClientId) : Except Fault CIPC :=
  let connection := ipc.clients client
  match connection.unread with
  | [] =>
      if connection.connected then .error .blocked
      -- The size of the message is zero.
      else .ok { ipc with place := .testing, readBuffer := ipc.readBuffer.terminate 0 }
  | first :: rest =>
      let message := ReadBuffer.message (first :: rest)
      let buffer := (ipc.readBuffer.read (first :: rest)).terminate message.length
      let response := processRequest ipc.serverPort buffer.request
      .ok { ipc.setClient client { connection with
              unread := (first :: rest).drop readBufferSize
              messages := connection.messages ++ [message] } with
        place := .answering client response
        readBuffer := buffer }

def workerStep (ipc : CIPC) : Except Fault CIPC :=
  match ipc.place with
  | .starting => .ok { ipc with place := .testing }
  | .testing =>
      if ipc.shutdown then .ok { ipc with place := .returned }
      else .ok { ipc with place := .polling }
  | .polling =>
      if ipc.queue = [] then .error .blocked else .ok { ipc with place := .accepting }
  | .accepting =>
      match ipc.queue with
      | [] => .error .blocked
      | client :: rest => .ok { ipc with place := .reading client, queue := rest }
  | .reading client => readStep ipc client
  | .answering client response =>
      let connection := ipc.clients client
      if connection.connected then
        if connection.waiting < ipc.capacity then
          .ok { ipc.setClient client { connection with
                  responses := connection.responses ++ [response] } with
            place := .reading client }
        else .error .blocked
      else .error .brokenPipe
  | .returned => .error .blocked

def step (ipc : CIPC) : Label → Except Fault CIPC
  | .worker => workerStep ipc
  -- `socket`, `bind` or `listen` fails: there will be no IPC.
  | .socketFails =>
      if ipc.place = .starting then .ok { ipc with place := .returned } else .error .blocked
  -- The time is up, or a signal came.
  | .pollEnds =>
      if ipc.place = .polling then .ok { ipc with place := .testing } else .error .blocked
  | .acceptFails =>
      if ipc.place = .accepting then .ok { ipc with place := .testing } else .error .blocked
  | .readFails =>
      match ipc.place with
      | .reading _ => .ok { ipc with place := .testing }
      | _ => .error .blocked
  | .connect =>
      .ok { ipc with
        connections := ipc.connections + 1
        queue := ipc.queue ++ [ipc.connections] }
  | .send client bytes =>
      let connection := ipc.clients client
      if client < ipc.connections ∧ connection.connected then
        .ok (ipc.setClient client { connection with
          sent := connection.sent ++ bytes
          unread := connection.unread ++ bytes })
      else .error .blocked
  | .receive client count =>
      let connection := ipc.clients client
      if connection.connected ∧ 0 < count ∧ count ≤ connection.waiting then
        .ok (ipc.setClient client { connection with received := connection.received + count })
      else .error .blocked
  | .hangUp client =>
      if client < ipc.connections then
        .ok (ipc.setClient client { ipc.clients client with connected := false })
      else .error .blocked
  | .shutdown => .ok { ipc with shutdown := true }

def outstanding (client : ClientId) : Place → List String
  | .answering served response => if served = client then [response] else []
  | .starting | .testing | .polling | .accepting | .reading _ | .returned => []

end Model

section Buffer

theorem takeWhile_terminated (front tail : List UInt8) :
    (front ++ 0 :: tail).takeWhile (· != 0) = front.takeWhile (· != 0) := by
  induction front with
  | nil => rfl
  | cons byte rest ih =>
      rw [List.cons_append, List.takeWhile_cons, List.takeWhile_cons, ih]

theorem message_length (unread : List UInt8) :
    (ReadBuffer.message unread).length ≤ readBufferSize :=
  List.length_take_le _ _

/-- The request is the message up to its first NUL, less its last byte when it fills
the buffer. What the buffer held before is no part of it. -/
theorem request_of_read (buffer : ReadBuffer) (unread : List UInt8) :
    let message := ReadBuffer.message unread
    ((buffer.read unread).terminate message.length).request =
      (message.take (readBufferSize - 1)).takeWhile (· != 0) := by
  have fits := message_length unread
  simp only [ReadBuffer.request, ReadBuffer.terminate, ReadBuffer.read]
  generalize ReadBuffer.message unread = message at fits ⊢
  by_cases full : message.length = readBufferSize
  · have none : buffer.bytes.drop message.length = [] :=
      List.drop_of_length_le (Nat.le_of_eq (buffer.size.trans full.symm))
    have inside : readBufferSize - 1 < message.length := by
      rw [full, readBufferSize]
      omega
    rw [if_pos full, none, List.append_nil, List.set_eq_take_append_cons_drop, if_pos inside,
      takeWhile_terminated]
  · have shorter : message.length < buffer.bytes.length := by
      rw [buffer.size]
      omega
    have whole : message.take (readBufferSize - 1) = message :=
      List.take_of_length_le (by omega)
    rw [if_neg full, List.drop_eq_getElem_cons shorter, whole]
    rw [List.set_append_right _ _ (Nat.le_refl _), Nat.sub_self, List.set_cons_zero,
      takeWhile_terminated]

theorem command_prefix_iff (command message : List UInt8)
    (text : ∀ byte ∈ command, byte ≠ 0) (fits : command.length < readBufferSize) :
    command <+: (message.take (readBufferSize - 1)).takeWhile (· != 0) ↔ command <+: message := by
  constructor
  · intro found
    exact found.trans ((List.takeWhile_prefix _).trans (List.take_prefix _ _))
  · rintro ⟨rest, rfl⟩
    have held : (command ++ rest).take (readBufferSize - 1) =
        command ++ rest.take (readBufferSize - 1 - command.length) := by
      rw [List.take_append, List.take_of_length_le (by omega)]
    rw [held, List.takeWhile_append_of_pos]
    · exact List.prefix_append _ _
    · intro byte member
      simpa using text byte member

theorem processRequest_of_read (serverPort : Int32) (buffer : ReadBuffer) (unread : List UInt8) :
    let message := ReadBuffer.message unread
    processRequest serverPort ((buffer.read unread).terminate message.length).request =
      reply serverPort message := by
  have text : ∀ byte ∈ portCommand, byte ≠ 0 := by simp [portCommand]
  have fits : portCommand.length < readBufferSize := by simp [portCommand, readBufferSize]
  have found := command_prefix_iff portCommand (ReadBuffer.message unread) text fits
  simp only [processRequest, reply, request_of_read, List.isPrefixOf_iff_prefix, found]

end Buffer

section Steps

inductive Change (serverPort : Int32) (client : ClientId) (connection : Client)
    (waiting : List String) : Label → Client → List String → Prop where
  | quiet (label : Label) : Change serverPort client connection waiting label connection waiting
  | took (some : connection.unread ≠ []) (none : waiting = []) :
      Change serverPort client connection waiting .worker
        { connection with
          unread := connection.unread.drop readBufferSize
          messages := connection.messages ++ [ReadBuffer.message connection.unread] }
        [reply serverPort (ReadBuffer.message connection.unread)]
  | answered (response : String) (one : waiting = [response])
      (here : connection.connected = true) :
      Change serverPort client connection waiting .worker
        { connection with responses := connection.responses ++ [response] } []
  | sent (bytes : List UInt8) (here : connection.connected = true) :
      Change serverPort client connection waiting (.send client bytes)
        { connection with
          sent := connection.sent ++ bytes
          unread := connection.unread ++ bytes } waiting
  | received (count : Nat) (here : connection.connected = true) (some : 0 < count)
      (written : count ≤ connection.waiting) :
      Change serverPort client connection waiting (.receive client count)
        { connection with received := connection.received + count } waiting
  | hungUp :
      Change serverPort client connection waiting (.hangUp client)
        { connection with connected := false } waiting

variable {ipc next : CIPC} {label : Label}

abbrev Changes (label : Label) (ipc next : CIPC) (client : ClientId) : Prop :=
  Change ipc.serverPort client (ipc.clients client) (outstanding client ipc.place) label
    (next.clients client) (outstanding client next.place)

theorem changes_of_same (client : ClientId) (same : next.clients client = ipc.clients client)
    (place : outstanding client next.place = outstanding client ipc.place) :
    Changes label ipc next client := by
  unfold Changes
  rw [same, place]
  exact .quiet label

theorem outstanding_answering_other {client served : ClientId} (response : String)
    (other : client ≠ served) : outstanding client (.answering served response) = [] :=
  if_neg (Ne.symm other)

theorem outstanding_answering (client : ClientId) (response : String) :
    outstanding client (.answering client response) = [response] :=
  if_pos rfl

theorem readStep_changes (client served : ClientId) (reading : ipc.place = .reading served)
    (taken : readStep ipc served = .ok next) : Changes .worker ipc next client := by
  unfold readStep at taken
  dsimp only at taken
  split at taken
  next empty =>
    split at taken
    · cases taken
    · cases taken
      exact changes_of_same client rfl (by rw [reading]; rfl)
  next first rest unread =>
    cases taken
    rw [← unread, processRequest_of_read]
    have before : outstanding client ipc.place = [] := by rw [reading]; rfl
    by_cases same : client = served
    · subst same
      have some : (ipc.clients client).unread ≠ [] := by simp [unread]
      have changed := @Change.took ipc.serverPort client _ _ some before
      simpa [Changes, CIPC.setClient, outstanding_answering] using changed
    · have kept := @Change.quiet ipc.serverPort client (ipc.clients client) [] .worker
      simpa [Changes, CIPC.setClient, Function.update_of_ne same, before,
        outstanding_answering_other _ same] using kept

theorem workerStep_changes (client : ClientId) (taken : workerStep ipc = .ok next) :
    Changes .worker ipc next client := by
  unfold workerStep at taken
  split at taken
  next starting =>
    cases taken
    exact changes_of_same client rfl (by rw [starting]; rfl)
  next testing =>
    split at taken <;> cases taken <;>
      exact changes_of_same client rfl (by rw [testing]; rfl)
  next polling =>
    split at taken
    · cases taken
    · cases taken
      exact changes_of_same client rfl (by rw [polling]; rfl)
  next accepting =>
    split at taken
    · cases taken
    · cases taken
      exact changes_of_same client rfl (by rw [accepting]; rfl)
  next served reading => exact readStep_changes client served reading taken
  next served response answering =>
    dsimp only at taken
    (repeat' split at taken) <;> cases taken
    next here room =>
      by_cases same : client = served
      · subst same
        have one : outstanding client ipc.place = [response] := by
          rw [answering, outstanding_answering]
        have changed := @Change.answered ipc.serverPort client _ _ response one here
        simpa [Changes, CIPC.setClient, outstanding] using changed
      · apply changes_of_same client
        · simp [CIPC.setClient, Function.update_of_ne same]
        · rw [answering, outstanding_answering_other _ same]
          rfl
  next => cases taken

theorem step_changes (client : ClientId) (taken : step ipc label = .ok next) :
    Changes label ipc next client := by
  cases label with
  | worker => exact workerStep_changes client taken
  | socketFails | pollEnds | acceptFails =>
      simp only [step] at taken
      split at taken
      · next place =>
        cases taken
        exact changes_of_same client rfl (by rw [place]; rfl)
      · cases taken
  | readFails =>
      simp only [step] at taken
      split at taken
      next served reading =>
        cases taken
        exact changes_of_same client rfl (by rw [reading]; rfl)
      next => cases taken
  | connect | shutdown =>
      cases taken
      exact changes_of_same client rfl rfl
  | send sender bytes =>
      simp only [step] at taken
      split at taken
      · next here =>
        cases taken
        by_cases same : client = sender
        · subst same
          have changed := @Change.sent ipc.serverPort client _ (outstanding client ipc.place)
            bytes here.2
          simpa [Changes, CIPC.setClient] using changed
        · exact changes_of_same client (by simp [CIPC.setClient, Function.update_of_ne same]) rfl
      · cases taken
  | receive receiver count =>
      simp only [step] at taken
      split at taken
      · next here =>
        cases taken
        by_cases same : client = receiver
        · subst same
          have changed := @Change.received ipc.serverPort client _ (outstanding client ipc.place)
            count here.1 here.2.1 here.2.2
          simpa [Changes, CIPC.setClient] using changed
        · exact changes_of_same client (by simp [CIPC.setClient, Function.update_of_ne same]) rfl
      · cases taken
  | hangUp leaver =>
      simp only [step] at taken
      split at taken
      · cases taken
        by_cases same : client = leaver
        · subst same
          have changed := @Change.hungUp ipc.serverPort client (ipc.clients client)
            (outstanding client ipc.place)
          simpa [Changes, CIPC.setClient] using changed
        · exact changes_of_same client (by simp [CIPC.setClient, Function.update_of_ne same]) rfl
      · cases taken

theorem connections_grow (taken : step ipc label = .ok next) :
    ipc.connections ≤ next.connections := by
  cases label <;> simp only [step, workerStep, readStep, CIPC.setClient] at taken <;>
    (repeat' split at taken) <;> cases taken <;> simp

theorem step_serverPort (taken : step ipc label = .ok next) :
    next.serverPort = ipc.serverPort := by
  cases label <;> simp only [step, workerStep, readStep, CIPC.setClient] at taken <;>
    (repeat' split at taken) <;> cases taken <;> rfl

end Steps

section Replies
variable {ipc next : CIPC} {label : Label}

/-- All that a client has sent was read in messages or waits to be read, and each
message has the reply it deserves, written or about to be. -/
structure Answered (port : Int32) (connection : Client) (waiting : List String) : Prop where
  sent : connection.sent = connection.messages.flatten ++ connection.unread
  replies : connection.responses ++ waiting = connection.messages.map (reply port)
  sized : ∀ message ∈ connection.messages,
    message ≠ [] ∧ message.length ≤ readBufferSize

theorem message_append_drop (unread : List UInt8) :
    ReadBuffer.message unread ++ unread.drop readBufferSize = unread :=
  List.take_append_drop _ _

theorem message_nonempty {unread : List UInt8} (some : unread ≠ []) :
    ReadBuffer.message unread ≠ [] := by
  cases unread with
  | nil => exact absurd rfl some
  | cons first rest => exact List.cons_ne_nil _ _

theorem answered_of_change (port : Int32) (client : ClientId) {before after : Client}
    {waiting remaining : List String} (answered : Answered port before waiting)
    (change : Change port client before waiting label after remaining) :
    Answered port after remaining := by
  obtain ⟨sent, replies, sized⟩ := answered
  cases change with
  | quiet => exact ⟨sent, replies, sized⟩
  | took some none =>
      subst none
      rw [List.append_nil] at replies
      constructor
      · dsimp only
        rw [List.flatten_append, List.flatten_singleton, List.append_assoc, message_append_drop,
          sent]
      · dsimp only
        rw [List.map_append, ← replies]
        rfl
      · intro message member
        rcases List.mem_append.mp member with old | new
        · exact sized message old
        · rw [List.mem_singleton.mp new]
          exact ⟨message_nonempty some, message_length _⟩
  | answered response one here =>
      subst one
      exact ⟨sent, by simpa using replies, sized⟩
  | sent bytes here =>
      refine ⟨?_, replies, sized⟩
      dsimp only
      rw [sent, List.append_assoc]
  | received | hungUp => exact ⟨sent, replies, sized⟩

/-- The clients are answered apart, although they share a buffer: in every run each
has the replies to its own messages, in their order. -/
theorem replies_follow_messages (capacity : Nat) (port : Int32) (labels : List Label) :
    Runs.Ends (fun ipc => ∀ client,
        Answered port (ipc.clients client) (outstanding client ipc.place))
      (fun _ => True) (Runs.run step (started capacity port) labels) := by
  cases reached : Runs.run step (started capacity port) labels with
  | error fault => trivial
  | ok last =>
      intro client
      have kept : last.serverPort = port ∧
          Answered port (last.clients client) (outstanding client last.place) := by
        apply Runs.run_keeps (fun ipc => ipc.serverPort = port ∧
          Answered port (ipc.clients client) (outstanding client ipc.place)) _ _ _ labels _ reached
        · rintro ipc label next ⟨same, answered⟩ taken
          have change := step_changes client taken
          rw [Changes, same] at change
          exact ⟨(step_serverPort taken).trans same,
            answered_of_change port client answered change⟩
        · refine ⟨rfl, rfl, rfl, ?_⟩
          intro message member
          cases member
      exact kept.2

end Replies

section Politeness
variable {ipc next : CIPC} {label : Label}

/-- A client leaves when all that it sent is answered. -/
def Polite (ipc : CIPC) : Label → Prop
  | .hangUp client => (ipc.clients client).unread = [] ∧ outstanding client ipc.place = []
  | .worker | .socketFails | .pollEnds | .acceptFails | .readFails | .connect | .send _ _
  | .receive _ _ | .shutdown => True

instance (ipc : CIPC) (label : Label) : Decidable (Polite ipc label) :=
  match label with
  | .hangUp _ => inferInstanceAs (Decidable (_ ∧ _))
  | .worker | .socketFails | .pollEnds | .acceptFails | .readFails | .connect | .send _ _
  | .receive _ _ | .shutdown => isTrue trivial

def Settled (ipc : CIPC) : Prop := ∀ client, (ipc.clients client).connected = false →
  (ipc.clients client).unread = [] ∧ outstanding client ipc.place = []

def NotBroken (fault : Fault) : Prop := fault ≠ .brokenPipe

theorem settled_of_polite (settled : Settled ipc) (polite : Polite ipc label)
    (taken : step ipc label = .ok next) : Settled next := by
  intro client
  have before := settled client
  have change := step_changes client taken
  unfold Changes at change
  revert before change
  generalize next.clients client = connection
  generalize outstanding client next.place = remaining
  intro before change
  cases change with
  | quiet => exact before
  | took some none =>
      intro gone
      exact absurd (before gone).1 some
  | answered response one here =>
      intro gone
      simp only [here] at gone
      cases gone
  | sent bytes here | received count here =>
      intro gone
      simp only [here] at gone
      cases gone
  | hungUp => exact fun _ => polite

theorem broken_of_step (broken : step ipc label = .error .brokenPipe) :
    label = .worker ∧ ∃ client response, ipc.place = .answering client response ∧
      (ipc.clients client).connected = false := by
  cases label with
  | worker =>
      refine ⟨rfl, ?_⟩
      simp only [step, workerStep] at broken
      cases place : ipc.place with
      | answering client response =>
          rw [place] at broken
          refine ⟨client, response, rfl, ?_⟩
          dsimp only at broken
          (repeat' split at broken) <;> cases broken
          next gone => simpa using gone
      | reading client =>
          rw [place] at broken
          simp only [readStep] at broken
          (repeat' split at broken) <;> cases broken
      | starting | testing | polling | accepting | returned =>
          rw [place] at broken
          dsimp only at broken
          (repeat' split at broken) <;> cases broken
  | socketFails | pollEnds | acceptFails | readFails | connect | send client bytes
  | receive client count | hangUp client | shutdown =>
      simp only [step] at broken
      (repeat' split at broken) <;> cases broken

theorem step_settled (settled : Settled ipc) (polite : Polite ipc label) :
    Runs.Ends Settled NotBroken (step ipc label) := by
  cases taken : step ipc label with
  | ok next => exact settled_of_polite settled polite taken
  | error fault =>
      rintro rfl
      obtain ⟨_, client, response, answering, gone⟩ := broken_of_step taken
      have none := (settled client gone).2
      rw [answering, outstanding_answering] at none
      cases none

theorem started_settled (capacity : Nat) (port : Int32) : Settled (started capacity port) := by
  intro client gone
  cases gone

/-- The thread is at the connection of this client. -/
def Serves (client : ClientId) : Place → Prop
  | .reading served | .answering served _ => served = client
  | .starting | .testing | .polling | .accepting | .returned => False

theorem serves_cases {client : ClientId} {place : Place} (serves : Serves client place) :
    place = .reading client ∨ ∃ response, place = .answering client response := by
  cases place with
  | reading served =>
      cases serves
      exact .inl rfl
  | answering served response =>
      cases serves
      exact .inr ⟨response, rfl⟩
  | starting | testing | polling | accepting | returned => cases serves

theorem impolite_breaks (client : ClientId) (known : client < ipc.connections)
    (serves : Serves client ipc.place) (impolite : ¬ Polite ipc (.hangUp client)) :
    Runs.run step ipc [.hangUp client, .worker, .worker] = .error .brokenPipe := by
  rcases serves_cases serves with reading | ⟨response, answering⟩
  · have some : (ipc.clients client).unread ≠ [] := by
      intro none
      exact impolite ⟨none, by rw [reading]; rfl⟩
    obtain ⟨first, rest, unread⟩ := List.exists_cons_of_ne_nil some
    simp [Runs.run, step, workerStep, readStep, CIPC.setClient, known, reading, unread]
  · simp [Runs.run, step, workerStep, CIPC.setClient, known, answering]

end Politeness

section Serverctl
variable {ipc next : CIPC} {label : Label}

/-- Every client runs `send_message` of serverctl: `port` goes out once and in one piece,
and its one `recv` takes what has come. It may leave at any time. -/
def Serverctl (ipc : CIPC) : Label → Prop
  | .send sender bytes => bytes = portCommand ∧ (ipc.clients sender).sent = []
  | .receive receiver count => (ipc.clients receiver).received = 0 ∧
      count = min readBufferSize (ipc.clients receiver).waiting
  | .worker | .socketFails | .pollEnds | .acceptFails | .readFails | .connect | .hangUp _
  | .shutdown => True

/-- The server is not, and will not be, at the connection of this client. -/
def Closed (ipc : CIPC) (client : ClientId) : Prop :=
  ipc.place = .returned ∨ client ∉ ipc.queue ∧ ¬ Serves client ipc.place

/-- It leaves when its `send` has failed or its `recv` is over, and that gives nothing only
where the connection is closed. -/
def Waits (ipc : CIPC) : Label → Prop
  | .hangUp leaver => (ipc.clients leaver).sent = [] ∨ 0 < (ipc.clients leaver).received ∨
      Closed ipc leaver
  | .worker | .socketFails | .pollEnds | .acceptFails | .readFails | .connect | .send _ _
  | .receive _ _ | .shutdown => True

instance (client : ClientId) (place : Place) : Decidable (Serves client place) :=
  match place with
  | .reading _ | .answering _ _ => inferInstanceAs (Decidable (_ = _))
  | .starting | .testing | .polling | .accepting | .returned => isFalse id

instance (ipc : CIPC) (client : ClientId) : Decidable (Closed ipc client) :=
  inferInstanceAs (Decidable (_ ∨ _))

instance (ipc : CIPC) (label : Label) : Decidable (Serverctl ipc label) :=
  match label with
  | .send _ _ | .receive _ _ => inferInstanceAs (Decidable (_ ∧ _))
  | .worker | .socketFails | .pollEnds | .acceptFails | .readFails | .connect | .hangUp _
  | .shutdown => isTrue trivial

instance (ipc : CIPC) (label : Label) : Decidable (Waits ipc label) :=
  match label with
  | .hangUp _ => inferInstanceAs (Decidable (_ ∨ _))
  | .worker | .socketFails | .pollEnds | .acceptFails | .readFails | .connect | .send _ _
  | .receive _ _ | .shutdown => isTrue trivial

def printed (connection : Client) : List Char := connection.written.take connection.received

/-- How far the exchange of a serverctl has come. -/
inductive Exchange (port : Int32) : Client → List String → Prop where
  | silent (connected : Bool) : Exchange port ⟨connected, [], [], [], [], 0⟩ []
  | asked (connected : Bool) : Exchange port ⟨connected, portCommand, portCommand, [], [], 0⟩ []
  | taken (connected : Bool) :
      Exchange port ⟨connected, portCommand, [], [portCommand], [], 0⟩ [currentPort port]
  | told (connected : Bool) :
      Exchange port ⟨connected, portCommand, [], [portCommand], [currentPort port], 0⟩ []
  | received (connected : Bool) :
      Exchange port ⟨connected, portCommand, [], [portCommand], [currentPort port],
        (currentPort port).toList.length⟩ []

theorem repr_length (port : Int32) : port.toInt.repr.length ≤ 11 := by
  have above := port.toInt_lt
  have below := port.le_toInt
  rw [Int.repr_eq_if]
  split
  · have digits : port.toInt.toNat.repr.length ≤ 10 :=
      (Nat.length_repr_le_iff (by decide)).mpr (by omega)
    omega
  · have digits : (-port.toInt).toNat.repr.length ≤ 10 :=
      (Nat.length_repr_le_iff (by decide)).mpr (by omega)
    have sign : "-".length = 1 := rfl
    rw [String.length_append]
    omega

theorem currentPort_length (port : Int32) :
    (currentPort port).toList.length ≤ readBufferSize := by
  have text := repr_length port
  have front : "Current port is: `".length = 18 := rfl
  have back : "`".length = 1 := rfl
  have number : (toString port).length = port.toInt.repr.length := rfl
  have whole : (currentPort port).length = 18 + port.toInt.repr.length + 1 := by
    change ("Current port is: `" ++ toString port ++ "`").length = _
    rw [String.length_append, String.length_append, front, back, number]
  rw [String.length_toList, whole]
  unfold readBufferSize
  omega

theorem currentPort_nonempty (port : Int32) : (currentPort port).toList.length ≠ 0 := by
  have back : "`".length = 1 := rfl
  have whole : (currentPort port).length =
      ("Current port is: `" ++ toString port).length + "`".length := String.length_append _ _
  rw [String.length_toList, whole, back]
  exact Nat.succ_ne_zero _

theorem currentPort_injective {port other : Int32} (same : currentPort port = currentPort other) :
    port = other := by
  have front := (String.append_left_inj _).mp same
  have numbers : port.toInt.repr = other.toInt.repr := (String.append_right_inj _).mp front
  exact Int32.toInt.inj (Int.repr_injective numbers)

theorem exchange_of_change (port : Int32) (client : ClientId) {before after : Client}
    {waiting remaining : List String} (exchange : Exchange port before waiting)
    (sends : ∀ bytes, label = .send client bytes → bytes = portCommand ∧ before.sent = [])
    (receives : ∀ count, label = .receive client count →
      before.received = 0 ∧ count = min readBufferSize before.waiting)
    (change : Change port client before waiting label after remaining) :
    Exchange port after remaining := by
  cases change with
  | quiet => exact exchange
  | took some none =>
      cases exchange with
      | silent | taken | told | received => exact absurd rfl some
      | asked connected => exact .taken connected
  | answered response one here =>
      cases exchange with
      | silent | asked | told | received => cases one
      | taken connected =>
          cases one
          exact .told connected
  | sent bytes here =>
      obtain ⟨rfl, fresh⟩ := sends bytes rfl
      cases exchange with
      | silent connected => exact .asked connected
      | asked | taken | told | received => cases fresh
  | received count here some written =>
      obtain ⟨first, all⟩ := receives count rfl
      cases exchange with
      | silent | asked | taken =>
          exact absurd written (Nat.not_le.mpr some)
      | told connected =>
          have whole : count = (currentPort port).toList.length := by
            rw [all, Client.waiting, Client.written, List.flatMap_singleton, Nat.sub_zero]
            exact Nat.min_eq_right (currentPort_length port)
          subst whole
          rw [Nat.zero_add]
          exact .received connected
      | received connected => exact absurd first (currentPort_nonempty port)
  | hungUp =>
      cases exchange with
      | silent => exact .silent false
      | asked => exact .asked false
      | taken => exact .taken false
      | told => exact .told false
      | received => exact .received false

theorem printed_of_exchange {port : Int32} {connection : Client} {waiting : List String}
    (exchange : Exchange port connection waiting) :
    connection.received = 0 ∧ printed connection = [] ∨
      printed connection = (currentPort port).toList := by
  cases exchange with
  | silent | asked | taken | told => exact .inl ⟨rfl, rfl⟩
  | received =>
      right
      rw [printed, Client.written, List.flatMap_singleton, List.take_length]

theorem settled_of_exchange {port : Int32} {connection : Client} {waiting : List String}
    (exchange : Exchange port connection waiting)
    (finished : connection.sent = [] ∨ 0 < connection.received) : waiting = [] := by
  cases exchange with
  | silent | asked | told | received => rfl
  | taken =>
      rcases finished with none | some
      · cases none
      · cases some

structure Served (port : Int32) (ipc : CIPC) : Prop where
  samePort : ipc.serverPort = port
  exchanges : ∀ client, Exchange port (ipc.clients client) (outstanding client ipc.place)

theorem served_of_step {port : Int32} (served : Served port ipc) (regular : Serverctl ipc label)
    (taken : step ipc label = .ok next) : Served port next := by
  refine ⟨(step_serverPort taken).trans served.samePort, fun client => ?_⟩
  have change := step_changes client taken
  rw [Changes, served.samePort] at change
  apply exchange_of_change port client (served.exchanges client) _ _ change
  · rintro bytes rfl
    exact regular
  · rintro count rfl
    exact regular

theorem started_served (capacity : Nat) (port : Int32) : Served port (started capacity port) where
  samePort := rfl
  exchanges _ := .silent true

def Excused (ipc : CIPC) : Prop := ∀ client, (ipc.clients client).connected = false →
  client < ipc.connections ∧ ((ipc.clients client).sent = [] ∨
    0 < (ipc.clients client).received ∨ Closed ipc client)

/-- The thread turns to a client only from the queue, and new clients queue up. -/
theorem step_serves (client : ClientId) (taken : step ipc label = .ok next) :
    (client ∈ next.queue → client ∈ ipc.queue ∨ client = ipc.connections) ∧
    (Serves client next.place → Serves client ipc.place ∨ client ∈ ipc.queue) ∧
    (ipc.place = .returned → next.place = .returned) := by
  cases label with
  | worker =>
      simp only [step, workerStep, readStep, CIPC.setClient] at taken
      cases place : ipc.place <;> rw [place] at taken <;> dsimp only at taken <;>
        (repeat' split at taken) <;> cases taken <;> simp_all [Serves]
  | socketFails | pollEnds | acceptFails | readFails | connect | send | receive | hangUp
  | shutdown =>
      simp only [step, CIPC.setClient] at taken
      (repeat' split at taken) <;> cases taken
      all_goals simp_all [Serves]

theorem closed_of_step {client : ClientId} (known : client < ipc.connections)
    (closed : Closed ipc client) (taken : step ipc label = .ok next) : Closed next client := by
  obtain ⟨queue, serves, stays⟩ := step_serves client taken
  rcases closed with returned | ⟨absent, elsewhere⟩
  · exact .inl (stays returned)
  · refine .inr ⟨fun member => ?_, fun turned => ?_⟩
    · exact (queue member).elim absent (Nat.ne_of_lt known)
    · exact (serves turned).elim elsewhere absent

theorem excused_of_step (excused : Excused ipc) (waits : Waits ipc label)
    (taken : step ipc label = .ok next) : Excused next := by
  intro client gone
  have before := excused client
  have kept (known : client < ipc.connections) (closed : Closed ipc client) :
      Closed next client := closed_of_step known closed taken
  have more := connections_grow taken
  have change := step_changes client taken
  unfold Changes at change
  revert before gone change
  generalize next.clients client = connection
  generalize outstanding client next.place = remaining
  intro gone before change
  cases change with
  | quiet | took =>
      obtain ⟨known, left⟩ := before gone
      exact ⟨known.trans_le more, left.imp_right (Or.imp_right (kept known))⟩
  | answered response one here | sent bytes here | received count here =>
      simp only [here] at gone
      cases gone
  | hungUp =>
      have known : client < ipc.connections := by
        simp only [step] at taken
        split at taken
        next known => exact known
        next => cases taken
      exact ⟨known.trans_le more, waits.imp_right (Or.imp_right (kept known))⟩

theorem step_excused {port : Int32} (served : Served port ipc) (excused : Excused ipc)
    (regular : Serverctl ipc label) (waits : Waits ipc label) :
    Runs.Ends (fun ipc => Served port ipc ∧ Excused ipc) NotBroken (step ipc label) := by
  cases taken : step ipc label with
  | ok next => exact ⟨served_of_step served regular taken, excused_of_step excused waits taken⟩
  | error fault =>
      rintro rfl
      obtain ⟨_, client, response, answering, gone⟩ := broken_of_step taken
      have due : outstanding client ipc.place ≠ [] := by
        rw [answering, outstanding_answering]
        exact List.cons_ne_nil _ _
      obtain ⟨_, none | some | closed⟩ := excused client gone
      · exact due (settled_of_exchange (served.exchanges client) (.inl none))
      · exact due (settled_of_exchange (served.exchanges client) (.inr some))
      · rcases closed with returned | ⟨_, elsewhere⟩
        · rw [answering] at returned
          cases returned
        · exact elsewhere (by rw [answering]; rfl)

/-- However many serverctls ask at the same time, each prints the text of the port, which is
that of no other port, or nothing. None kills the server if each leaves only when its call is
over, and then each that has left has printed the port, or could not send, or was closed. -/
theorem serverctl_prints_port (capacity : Nat) (port : Int32) (labels : List Label)
    (regular : Runs.Along step Serverctl (started capacity port) labels) :
    Runs.Ends (fun ipc => ∀ client,
        (printed (ipc.clients client) = [] ∨
          printed (ipc.clients client) = (currentPort port).toList) ∧
        ∀ other, printed (ipc.clients client) = (currentPort other).toList → other = port)
      (fun _ => True) (Runs.run step (started capacity port) labels) ∧
    (Runs.Along step Waits (started capacity port) labels →
      Runs.Ends (fun ipc => ∀ client, (ipc.clients client).connected = false →
          printed (ipc.clients client) = (currentPort port).toList ∨
          (ipc.clients client).sent = [] ∨ Closed ipc client)
        NotBroken (Runs.run step (started capacity port) labels)) := by
  constructor
  · cases reached : Runs.run step (started capacity port) labels with
    | error fault => trivial
    | ok last =>
        have served := Runs.run_keeps_along (Served port)
          (fun _ _ _ served regular taken => served_of_step served regular taken) _ _ labels
          (started_served capacity port) regular reached
        intro client
        rcases printed_of_exchange (served.exchanges client) with ⟨_, nothing⟩ | whole
        · rw [nothing]
          refine ⟨.inl rfl, fun other same => ?_⟩
          exact absurd (congrArg List.length same).symm (currentPort_nonempty other)
        · rw [whole]
          refine ⟨.inr rfl, fun other same => ?_⟩
          exact (currentPort_injective (String.toList_inj.mp same)).symm
  · intro waits
    have ends := Runs.run_ends (fun ipc => Served port ipc ∧ Excused ipc) NotBroken
      (fun _ _ kept admitted => step_excused kept.1 kept.2 admitted.1 admitted.2)
      (started capacity port) labels ⟨started_served capacity port, fun _ gone => by cases gone⟩
      ((Runs.along_and _ labels).mpr ⟨regular, waits⟩)
    apply ends.imp
    rintro ipc ⟨served, excused⟩ client gone
    obtain ⟨_, none | some | closed⟩ := excused client gone
    · exact .inr (.inl none)
    · rcases printed_of_exchange (served.exchanges client) with ⟨zero, _⟩ | whole
      · exact absurd zero some.ne'
      · exact .inl whole
    · exact .inr (.inr closed)

/-- Two serverctls ask. The second is closed by a failing read before it is answered. -/
theorem serverctl_prints_port_of_two :
    let labels := [.connect, .connect, .send 1 portCommand, .send 0 portCommand, .worker, .worker,
      .worker, .worker, .worker, .worker, .receive 0 24, .hangUp 0, .worker, .worker, .worker,
      .worker, .readFails, .hangUp 1]
    Runs.Ends (fun ipc => ∀ client,
        (printed (ipc.clients client) = [] ∨
          printed (ipc.clients client) = (currentPort 50051).toList) ∧
        ∀ other, printed (ipc.clients client) = (currentPort other).toList → other = 50051)
      (fun _ => True) (Runs.run step (started 4096 50051) labels) ∧
    Runs.Ends (fun ipc => ∀ client, (ipc.clients client).connected = false →
        printed (ipc.clients client) = (currentPort 50051).toList ∨
        (ipc.clients client).sent = [] ∨ Closed ipc client)
      NotBroken (Runs.run step (started 4096 50051) labels) := by
  intro labels
  obtain ⟨prints, spared⟩ := serverctl_prints_port 4096 50051 labels (by decide +kernel)
  exact ⟨prints, spared (by decide +kernel)⟩

end Serverctl

end SaneInTheMembrane.IpcServer

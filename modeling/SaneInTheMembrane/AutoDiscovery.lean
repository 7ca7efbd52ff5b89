import SaneInTheMembrane.ChannelStateWatcher
import SaneInTheMembrane.MdnsAutoFinder
import SaneInTheMembrane.MdnsQuery

/-!
How the client looks for a server. The watcher polls the channel and asks for discoveries,
the finder's worker makes them, and a server that is found changes the channel and with it
the watcher. What they have to say is posted to the UI thread, which shows it in
Ui/SemaphoreWidget.cpp. A poll is not one step: the events it causes come one by one.
-/

namespace SaneInTheMembrane.AutoDiscovery

open ChannelStateWatcher (CChangeStateWatcher GrpcConnectivityState Event)
open MdnsAutoFinder (CMDnsAutoFinder)
open MdnsQuery (SQueryResult Record)

section Model

inductive ESemaphoneStatus where
  | green | yellow | red
  deriving DecidableEq, Repr

/-- What is posted to the UI thread. `changeChannel` is for the slot of the finder itself,
the others are for the widget. -/
inductive Posted where
  | channelStateChanged (state : GrpcConnectivityState)
  | stoppingAutoDiscovery
  | changeChannel (found : List SQueryResult)
  | discovering
  | discovered (found : List SQueryResult)
  | discoverFailed (error : String)
  deriving DecidableEq, Repr

/-- How many connections to the finder are made when the one behind this is. -/
def Posted.connection : Posted → Nat
  | .channelStateChanged _ | .stoppingAutoDiscovery => 0
  | .changeChannel _ => 1
  | .discovering => 2
  | .discovered _ => 3
  | .discoverFailed _ => 4

/-- `stoppedAutoDiscovery` has no initial value. -/
structure CSemaphoreWidget where
  light : ESemaphoneStatus := .red
  text : String := ""
  stoppedAutoDiscovery : Bool
  deriving DecidableEq, Repr

namespace CSemaphoreWidget

def autodiscoverStoppedMessage : String :=
  "Server auto discovery stopped, click the red icon to try discovering scanner server"

def failedToDiscoverQueryMessage : String := "Failed to query scanner server"

def unableToFindScannerServerMessage : String := "Unable to find scanner server"

def connectedMessage : String := "Connected"

def connectingMessage : String := "Connecting..."

def slChannelStateChanged (widget : CSemaphoreWidget) (state : GrpcConnectivityState) :
    CSemaphoreWidget :=
  match state with
  | .idle | .ready => { widget with light := .green }
  | .connecting => { widget with light := .yellow }
  | .transientFailure | .shutdown => { widget with light := .red }

def slDiscovering (widget : CSemaphoreWidget) : CSemaphoreWidget :=
  { widget with light := .yellow, text := connectingMessage }

def slMdnsDiscovered (widget : CSemaphoreWidget) (found : List SQueryResult) :
    CSemaphoreWidget :=
  if found.isEmpty then
    { widget with
      light := .red
      text :=
        if !widget.stoppedAutoDiscovery then unableToFindScannerServerMessage
        else autodiscoverStoppedMessage }
  else { widget with light := .green, text := connectedMessage }

def slDiscoverFailed (widget : CSemaphoreWidget) : CSemaphoreWidget :=
  { widget with light := .red, text := failedToDiscoverQueryMessage }

def slStoppingAutoDiscovery (widget : CSemaphoreWidget) : CSemaphoreWidget :=
  { widget with
    light := .red
    text := autodiscoverStoppedMessage
    stoppedAutoDiscovery := true }

def handle (widget : CSemaphoreWidget) : Posted → CSemaphoreWidget
  | .channelStateChanged state => widget.slChannelStateChanged state
  | .stoppingAutoDiscovery => widget.slStoppingAutoDiscovery
  | .changeChannel _ => widget
  | .discovering => widget.slDiscovering
  | .discovered found => widget.slMdnsDiscovered found
  | .discoverFailed _ => widget.slDiscoverFailed

end CSemaphoreWidget

inductive Polling where
  | running | stopping | stopped
  deriving DecidableEq, Repr

/-- A watcher, with what its last poll has still to do. -/
structure Watch where
  watcher : CChangeStateWatcher := {}
  polling : Polling := .stopped
  events : List Event := []
  deriving DecidableEq, Repr

namespace Watch

def start (watch : Watch) : Watch := { watch with polling := .running }

def stop (watch : Watch) : Watch :=
  { watch with
    polling := if watch.polling = .running ∧ watch.events = [] then .stopping else .stopped }

def poll (watch : Watch) (state : GrpcConnectivityState) : Watch where
  watcher := (watch.watcher.poll state).1
  polling := if watch.polling = .running then .running else .stopped
  events := (watch.watcher.poll state).2

def Renews (watch : Watch) (state : GrpcConnectivityState) : Prop :=
  state.Restores ∧ watch.watcher.state ≠ state

instance (watch : Watch) (state : GrpcConnectivityState) : Decidable (watch.Renews state) :=
  inferInstanceAs (Decidable (_ ∧ _))

end Watch

/-- The watcher that a change of the channel has stopped. Its signals come through until
its proxy has the new one. -/
structure Old where
  watch : Watch
  replaced : Bool := false
  deriving DecidableEq, Repr

inductive Search where
  | announcing
  | discovering
  | querying
  | guarding
  | returning
  deriving DecidableEq, Repr

inductive Stage where
  | starting | running | ended
  deriving DecidableEq, Repr

structure Client where
  finder : CMDnsAutoFinder := {}
  search : Search := .announcing
  interrupted : Bool := false
  watch : Watch := {}
  old : Option Old := none
  channel : String := "localhost:12345"
  stage : Stage := .starting
  connections : Nat := 0
  posted : List Posted := []
  widget : CSemaphoreWidget
  deriving DecidableEq, Repr

def initial (stoppedAutoDiscovery : Bool) : Client where
  widget := { stoppedAutoDiscovery }

/-- A query that succeeds has these records. -/
inductive Label where
  | connect
  | exec
  | close (modified : Bool)
  | click
  | deliver
  | replace
  | destroy
  | poll (state : GrpcConnectivityState)
  | act
  | oldPoll (state : GrpcConnectivityState)
  | oldAct
  | announce
  | discoverServices (result : Except String Unit)
  | queryServices (result : Option (List Record))
  | finder (label : MdnsAutoFinder.Label)

inductive Fault where
  | blocked
  | undefinedBehaviour
  deriving DecidableEq, Repr

def asAddressWithPort (result : SQueryResult) : String :=
  result.address ++ ":" ++ toString result.port.toNat

namespace Client

def emit (client : Client) (signals : List Posted) : Client :=
  { client with
    posted := client.posted ++
      signals.filter fun signal => signal.connection ≤ client.connections }

def discover (client : Client) : Client :=
  { client with
    finder :=
      { client.finder with
        worker := client.finder.worker.notify
        unserved := client.finder.unserved + 1 } }

/-- An event of a poll. The signals of a watcher go to the proxy that is connected to it. -/
def perform (client : Client) (connected : Bool) : Event → Client
  | .discover => client.discover
  | .stoppingAutoDiscovery =>
      if connected then client.emit [.stoppingAutoDiscovery] else client
  | .channelStateChanged state =>
      if connected then client.emit [.channelStateChanged state] else client

def changeChannel (client : Client) (found : SQueryResult) : Client :=
  { client with
    channel := asAddressWithPort found
    watch := Watch.start {}
    old := some { watch := client.watch.stop } }

def handle (client : Client) : Posted → Client
  | .changeChannel (found :: _) => client.changeChannel found
  | signal => { client with widget := client.widget.handle signal }

def Free (client : Client) : Prop :=
  client.stage = .running ∧ client.old = none

instance (client : Client) : Decidable client.Free :=
  inferInstanceAs (Decidable (_ ∧ _))

def At (client : Client) (search : Search) : Prop :=
  client.finder.worker = .discovering ∧ client.search = search

instance (client : Client) (search : Search) : Decidable (client.At search) :=
  inferInstanceAs (Decidable (_ ∧ _))

def finderStep (client : Client) (label : MdnsAutoFinder.Label) : Except Fault Client :=
  match MdnsAutoFinder.step client.finder label with
  | .error _ => .error .blocked
  | .ok finder => .ok { client with finder }

/-- The second guard of `discover_inner`, where it comes to it. The next one starts anew. -/
def guarded (client : Client) : Client :=
  { client with
    search := .announcing
    interrupted := client.interrupted && client.search ≠ .guarding }

end Client

/-- `interrupt` takes the finder's mutex. The signal it sends only ends a `select`. -/
def step (client : Client) : Label → Except Fault Client
  | .connect =>
      if client.stage = .starting ∧ client.connections < 5 then
        .ok { client with connections := client.connections + 1 }
      else .error .blocked
  | .exec =>
      if client.stage = .starting ∧ client.connections = 5 then
        .ok { client with stage := .running, watch := client.watch.start }.discover
      else .error .blocked
  | .close modified =>
      if client.Free ∧ ¬ (modified = true ∧ client.finder.worker.holdsMutex = true) then
        .ok { client with
          stage := .ended
          interrupted := client.interrupted || modified
          watch := client.watch.stop }
      else .error .blocked
  | .click =>
      if client.Free then
        .ok { client with
          widget := { client.widget with stoppedAutoDiscovery := false } }.discover
      else .error .blocked
  | .deliver =>
      if client.Free then
        match client.posted with
        | [] => .error .blocked
        | signal :: rest => .ok ({ client with posted := rest }.handle signal)
      else .error .blocked
  | .replace =>
      match client.old with
      | some ⟨watch, false⟩ => .ok { client with old := some ⟨watch, true⟩ }
      | _ => .error .blocked
  | .destroy =>
      match client.old with
      | some ⟨⟨_, _, []⟩, true⟩ => .ok { client with old := none }
      | _ => .error .blocked
  | .poll state =>
      if client.watch.polling ≠ .stopped ∧ client.watch.events = [] then
        .ok { client with watch := client.watch.poll state }
      else .error .blocked
  | .act =>
      match client.watch.events with
      | [] => .error .blocked
      | event :: rest =>
          let connected := client.old.all (·.replaced)
          .ok ({ client with watch := { client.watch with events := rest } }.perform
            connected event)
  | .oldPoll state =>
      match client.old with
      | some old =>
          if old.watch.polling ≠ .stopped ∧ old.watch.events = [] then
            .ok { client with old := some { old with watch := old.watch.poll state } }
          else .error .blocked
      | none => .error .blocked
  | .oldAct =>
      match client.old with
      | some ⟨⟨watcher, polling, event :: rest⟩, replaced⟩ =>
          .ok ({ client with old := some ⟨⟨watcher, polling, rest⟩, replaced⟩ }.perform
            (!replaced) event)
      | _ => .error .blocked
  | .announce =>
      if client.At .announcing then
        .ok ({ client with search := .discovering }.emit [.discovering])
      else .error .blocked
  | .discoverServices (.error error) =>
      if client.At .discovering then
        .ok ({ client with search := .returning }.emit [.discoverFailed error])
      else .error .blocked
  | .discoverServices (.ok ()) =>
      if client.At .discovering then
        if client.interrupted then
          .ok { client with search := .returning, interrupted := false }
        else .ok { client with search := .querying }
      else .error .blocked
  -- The error that is asked for is that of `discover_services`, which has none.
  | .queryServices none =>
      if client.At .querying then .error .undefinedBehaviour else .error .blocked
  | .queryServices (some records) =>
      if client.At .querying then
        let found := MdnsQuery.queryServices records
        .ok ({ client with search := .guarding }.emit [.changeChannel found, .discovered found])
      else .error .blocked
  | .finder .discover => .error .blocked
  | .finder .worker =>
      if client.finder.worker = .discovering ∧
          ¬ (client.search = .guarding ∨ client.search = .returning) then .error .blocked
      else client.guarded.finderStep .worker
  | .finder .spuriousWakeup => client.finderStep .spuriousWakeup
  -- The destructor runs behind the end of `main`.
  | .finder label =>
      if client.stage = .ended then client.finderStep label else .error .blocked

def Client.starts (client : Client) : Label → Nat
  | .finder .worker =>
      if client.finder.worker = .created ∨
          client.finder.worker = .testing ∧ client.finder.stop = false then 1
      else 0
  | _ => 0

/-- What wakes the worker besides the watchers: the start, the user and the system. -/
def Client.asks (_ : Client) : Label → Nat
  | .exec | .click | .finder .spuriousWakeup => 1
  | _ => 0

/-- What starts a new budget: a channel that works again, or another one. -/
def Client.renewals (client : Client) : Label → Nat
  | .poll state => if client.watch.Renews state then 1 else 0
  | .oldPoll state =>
      match client.old with
      | some old => if old.watch.Renews state then 1 else 0
      | none => 0
  | .deliver =>
      match client.posted with
      | .changeChannel (_ :: _) :: _ => 1
      | _ => 0
  | _ => 0

end Model

section Budget
variable {finder : CMDnsAutoFinder} {watch : Watch} {client : Client}

def due (finder : CMDnsAutoFinder) : Nat :=
  match finder.worker with
  | .created => 1
  | .waking | .testing => if finder.stop then 0 else 1
  | .discovering | .locking | .entering | .waiting | .exited => 0

def Watch.credit (watch : Watch) : Nat :=
  5 - watch.watcher.connectionFailureCount + watch.events.count .discover

def Client.left (client : Client) : Nat :=
  due client.finder + client.watch.credit +
    match client.old with
    | some old => old.watch.credit
    | none => 0

structure Solvent (client : Client) : Prop where
  watch : client.watch.watcher.Budgeted
  old : ∀ old, client.old = some old → old.watch.watcher.Budgeted
  stops : client.finder.stop = true ∨ client.finder.destructor = .notCalled ∨
    client.finder.destructor = .locked

theorem initial_solvent (stoppedAutoDiscovery : Bool) : Solvent (initial stoppedAutoDiscovery) where
  watch := CChangeStateWatcher.start_budgeted
  old _ absent := nomatch absent
  stops := .inr (.inl rfl)

theorem due_notify (finder : CMDnsAutoFinder) (unserved : Nat) :
    due { finder with worker := finder.worker.notify, unserved } ≤ due finder + 1 := by
  cases point : finder.worker with
  | waiting =>
      simp only [due, point, MdnsAutoFinder.Worker.notify]
      split <;> omega
  | created | discovering | locking | entering | waking | testing | exited =>
      simp [due, point, MdnsAutoFinder.Worker.notify]

theorem due_workerStep {next : CMDnsAutoFinder}
    (taken : MdnsAutoFinder.workerStep finder = .ok next) :
    (if finder.worker = .created ∨ finder.worker = .testing ∧ finder.stop = false
      then 1 else 0) + due next ≤ due finder := by
  cases point : finder.worker with
  | created | discovering | entering =>
      simp only [MdnsAutoFinder.workerStep, point, Except.ok.injEq] at taken
      subst taken
      simp [due, point, MdnsAutoFinder.startDiscovery]
  | locking | waking =>
      simp only [MdnsAutoFinder.workerStep, point] at taken
      split at taken
      · cases taken
      · cases taken
        simp [due, point]
  | testing =>
      simp only [MdnsAutoFinder.workerStep, point] at taken
      split at taken
      next stopped =>
        cases taken
        simp [due, stopped]
      next running =>
        cases taken
        simp [due, point, running, MdnsAutoFinder.startDiscovery]
  | waiting | exited => simp [MdnsAutoFinder.workerStep, point] at taken

theorem due_wakeup {next : CMDnsAutoFinder}
    (taken : MdnsAutoFinder.step finder .spuriousWakeup = .ok next) :
    due next ≤ due finder + 1 := by
  simp only [MdnsAutoFinder.step] at taken
  split at taken
  next waiting =>
    cases taken
    simp only [due, waiting]
    split <;> omega
  next => cases taken

theorem due_destructor {next : CMDnsAutoFinder} (label : MdnsAutoFinder.Label)
    (stops : finder.stop = true ∨ finder.destructor = .notCalled ∨ finder.destructor = .locked)
    (taken : MdnsAutoFinder.step finder label = .ok next)
    (destructor : label ≠ .worker ∧ label ≠ .spuriousWakeup ∧ label ≠ .discover) :
    due next ≤ due finder := by
  cases label with
  | worker | spuriousWakeup | discover => simp at destructor
  | lock | unlock | join =>
      simp only [MdnsAutoFinder.step] at taken
      split at taken
      · cases taken
        exact Nat.le_refl _
      · cases taken
  | setStop =>
      simp only [MdnsAutoFinder.step] at taken
      split at taken
      · cases taken
        simp only [due]
        split <;> simp
      · cases taken
  | notifyAll =>
      simp only [MdnsAutoFinder.step] at taken
      split at taken
      next unlocked =>
        cases taken
        have stopped : finder.stop = true := by simpa [unlocked] using stops
        cases point : finder.worker <;> simp [due, point, stopped, MdnsAutoFinder.Worker.notify]
      next => cases taken

theorem stops_step {next : CMDnsAutoFinder} (label : MdnsAutoFinder.Label)
    (stops : finder.stop = true ∨ finder.destructor = .notCalled ∨ finder.destructor = .locked)
    (taken : MdnsAutoFinder.step finder label = .ok next) :
    next.stop = true ∨ next.destructor = .notCalled ∨ next.destructor = .locked := by
  cases label with
  | worker =>
      simp only [MdnsAutoFinder.step, MdnsAutoFinder.workerStep] at taken
      split at taken <;> (try split at taken) <;> first | (cases taken; exact stops) | cases taken
  | discover =>
      cases taken
      exact stops
  | spuriousWakeup =>
      simp only [MdnsAutoFinder.step] at taken
      split at taken
      · cases taken
        exact stops
      · cases taken
  | lock =>
      simp only [MdnsAutoFinder.step] at taken
      split at taken
      · cases taken
        exact .inr (.inr rfl)
      · cases taken
  | setStop =>
      simp only [MdnsAutoFinder.step] at taken
      split at taken
      · cases taken
        exact .inl rfl
      · cases taken
  | unlock | notifyAll =>
      simp only [MdnsAutoFinder.step] at taken
      split at taken
      next held =>
        cases taken
        left
        simpa [held] using stops
      next => cases taken
  | join =>
      simp only [MdnsAutoFinder.step] at taken
      split at taken
      next told =>
        cases taken
        left
        simpa [told.1] using stops
      next => cases taken

theorem Watch.credit_poll (state : GrpcConnectivityState) (budgeted : watch.watcher.Budgeted)
    (done : watch.events = []) :
    (watch.poll state).credit ≤ watch.credit + 5 * if watch.Renews state then 1 else 0 := by
  have after := watch.watcher.poll_budgeted state budgeted
  by_cases restores : state.Restores
  · have restored := watch.watcher.poll_restores state budgeted restores
    -- A state that is found again has given back its tries before.
    have quiet : (watch.watcher.poll state).2.count .discover = 0 := by
      have other : state ≠ .transientFailure := by
        rintro rfl
        simp [GrpcConnectivityState.Restores] at restores
      rw [CChangeStateWatcher.poll, CChangeStateWatcher.tryDiscovery_other _ _ other]
      simpa using watch.watcher.rememberState_silent state .discover rfl
    simp only [credit, poll, quiet]
    by_cases same : watch.watcher.state = state
    · have unspent := budgeted.unspent (same ▸ restores)
      omega
    · rw [if_pos (show watch.Renews state from ⟨restores, same⟩)]
      omega
  · have discovers := watch.watcher.poll_discovers state restores
    have within := after.within
    simp only [credit, poll, done, List.count_nil]
    omega

/-- What a step leaves of the invariant, and what it takes. -/
def Pays (client next : Client) (cost income : Nat) : Prop :=
  Solvent next ∧ cost + next.left ≤ client.left + income

theorem pays_of_same {next : Client} (solvent : Solvent client)
    (finder : next.finder = client.finder) (watcher : next.watch.watcher = client.watch.watcher)
    (events : next.watch.events = client.watch.events) (old : next.old = client.old) :
    Pays client next 0 0 := by
  refine ⟨⟨?_, ?_, ?_⟩, ?_⟩
  · rw [watcher]
    exact solvent.watch
  · rw [old]
    exact solvent.old
  · rw [finder]
    exact solvent.stops
  · simp only [Client.left, Watch.credit, finder, watcher, events, old]
    omega

theorem discover_pays (solvent : Solvent client) : Pays client client.discover 0 1 := by
  have due := due_notify client.finder (client.finder.unserved + 1)
  refine ⟨⟨solvent.watch, solvent.old, solvent.stops⟩, ?_⟩
  simp only [Client.left, Client.discover]
  omega

theorem perform_pays (connected : Bool) (event : Event) (solvent : Solvent client) :
    Pays client (client.perform connected event) 0 ([event].count .discover) := by
  cases event with
  | discover => exact discover_pays solvent
  | stoppingAutoDiscovery | channelStateChanged state =>
      cases connected <;> exact pays_of_same solvent rfl rfl rfl rfl

theorem Pays.more {next : Client} {cost income more : Nat} (paid : Pays client next cost income)
    (enough : income ≤ more) : Pays client next cost more := by
  have enoughPaid := paid.2
  exact ⟨paid.1, by omega⟩

theorem Pays.trans {middle next : Client} {cost income more : Nat}
    (first : Pays client middle cost income) (second : Pays middle next 0 more) :
    Pays client next cost (income + more) := by
  refine ⟨second.1, ?_⟩
  have one := first.2
  have two := second.2
  omega

theorem handle_pays (signal : Posted) (rest : List Posted) (solvent : Solvent client)
    (alone : client.old = none) (posted : client.posted = signal :: rest) :
    Pays client ({ client with posted := rest }.handle signal) 0
      (5 * client.renewals .deliver) := by
  cases signal with
  | changeChannel found =>
      cases found with
      | nil =>
          refine Pays.more ?_ (Nat.zero_le _)
          exact pays_of_same solvent rfl rfl rfl rfl
      | cons first others =>
          refine ⟨⟨CChangeStateWatcher.start_budgeted, ?_, solvent.stops⟩, ?_⟩
          · rintro _ ⟨⟩
            exact solvent.watch
          · have fresh : (Watch.start {}).credit = 5 := rfl
            have kept : client.watch.stop.credit = client.watch.credit := rfl
            simp only [Client.left, Client.handle, Client.changeChannel, Client.renewals, posted,
              alone, fresh, kept]
            omega
  | channelStateChanged state | stoppingAutoDiscovery | discovering | discovered found
    | discoverFailed error =>
      refine Pays.more ?_ (Nat.zero_le _)
      exact pays_of_same solvent rfl rfl rfl rfl

theorem finderStep_pays {next : Client} (label : MdnsAutoFinder.Label) (solvent : Solvent client)
    (called : label ≠ .discover) (taken : client.finderStep label = .ok next) :
    Pays client next (client.starts (.finder label)) (client.asks (.finder label)) := by
  simp only [Client.finderStep] at taken
  split at taken
  · cases taken
  next finder moved =>
    cases taken
    have stops := stops_step label solvent.stops moved
    refine ⟨⟨solvent.watch, solvent.old, stops⟩, ?_⟩
    cases label with
    | worker =>
        have paid := due_workerStep moved
        simp only [Client.left, Client.starts, Client.asks]
        omega
    | spuriousWakeup =>
        have paid := due_wakeup moved
        simp only [Client.left, Client.starts, Client.asks]
        omega
    | discover => exact absurd rfl called
    | lock | setStop | unlock | notifyAll | join =>
        have paid := due_destructor _ solvent.stops moved (by simp)
        simp only [Client.left, Client.starts, Client.asks]
        omega

theorem poll_pays (state : GrpcConnectivityState) (solvent : Solvent client)
    (done : client.watch.events = []) :
    Pays client { client with watch := client.watch.poll state } 0
      (5 * client.renewals (.poll state)) := by
  have credit := Watch.credit_poll state solvent.watch done
  refine ⟨⟨client.watch.watcher.poll_budgeted state solvent.watch, solvent.old, solvent.stops⟩, ?_⟩
  simp only [Client.left, Client.renewals]
  omega

theorem oldPoll_pays {old : Old} (state : GrpcConnectivityState) (solvent : Solvent client)
    (changing : client.old = some old) (done : old.watch.events = []) :
    Pays client { client with old := some { old with watch := old.watch.poll state } } 0
      (5 * client.renewals (.oldPoll state)) := by
  have budgeted := solvent.old old changing
  have credit := Watch.credit_poll state budgeted done
  refine ⟨⟨solvent.watch, ?_, solvent.stops⟩, ?_⟩
  · rintro _ ⟨⟩
    exact old.watch.watcher.poll_budgeted state budgeted
  · simp only [Client.left, Client.renewals, changing]
    omega

theorem Watch.credit_events (watch : Watch) (event : Event) (rest : List Event)
    (events : watch.events = event :: rest) :
    watch.credit = { watch with events := rest }.credit + [event].count .discover := by
  simp only [credit, events]
  rw [← List.singleton_append, List.count_append]
  omega

theorem act_pays {event : Event} {rest : List Event} (connected : Bool)
    (solvent : Solvent client) (events : client.watch.events = event :: rest) :
    Pays client ({ client with watch := { client.watch with events := rest } }.perform
      connected event) 0 0 := by
  have credit := client.watch.credit_events event rest events
  have behind : Solvent { client with watch := { client.watch with events := rest } } :=
    ⟨solvent.watch, solvent.old, solvent.stops⟩
  have paid := perform_pays connected event behind
  refine ⟨paid.1, ?_⟩
  have spent := paid.2
  simp only [Client.left] at spent ⊢
  omega

theorem oldAct_pays {watcher : CChangeStateWatcher} {polling : Polling} {event : Event}
    {rest : List Event} {replaced : Bool} (connected : Bool) (solvent : Solvent client)
    (changing : client.old = some ⟨⟨watcher, polling, event :: rest⟩, replaced⟩) :
    Pays client ({ client with old := some ⟨⟨watcher, polling, rest⟩, replaced⟩ }.perform
      connected event) 0 0 := by
  have credit : Watch.credit ⟨watcher, polling, event :: rest⟩ =
      Watch.credit ⟨watcher, polling, rest⟩ + [event].count .discover :=
    Watch.credit_events _ event rest rfl
  have behind : Solvent { client with old := some ⟨⟨watcher, polling, rest⟩, replaced⟩ } := by
    refine ⟨solvent.watch, ?_, solvent.stops⟩
    rintro _ ⟨⟩
    exact solvent.old ⟨⟨watcher, polling, event :: rest⟩, replaced⟩ changing
  have paid := perform_pays connected event behind
  refine ⟨paid.1, ?_⟩
  have spent := paid.2
  simp only [Client.left, changing] at spent ⊢
  omega

theorem step_pays (label : Label) (next : Client) (solvent : Solvent client)
    (taken : step client label = .ok next) :
    Pays client next (client.starts label) (client.asks label + 5 * client.renewals label) := by
  cases label with
  | connect | announce =>
      simp only [step] at taken
      split at taken
      · cases taken
        exact pays_of_same solvent rfl rfl rfl rfl
      · cases taken
  | exec | click =>
      simp only [step] at taken
      split at taken
      · cases taken
        exact discover_pays ⟨solvent.watch, solvent.old, solvent.stops⟩
      · cases taken
  | close modified =>
      simp only [step] at taken
      split at taken
      · cases taken
        exact pays_of_same solvent rfl rfl rfl rfl
      · cases taken
  | deliver =>
      simp only [step] at taken
      split at taken
      next free =>
        cases posted : client.posted with
        | nil => simp [posted] at taken
        | cons signal rest =>
            simp only [posted, Except.ok.injEq] at taken
            subst taken
            exact (handle_pays signal rest solvent free.2 posted).more (Nat.le_add_left _ _)
      next => cases taken
  | replace =>
      simp only [step] at taken
      split at taken
      next watch changing =>
        cases taken
        refine ⟨⟨solvent.watch, ?_, solvent.stops⟩, ?_⟩
        · rintro _ ⟨⟩
          exact solvent.old ⟨watch, false⟩ changing
        · simp [Client.left, Client.starts, changing]
      next => cases taken
  | destroy =>
      simp only [step] at taken
      split at taken
      next changing =>
        cases taken
        refine ⟨⟨solvent.watch, (fun old absent => nomatch absent), solvent.stops⟩, ?_⟩
        simp only [Client.left, Client.starts, changing]
        omega
      next => cases taken
  | poll state =>
      simp only [step] at taken
      split at taken
      next polls =>
        cases taken
        exact (poll_pays state solvent polls.2).more (Nat.le_add_left _ _)
      next => cases taken
  | oldPoll state =>
      simp only [step] at taken
      split at taken
      next old changing =>
        split at taken
        next polls =>
          cases taken
          exact (oldPoll_pays state solvent changing polls.2).more (Nat.le_add_left _ _)
        next => cases taken
      next => cases taken
  | act =>
      cases events : client.watch.events with
      | nil => simp [step, events] at taken
      | cons event rest =>
          simp only [step, events, Except.ok.injEq] at taken
          subst taken
          exact act_pays _ solvent events
  | oldAct =>
      simp only [step] at taken
      split at taken
      next changing =>
        cases taken
        exact oldAct_pays _ solvent changing
      next => cases taken
  | discoverServices result =>
      cases result with
      | error error =>
          simp only [step] at taken
          split at taken
          · cases taken
            exact pays_of_same solvent rfl rfl rfl rfl
          · cases taken
      | ok done =>
          simp only [step] at taken
          split at taken
          · split at taken <;> cases taken <;> exact pays_of_same solvent rfl rfl rfl rfl
          · cases taken
  | queryServices result =>
      cases result with
      | none =>
          simp only [step] at taken
          split at taken <;> cases taken
      | some records =>
          simp only [step] at taken
          split at taken
          · cases taken
            exact pays_of_same solvent rfl rfl rfl rfl
          · cases taken
  | finder label =>
      cases label with
      | discover => cases taken
      | worker =>
          simp only [step] at taken
          split at taken
          · cases taken
          · have behind : Solvent client.guarded := ⟨solvent.watch, solvent.old, solvent.stops⟩
            have paid := finderStep_pays .worker behind (by simp) taken
            exact paid
      | spuriousWakeup => exact finderStep_pays .spuriousWakeup solvent (by simp) taken
      | lock | setStop | unlock | notifyAll | join =>
          simp only [step] at taken
          split at taken
          · exact finderStep_pays _ solvent (by simp) taken
          · cases taken

/-- However the threads are scheduled and whatever they find: of the discoveries that start,
one is the first, one is for each time the worker is woken from outside, and five are for
each watcher and for each time its channel works again. -/
theorem discoveries_bounded (stoppedAutoDiscovery : Bool) (labels : List Label) (last : Client)
    (reached : Runs.run step (initial stoppedAutoDiscovery) labels = .ok last) :
    let start := initial stoppedAutoDiscovery
    Runs.total step Client.starts start labels ≤
      6 + Runs.total step Client.asks start labels +
        5 * Runs.total step Client.renewals start labels := by
  have paid := Runs.run_pays Solvent Client.left Client.starts
    (fun client label => client.asks label + 5 * client.renewals label)
    (fun client label next solvent taken => (step_pays label next solvent taken).1)
    (fun client label next solvent taken => (step_pays label next solvent taken).2)
    _ last labels (initial_solvent stoppedAutoDiscovery) reached
  have first : (initial stoppedAutoDiscovery).left = 6 := rfl
  rw [Runs.total_add, Runs.total_mul] at paid
  dsimp only
  omega

def failing : List Label :=
  [.announce, .discoverServices (.error "Failed to open any client sockets"),
    .finder .worker, .finder .worker, .finder .worker]

def tried : List Label :=
  [.poll .transientFailure, .act, .finder .worker, .finder .worker] ++ failing

/-- The first discovery, the call of `exec` and five failing polls. -/
def unreachable : List Label :=
  .finder .worker :: failing ++ List.replicate 5 .connect ++
    [.exec, .finder .worker, .finder .worker] ++ failing ++
    tried ++ [.act] ++ tried ++ tried ++ tried ++ tried

/-- One discovery is asked for while the worker waits, no watcher is renewed, and all the
discoveries that may start do. -/
theorem discoveries_bounded_of_unreachable :
    (∃ last, Runs.run step (initial true) unreachable = .ok last) ∧
    Runs.total step Client.asks (initial true) unreachable = 1 ∧
    Runs.total step Client.renewals (initial true) unreachable = 0 ∧
    Runs.total step Client.starts (initial true) unreachable = 7 ∧
    Runs.total step Client.starts (initial true) unreachable ≤
      6 + Runs.total step Client.asks (initial true) unreachable +
        5 * Runs.total step Client.renewals (initial true) unreachable :=
  ⟨⟨_, rfl⟩, by decide +kernel, by decide +kernel, by decide +kernel,
    discoveries_bounded true unreachable _ rfl⟩

end Budget
end SaneInTheMembrane.AutoDiscovery

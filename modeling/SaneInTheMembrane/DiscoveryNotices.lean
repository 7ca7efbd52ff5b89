import SaneInTheMembrane.AutoDiscovery

/-!
What Ui/SemaphoreWidget.cpp says about the discoveries. The signals are behind the threads
that send them, so a text is judged when everything posted has been handled. Only a click
takes back that automatic discovery has stopped.
-/

namespace SaneInTheMembrane.AutoDiscovery

open ChannelStateWatcher (CChangeStateWatcher GrpcConnectivityState Event autoConnectMaxTries)
open MdnsAutoFinder (CMDnsAutoFinder)
open MdnsQuery (SQueryResult)

section Model

/-- The widget when all that is posted has been handled. -/
def Client.settled (client : Client) : CSemaphoreWidget :=
  client.posted.foldl CSemaphoreWidget.handle client.widget

def CSemaphoreWidget.SaysStopped (widget : CSemaphoreWidget) : Prop :=
  widget.stoppedAutoDiscovery = true ∨ widget.text = autodiscoverStoppedMessage

/-- What it says of automatic discovery is true of the watcher. -/
def Truthful (client : Client) : Prop :=
  client.settled.SaysStopped →
    client.watch.watcher.connectionFailureCount = autoConnectMaxTries

/-- No tries come back while the widget says that there are none, and the signal of the old
watcher comes before its proxy has the new one only if that one has none, too. -/
def RenewsUnsaid (client : Client) : Label → Prop
  | .poll state => client.watch.polling ≠ .stopped → client.watch.events = [] →
      client.watch.Renews state → ¬ client.settled.SaysStopped
  | .deliver => client.Free → ∀ found others rest,
      client.posted = .changeChannel (found :: others) :: rest → ¬ client.settled.SaysStopped
  | .oldAct => ∀ watcher polling rest,
      client.old = some ⟨⟨watcher, polling, .stoppingAutoDiscovery :: rest⟩, false⟩ →
        client.watch.watcher.connectionFailureCount = autoConnectMaxTries
  | _ => True

/-- The widget says that it connects while somebody looks for a server. -/
def Searching (client : Client) : Prop :=
  client.settled.text = CSemaphoreWidget.connectingMessage →
    client.At .discovering ∨ client.At .querying

/-- The end of a discovery is told to a widget that has been told of its start. -/
def EndsTold (client : Client) : Label → Prop
  | .discoverServices (.error _) => client.At .discovering →
      client.settled.text = CSemaphoreWidget.connectingMessage → 4 ≤ client.connections
  | .discoverServices (.ok _) => client.At .discovering →
      client.settled.text = CSemaphoreWidget.connectingMessage → client.interrupted = false
  | .queryServices (some _) => client.At .querying →
      client.settled.text = CSemaphoreWidget.connectingMessage → 3 ≤ client.connections
  | .queryServices none => ¬ client.At .querying
  | _ => True

end Model

section Widget
variable {widget other : CSemaphoreWidget}

open CSemaphoreWidget (autodiscoverStoppedMessage connectingMessage connectedMessage
  unableToFindScannerServerMessage failedToDiscoverQueryMessage)

theorem stopped_message : ∀ text ∈ [unableToFindScannerServerMessage, connectedMessage,
    connectingMessage, failedToDiscoverQueryMessage], text ≠ autodiscoverStoppedMessage := by
  decide

theorem connecting_message : ∀ text ∈ [unableToFindScannerServerMessage, connectedMessage,
    autodiscoverStoppedMessage, failedToDiscoverQueryMessage], text ≠ connectingMessage := by
  decide

theorem handle_nothing (widget : CSemaphoreWidget) :
    (widget.handle (.discovered [])).text ≠ connectingMessage ∧
    ((widget.handle (.discovered [])).text = autodiscoverStoppedMessage ↔
      widget.stoppedAutoDiscovery = true) := by
  obtain ⟨light, text, stopped⟩ := widget
  cases stopped with
  | false =>
      constructor
      · exact connecting_message unableToFindScannerServerMessage (by decide)
      · apply iff_of_false
        · exact stopped_message unableToFindScannerServerMessage (by decide)
        · exact Bool.false_ne_true
  | true => exact ⟨connecting_message autodiscoverStoppedMessage (by decide), iff_of_true rfl rfl⟩

/-- One widget has neither of these texts unless the other has it. -/
structure Within (widget other : CSemaphoreWidget) : Prop where
  stopped : widget.stoppedAutoDiscovery = true → other.stoppedAutoDiscovery = true
  noticed : widget.text = autodiscoverStoppedMessage → other.text = autodiscoverStoppedMessage
  connecting : widget.text = connectingMessage → other.text = connectingMessage

theorem cleared_within (widget : CSemaphoreWidget) :
    Within { widget with stoppedAutoDiscovery := false } widget where
  stopped cleared := absurd cleared Bool.false_ne_true
  noticed := id
  connecting := id

theorem handle_within (signal : Posted) (within : Within widget other) :
    Within (widget.handle signal) (other.handle signal) := by
  cases signal with
  | channelStateChanged state =>
      cases state <;> exact ⟨within.stopped, within.noticed, within.connecting⟩
  | changeChannel found => exact within
  | stoppingAutoDiscovery => exact ⟨fun _ => rfl, fun _ => rfl, id⟩
  | discovering | discoverFailed error => exact ⟨within.stopped, id, id⟩
  | discovered found =>
      cases found with
      | cons first others => exact ⟨within.stopped, id, id⟩
      | nil =>
          obtain ⟨quiet, noticed⟩ := handle_nothing widget
          refine ⟨within.stopped, ?_, fun connecting => absurd connecting quiet⟩
          intro text
          exact (handle_nothing other).2.mpr (within.stopped (noticed.mp text))

theorem foldl_within (signals : List Posted) (within : Within widget other) :
    Within (signals.foldl CSemaphoreWidget.handle widget)
      (signals.foldl CSemaphoreWidget.handle other) := by
  induction signals generalizing widget other with
  | nil => exact within
  | cons signal rest ih => exact ih (handle_within signal within)

theorem handle_saysStopped (signal : Posted) (other : signal ≠ .stoppingAutoDiscovery)
    (told : (widget.handle signal).SaysStopped) : widget.SaysStopped := by
  cases signal with
  | stoppingAutoDiscovery => exact absurd rfl other
  | changeChannel found => exact told
  | channelStateChanged state => cases state <;> exact told
  | discovering =>
      rcases told with stopped | text
      · exact .inl stopped
      · exact absurd text (stopped_message connectingMessage (by decide))
  | discoverFailed error =>
      rcases told with stopped | text
      · exact .inl stopped
      · exact absurd text (stopped_message failedToDiscoverQueryMessage (by decide))
  | discovered found =>
      cases found with
      | nil =>
          rcases told with stopped | text
          · exact .inl stopped
          · exact .inl ((handle_nothing widget).2.mp text)
      | cons first others =>
          rcases told with stopped | text
          · exact .inl stopped
          · exact absurd text (stopped_message connectedMessage (by decide))

theorem foldl_saysStopped (signals : List Posted) (others : .stoppingAutoDiscovery ∉ signals)
    (told : (signals.foldl CSemaphoreWidget.handle widget).SaysStopped) :
    widget.SaysStopped := by
  induction signals generalizing widget with
  | nil => exact told
  | cons signal rest ih =>
      rw [List.mem_cons, not_or] at others
      exact handle_saysStopped signal (Ne.symm others.1) (ih others.2 told)

theorem handle_connecting (signal : Posted) (other : signal ≠ .discovering)
    (told : (widget.handle signal).text = connectingMessage) :
    widget.text = connectingMessage := by
  cases signal with
  | discovering => exact absurd rfl other
  | changeChannel found => exact told
  | channelStateChanged state => cases state <;> exact told
  | stoppingAutoDiscovery =>
      exact absurd told (connecting_message autodiscoverStoppedMessage (by decide))
  | discoverFailed error =>
      exact absurd told (connecting_message failedToDiscoverQueryMessage (by decide))
  | discovered found =>
      cases found with
      | nil => exact absurd told (handle_nothing widget).1
      | cons first others =>
          exact absurd told (connecting_message connectedMessage (by decide))

end Widget

section Stopped
variable {client next : Client}

/-- The signal that discovery stops is sent by a watcher that has no tries left. -/
structure Noted (client : Client) : Prop where
  truthful : Truthful client
  budgeted : client.watch.watcher.Budgeted
  pending : .stoppingAutoDiscovery ∈ client.watch.events →
    client.watch.watcher.connectionFailureCount = 5

theorem settled_emit (client : Client) (signals : List Posted) :
    (client.emit signals).settled =
      (signals.filter fun signal => signal.connection ≤ client.connections).foldl
        CSemaphoreWidget.handle client.settled := by
  simp [Client.settled, Client.emit, List.foldl_append]

theorem Noted.moved (noted : Noted client)
    (told : next.settled.SaysStopped → client.settled.SaysStopped)
    (watcher : next.watch.watcher = client.watch.watcher)
    (events : ∀ event ∈ next.watch.events, event ∈ client.watch.events) : Noted next := by
  constructor
  · intro stopped
    rw [watcher]
    exact noted.truthful (told stopped)
  · rw [watcher]
    exact noted.budgeted
  · intro pending
    rw [watcher]
    exact noted.pending (events _ pending)

theorem Noted.emit (noted : Noted client) (signals : List Posted)
    (others : .stoppingAutoDiscovery ∉ signals) : Noted (client.emit signals) := by
  apply Noted.moved noted
  · rw [settled_emit]
    apply foldl_saysStopped
    intro member
    exact others (List.mem_of_mem_filter member)
  · rfl
  · exact fun _ => id

theorem Noted.perform (noted : Noted client) (connected : Bool) (event : Event)
    (stops : connected = true → event = .stoppingAutoDiscovery →
      client.watch.watcher.connectionFailureCount = 5) :
    Noted (client.perform connected event) := by
  cases event with
  | discover => exact noted.moved id rfl fun _ => id
  | channelStateChanged state =>
      cases connected with
      | false => exact noted
      | true => exact noted.emit [.channelStateChanged state] (by simp)
  | stoppingAutoDiscovery =>
      cases connected with
      | false => exact noted
      | true => exact ⟨fun _ => stops rfl rfl, noted.budgeted, noted.pending⟩

theorem Noted.poll (noted : Noted client) (state : GrpcConnectivityState)
    (unsaid : client.watch.Renews state → ¬ client.settled.SaysStopped) :
    Noted { client with watch := client.watch.poll state } := by
  have within := noted.budgeted.within
  have spends := client.watch.watcher.poll_spends state within
  refine ⟨?_, client.watch.watcher.poll_budgeted state noted.budgeted, ?_⟩
  · intro stopped
    have spent : client.watch.watcher.connectionFailureCount = 5 := noted.truthful stopped
    by_cases restores : state.Restores
    · -- A state that is found again leaves no tries to a watcher that has some.
      by_cases same : client.watch.watcher.state = state
      · have unspent := noted.budgeted.unspent (same ▸ restores)
        omega
      · exact absurd stopped (unsaid ⟨restores, same⟩)
    · have after := spends restores
      change (client.watch.watcher.poll state).1.connectionFailureCount = 5
      omega
  · intro pending
    obtain ⟨failing, fourth⟩ := client.watch.watcher.stopping_mem_poll state |>.mp pending
    subst failing
    have after := spends (by simp [GrpcConnectivityState.Restores])
    rw [List.count_singleton_self] at after
    change (client.watch.watcher.poll _).1.connectionFailureCount = 5
    omega

theorem settled_handle {signal : Posted} {rest : List Posted}
    (posted : client.posted = signal :: rest) :
    ({ client with posted := rest }.handle signal).settled = client.settled := by
  have all : client.settled =
      rest.foldl CSemaphoreWidget.handle (client.widget.handle signal) := by
    rw [Client.settled, posted, List.foldl_cons]
  rw [all]
  cases signal with
  | changeChannel found => cases found <;> rfl
  | channelStateChanged state | stoppingAutoDiscovery | discovering | discovered found
    | discoverFailed error => rfl

theorem Noted.deliver {signal : Posted} {rest : List Posted} (noted : Noted client)
    (posted : client.posted = signal :: rest)
    (unsaid : ∀ found others, signal = .changeChannel (found :: others) →
      ¬ client.settled.SaysStopped) : Noted ({ client with posted := rest }.handle signal) := by
  have settled := settled_handle posted
  have elsewhere : (∀ found others, signal ≠ .changeChannel (found :: others)) →
      ({ client with posted := rest }.handle signal).watch = client.watch := by
    intro other
    cases signal with
    | changeChannel found =>
        cases found with
        | nil => rfl
        | cons found others => exact absurd rfl (other found others)
    | channelStateChanged state | stoppingAutoDiscovery | discovering | discovered found
      | discoverFailed error => rfl
  by_cases changes : ∃ found others, signal = .changeChannel (found :: others)
  · obtain ⟨found, others, rfl⟩ := changes
    refine ⟨?_, CChangeStateWatcher.start_budgeted, fun pending => nomatch pending⟩
    intro stopped
    rw [settled] at stopped
    exact absurd stopped (unsaid found others rfl)
  · have same := elsewhere fun found others change => changes ⟨found, others, change⟩
    apply Noted.moved noted
    · rw [settled]
      exact id
    · rw [same]
    · rw [same]
      exact fun _ => id

theorem Noted.finderStep (noted : Noted client) (label : MdnsAutoFinder.Label) :
    Runs.Ends Noted (fun _ => True) (client.finderStep label) := by
  simp only [Client.finderStep]
  split
  · trivial
  · exact noted.moved id rfl fun _ => id

theorem step_noted (client : Client) (label : Label) (noted : Noted client)
    (unsaid : RenewsUnsaid client label) :
    Runs.Ends Noted (fun _ => True) (step client label) := by
  cases label with
  | connect | exec | close modified =>
      simp only [step]
      split
      · exact noted.moved id rfl fun _ => id
      · trivial
  | click =>
      simp only [step]
      split
      · apply Noted.moved noted
        · have settled := foldl_within client.posted (cleared_within client.widget)
          exact Or.imp settled.stopped settled.noticed
        · rfl
        · exact fun _ => id
      · trivial
  | deliver =>
      simp only [step]
      split
      next free =>
        cases posted : client.posted with
        | nil => trivial
        | cons signal rest =>
            apply noted.deliver posted
            rintro found others rfl
            exact unsaid free found others rest posted
      next => trivial
  | replace | destroy =>
      simp only [step]
      split
      · exact noted.moved id rfl fun _ => id
      · trivial
  | poll state =>
      simp only [step]
      split
      next polls => exact noted.poll state (unsaid polls.1 polls.2)
      next => trivial
  | act =>
      cases events : client.watch.events with
      | nil => simp [step, events, Runs.Ends]
      | cons event rest =>
          simp only [step, events]
          have behind : Noted { client with watch := { client.watch with events := rest } } := by
            refine noted.moved id rfl ?_
            intro other member
            rw [events]
            exact List.mem_cons_of_mem event member
          apply behind.perform
          rintro _ rfl
          apply noted.pending
          rw [events]
          exact List.mem_cons_self
  | oldPoll state =>
      simp only [step]
      split
      · split
        · exact noted.moved id rfl fun _ => id
        · trivial
      · trivial
  | oldAct =>
      simp only [step]
      split
      next watcher polling event rest replaced changing =>
        have behind : Noted { client with old := some ⟨⟨watcher, polling, rest⟩, replaced⟩ } :=
          noted.moved id rfl fun _ => id
        apply behind.perform
        rintro connected rfl
        cases replaced with
        | false => exact unsaid watcher polling rest changing
        | true => cases connected
      next => trivial
  | announce =>
      simp only [step]
      split
      · have behind : Noted { client with search := .discovering } :=
          noted.moved id rfl fun _ => id
        exact behind.emit [.discovering] (by simp)
      · trivial
  | discoverServices result =>
      cases result with
      | error error =>
          simp only [step]
          split
          · have behind : Noted { client with search := .returning } :=
              noted.moved id rfl fun _ => id
            exact behind.emit [.discoverFailed error] (by simp)
          · trivial
      | ok done =>
          simp only [step]
          split
          · split <;> exact noted.moved id rfl fun _ => id
          · trivial
  | queryServices result =>
      cases result with
      | none =>
          simp only [step]
          split <;> trivial
      | some records =>
          simp only [step]
          split
          · have behind : Noted { client with search := .guarding } :=
              noted.moved id rfl fun _ => id
            exact behind.emit _ (by simp)
          · trivial
  | finder label =>
      cases label with
      | discover => trivial
      | worker =>
          simp only [step]
          split
          · trivial
          · have behind : Noted client.guarded := noted.moved id rfl fun _ => id
            exact behind.finderStep .worker
      | spuriousWakeup => exact noted.finderStep .spuriousWakeup
      | lock | setStop | unlock | notifyAll | join =>
          simp only [step]
          split
          · exact noted.finderStep _
          · trivial

theorem unsaid_of_truthful (client : Client) (label : Label) (noted : Noted client)
    (ends : Runs.Ends Truthful (fun _ => True) (step client label)) :
    RenewsUnsaid client label := by
  cases label with
  | poll state =>
      intro polls done renews stopped
      simp only [step, if_pos (And.intro polls done)] at ends
      have spent := ends stopped
      have unspent := client.watch.watcher.poll_restores state noted.budgeted renews.1
      change (client.watch.watcher.poll state).1.connectionFailureCount = 5 at spent
      omega
  | deliver =>
      intro free found others rest posted stopped
      simp only [step, if_pos free, posted] at ends
      have settled := settled_handle posted
      have spent := ends (settled ▸ stopped)
      cases spent
  | oldAct =>
      intro watcher polling rest changing
      simp only [step, changing] at ends
      apply ends
      left
      simp [Client.settled, Client.perform, Client.emit, Posted.connection,
        CSemaphoreWidget.handle, CSemaphoreWidget.slStoppingAutoDiscovery]
  | connect | exec | close modified | click | replace | destroy | act | oldPoll state | announce
    | discoverServices result | queryServices result | finder label => trivial

/-- The widget tells the truth about automatic discovery along a run exactly if it starts
with a cleared flag and no tries come back while it says that there are none. -/
theorem notices_truthful_iff (stoppedAutoDiscovery : Bool) (labels : List Label) :
    (∀ front, front <+: labels → Runs.Ends Truthful (fun _ => True)
      (Runs.run step (initial stoppedAutoDiscovery) front)) ↔
      stoppedAutoDiscovery = false ∧
        Runs.Along step RenewsUnsaid (initial stoppedAutoDiscovery) labels := by
  cases stoppedAutoDiscovery with
  | true =>
      apply iff_of_false
      · intro truthful
        have start := truthful [] List.nil_prefix
        exact absurd (start (.inl rfl)) (by decide)
      · rintro ⟨⟨⟩, _⟩
  | false =>
      rw [Runs.prefixes_end_iff Noted Truthful (fun _ => True)
        (fun _ noted => noted.truthful) step_noted unsaid_of_truthful]
      · simp
      · refine ⟨?_, CChangeStateWatcher.start_budgeted, fun pending => nomatch pending⟩
        rintro (stopped | text)
        · cases stopped
        · exact absurd text (by decide)

end Stopped

section Connecting
variable {client next : Client}

open CSemaphoreWidget (connectingMessage)

theorem Searching.moved (searching : Searching client)
    (told : next.settled.text = connectingMessage → client.settled.text = connectingMessage)
    (worker : client.finder.worker = .discovering → next.finder.worker = .discovering)
    (search : next.search = client.search) : Searching next := by
  intro connecting
  rcases searching (told connecting) with discovering | querying
  · exact .inl ⟨worker discovering.1, search.trans discovering.2⟩
  · exact .inr ⟨worker querying.1, search.trans querying.2⟩

theorem searching_of_told (told : next.settled.text ≠ connectingMessage) : Searching next :=
  fun connecting => absurd connecting told

theorem search_ended (ended : next.search = .guarding ∨ next.search = .returning) :
    ¬ (next.At .discovering ∨ next.At .querying) := by
  rintro (⟨_, search⟩ | ⟨_, search⟩) <;> simp [search] at ended

theorem Searching.emit (searching : Searching client) (signal : Posted)
    (other : signal ≠ .discovering) : Searching (client.emit [signal]) := by
  apply Searching.moved searching
  · rw [settled_emit]
    by_cases connected : signal.connection ≤ client.connections
    · simp only [List.filter_cons, connected, decide_true, if_true, List.filter_nil,
        List.foldl_cons, List.foldl_nil]
      exact handle_connecting signal other
    · simp [connected]
  · exact id
  · rfl

theorem notify_discovering {worker : MdnsAutoFinder.Worker} (discovering : worker = .discovering) :
    worker.notify = .discovering := by
  rw [discovering]
  rfl

theorem Searching.perform (searching : Searching client) (connected : Bool) (event : Event) :
    Searching (client.perform connected event) := by
  cases event with
  | discover => exact searching.moved id notify_discovering rfl
  | channelStateChanged state =>
      cases connected with
      | false => exact searching
      | true => exact searching.emit _ (by simp)
  | stoppingAutoDiscovery =>
      cases connected with
      | false => exact searching
      | true => exact searching.emit _ (by simp)

theorem settled_discoverFailed (client : Client) (error : String) :
    (client.emit [.discoverFailed error]).settled.text = connectingMessage ↔
      client.settled.text = connectingMessage ∧ ¬ 4 ≤ client.connections := by
  rw [settled_emit]
  by_cases connected : 4 ≤ client.connections
  · apply iff_of_false
    · simp only [List.filter_cons, Posted.connection, connected, decide_true, if_true]
      exact connecting_message CSemaphoreWidget.failedToDiscoverQueryMessage (by decide)
    · simp [connected]
  · simp [Posted.connection, connected]

theorem settled_discovered (client : Client) (found : List SQueryResult) :
    (client.emit [.changeChannel found, .discovered found]).settled.text = connectingMessage ↔
      client.settled.text = connectingMessage ∧ ¬ 3 ≤ client.connections := by
  rw [settled_emit]
  by_cases connected : 3 ≤ client.connections
  · apply iff_of_false
    · have first : 1 ≤ client.connections := by omega
      simp only [List.filter_cons, Posted.connection, connected, first, decide_true, if_true]
      cases found with
      | nil => exact (handle_nothing client.settled).1
      | cons found others =>
          exact connecting_message CSemaphoreWidget.connectedMessage (by decide)
    · simp [connected]
  · by_cases first : 1 ≤ client.connections
    · simp [Posted.connection, connected, first, CSemaphoreWidget.handle]
    · simp [Posted.connection, connected, first]

theorem finder_discovering {finder after : CMDnsAutoFinder} (label : MdnsAutoFinder.Label)
    (other : label ≠ .worker) (taken : MdnsAutoFinder.step finder label = .ok after)
    (discovering : finder.worker = .discovering) : after.worker = .discovering := by
  cases label with
  | worker => exact absurd rfl other
  | discover =>
      cases taken
      exact notify_discovering discovering
  | spuriousWakeup => simp [MdnsAutoFinder.step, discovering] at taken
  | lock | setStop | unlock | notifyAll | join =>
      simp only [MdnsAutoFinder.step] at taken
      split at taken
      · cases taken
        first | exact discovering | exact notify_discovering discovering
      · cases taken

theorem Searching.finderStep (searching : Searching client) (label : MdnsAutoFinder.Label)
    (other : label ≠ .worker) :
    Runs.Ends Searching (· = .blocked) (client.finderStep label) := by
  simp only [Client.finderStep]
  split
  · rfl
  next moved => exact searching.moved id (finder_discovering label other moved) rfl

theorem step_searching (client : Client) (label : Label) (searching : Searching client)
    (ends : EndsTold client label) :
    Runs.Ends Searching (· = .blocked) (step client label) := by
  cases label with
  | connect | replace | destroy =>
      simp only [step]
      split
      · exact searching.moved id id rfl
      · rfl
  | exec =>
      simp only [step]
      split
      · exact searching.moved id notify_discovering rfl
      · rfl
  | close modified | poll state =>
      simp only [step]
      split
      · exact searching.moved id id rfl
      · rfl
  | click =>
      simp only [step]
      split
      · have settled := foldl_within client.posted (cleared_within client.widget)
        exact searching.moved settled.connecting notify_discovering rfl
      · rfl
  | deliver =>
      simp only [step]
      split
      · cases posted : client.posted with
        | nil => rfl
        | cons signal rest =>
            have settled := settled_handle posted
            apply Searching.moved searching
            · rw [settled]
              exact id
            · cases signal with
              | changeChannel found => cases found <;> exact id
              | channelStateChanged state | stoppingAutoDiscovery | discovering
                | discovered found | discoverFailed error => exact id
            · cases signal with
              | changeChannel found => cases found <;> rfl
              | channelStateChanged state | stoppingAutoDiscovery | discovering
                | discovered found | discoverFailed error => rfl
      · rfl
  | act =>
      cases events : client.watch.events with
      | nil => simp [step, events, Runs.Ends]
      | cons event rest =>
          simp only [step, events]
          have behind : Searching { client with watch := { client.watch with events := rest } } :=
            searching.moved id id rfl
          exact behind.perform _ event
  | oldPoll state =>
      simp only [step]
      split
      · split
        · exact searching.moved id id rfl
        · rfl
      · rfl
  | oldAct =>
      simp only [step]
      split
      next watcher polling event rest replaced changing =>
        have behind : Searching { client with
            old := some ⟨⟨watcher, polling, rest⟩, replaced⟩ } :=
          searching.moved id id rfl
        exact behind.perform _ event
      next => rfl
  | announce =>
      simp only [step]
      split
      next point => exact fun _ => .inl ⟨point.1, rfl⟩
      next => rfl
  | discoverServices result =>
      cases result with
      | error error =>
          simp only [step]
          split
          next point =>
            apply searching_of_told
            rw [Ne, settled_discoverFailed]
            rintro ⟨connecting, unconnected⟩
            exact unconnected (ends point connecting)
          next => rfl
      | ok done =>
          simp only [step]
          split
          next point =>
            split
            next interrupted =>
              apply searching_of_told
              intro connecting
              have running := ends point connecting
              simp [running] at interrupted
            next => exact fun _ => .inr ⟨point.1, rfl⟩
          next => rfl
  | queryServices result =>
      cases result with
      | none =>
          simp only [step]
          rw [if_neg ends]
          rfl
      | some records =>
          simp only [step]
          split
          next point =>
            apply searching_of_told
            rw [Ne, settled_discovered]
            rintro ⟨connecting, unconnected⟩
            exact unconnected (ends point connecting)
          next => rfl
  | finder label =>
      cases label with
      | discover => rfl
      | worker =>
          simp only [step]
          split
          next => rfl
          next ended =>
            -- The worker returns only behind the search.
            have told : client.settled.text ≠ connectingMessage := by
              intro connecting
              rcases searching connecting with point | point
              · exact ended ⟨point.1, by simp [point.2]⟩
              · exact ended ⟨point.1, by simp [point.2]⟩
            simp only [Client.finderStep]
            split
            next => rfl
            next => exact searching_of_told told
      | spuriousWakeup => exact searching.finderStep _ (by simp)
      | lock | setStop | unlock | notifyAll | join =>
          simp only [step]
          split
          · exact searching.finderStep _ (by simp)
          · rfl

theorem told_of_searching (client : Client) (label : Label) (_ : Searching client)
    (ends : Runs.Ends Searching (· = .blocked) (step client label)) : EndsTold client label := by
  cases label with
  | discoverServices result =>
      cases result with
      | error error =>
          intro point connecting
          by_contra unconnected
          simp only [step, if_pos point] at ends
          have told := (settled_discoverFailed { client with search := .returning } error).mpr
            ⟨connecting, unconnected⟩
          exact search_ended (.inr rfl) (ends told)
      | ok done =>
          intro point connecting
          by_contra interrupted
          rw [Bool.not_eq_false] at interrupted
          simp only [step, if_pos point, if_pos interrupted] at ends
          exact search_ended (.inr rfl) (ends connecting)
  | queryServices result =>
      cases result with
      | none =>
          intro point
          simp only [step, if_pos point] at ends
          cases ends
      | some records =>
          intro point connecting
          by_contra unconnected
          simp only [step, if_pos point] at ends
          have told := (settled_discovered { client with search := .guarding }
            (MdnsQuery.queryServices records)).mpr ⟨connecting, unconnected⟩
          exact search_ended (.inl rfl) (ends told)
  | connect | exec | close modified | click | deliver | replace | destroy | poll state | act
    | oldPoll state | oldAct | announce | finder label => trivial

/-- Along a run the widget says that it connects only while a server is looked for, and no
error is asked for that there is not, exactly if every discovery it has seen start is told
to have ended: not interrupted, and not before the widget is connected to its end. -/
theorem connecting_is_searching_iff (stoppedAutoDiscovery : Bool) (labels : List Label) :
    (∀ front, front <+: labels → Runs.Ends Searching (· = .blocked)
      (Runs.run step (initial stoppedAutoDiscovery) front)) ↔
      Runs.Along step EndsTold (initial stoppedAutoDiscovery) labels := by
  apply Runs.prefixes_end_iff Searching Searching (fun fault : Fault => fault = .blocked)
    (fun _ => id) step_searching told_of_searching
  apply searching_of_told
  have fresh : "" ≠ connectingMessage := by decide
  exact fresh

end Connecting
end SaneInTheMembrane.AutoDiscovery

import Mathlib.Data.List.Basic
import Mathlib.Data.List.Induction

/-!
Service/ChannelStateChangeService.cpp: what `start_impl` does at each poll of the
channel. Failing polls spend a budget of discoveries. It is given back only where
the state changes, so a poll that finds IDLE or READY again must find it unspent.
-/

namespace SaneInTheMembrane.ChannelStateWatcher

section Model

inductive GrpcConnectivityState where
  | idle | connecting | ready | transientFailure | shutdown
  deriving DecidableEq, Repr

inductive Event where
  | discover
  | stoppingAutoDiscovery
  | channelStateChanged (state : GrpcConnectivityState)
  deriving DecidableEq, Repr

def autoConnectMaxTries : Nat := 5

structure CChangeStateWatcher where
  state : GrpcConnectivityState := .idle
  connectionFailureCount : Nat := 0
  deriving DecidableEq, Repr

namespace CChangeStateWatcher

/-- A failing channel is searched for while the budget lasts. -/
def tryDiscovery (watcher : CChangeStateWatcher) (state : GrpcConnectivityState) :
    CChangeStateWatcher × List Event :=
  if state = .transientFailure ∧ watcher.connectionFailureCount < autoConnectMaxTries then
    let count := watcher.connectionFailureCount + 1
    ({ watcher with connectionFailureCount := count },
      .discover :: if count = autoConnectMaxTries then [.stoppingAutoDiscovery] else [])
  else (watcher, [])

def rememberState (watcher : CChangeStateWatcher) (state : GrpcConnectivityState) :
    CChangeStateWatcher × List Event :=
  if watcher.state = state then (watcher, [])
  else
    let count :=
      if state = .idle ∨ state = .ready then 0 else watcher.connectionFailureCount
    ({ state, connectionFailureCount := count }, [.channelStateChanged state])

def poll (watcher : CChangeStateWatcher) (state : GrpcConnectivityState) :
    CChangeStateWatcher × List Event :=
  let tried := watcher.tryDiscovery state
  let remembered := tried.1.rememberState state
  (remembered.1, tried.2 ++ remembered.2)

def startImpl : CChangeStateWatcher → List GrpcConnectivityState →
    CChangeStateWatcher × List Event
  | watcher, [] => (watcher, [])
  | watcher, state :: rest =>
      let polled := watcher.poll state
      let behind := startImpl polled.1 rest
      (behind.1, polled.2 ++ behind.2)

end CChangeStateWatcher

def after (polled : List GrpcConnectivityState) : CChangeStateWatcher :=
  (CChangeStateWatcher.startImpl {} polled).1

/-- What the poll of this state does behind the others. -/
def eventsAt (polled : List GrpcConnectivityState) (state : GrpcConnectivityState) : List Event :=
  ((after polled).poll state).2

/-- IDLE and READY start a new budget. -/
def GrpcConnectivityState.Restores (state : GrpcConnectivityState) : Prop :=
  state = .idle ∨ state = .ready

instance (state : GrpcConnectivityState) : Decidable state.Restores :=
  inferInstanceAs (Decidable (_ ∨ _))

def Event.changedTo : Event → Option GrpcConnectivityState
  | .channelStateChanged state => some state
  | .discover | .stoppingAutoDiscovery => none

end Model

namespace CChangeStateWatcher
variable (watcher : CChangeStateWatcher) (state : GrpcConnectivityState)

/-- The remembered state is one that restores the budget only while none of it is
spent. -/
structure Budgeted (watcher : CChangeStateWatcher) : Prop where
  within : watcher.connectionFailureCount ≤ 5
  unspent : watcher.state.Restores → watcher.connectionFailureCount = 0

theorem start_budgeted : Budgeted {} where
  within := Nat.zero_le 5
  unspent _ := rfl

@[simp] theorem tryDiscovery_state : (watcher.tryDiscovery state).1.state = watcher.state := by
  unfold tryDiscovery
  split <;> rfl

@[simp] theorem rememberState_state : (watcher.rememberState state).1.state = state := by
  unfold rememberState
  split
  next same => exact same
  next => rfl

@[simp] theorem poll_state : (watcher.poll state).1.state = state :=
  rememberState_state _ state

theorem tryDiscovery_other (other : state ≠ .transientFailure) :
    watcher.tryDiscovery state = (watcher, []) := by
  simp [tryDiscovery, other]

theorem rememberState_count (spends : ¬ state.Restores) :
    (watcher.rememberState state).1.connectionFailureCount = watcher.connectionFailureCount := by
  unfold rememberState
  split
  next => rfl
  next => exact if_neg spends

theorem rememberState_silent (event : Event) (other : event.changedTo = none) :
    (watcher.rememberState state).2.count event = 0 := by
  unfold rememberState
  split
  next => rfl
  next =>
    cases event with
    | discover | stoppingAutoDiscovery => rfl
    | channelStateChanged state => cases other

theorem poll_restores (budgeted : watcher.Budgeted) (restores : state.Restores) :
    (watcher.poll state).1.connectionFailureCount = 0 := by
  have other : state ≠ .transientFailure := by
    rintro rfl
    simp [GrpcConnectivityState.Restores] at restores
  simp only [poll, tryDiscovery_other watcher state other, rememberState]
  split
  next same => exact budgeted.unspent (same ▸ restores)
  next => exact if_pos restores

/-- A poll that restores nothing spends one try if it fails, as far as the budget goes. -/
theorem poll_spends (within : watcher.connectionFailureCount ≤ 5) (spends : ¬ state.Restores) :
    (watcher.poll state).1.connectionFailureCount =
      min 5 (watcher.connectionFailureCount + [state].count .transientFailure) := by
  rw [poll, rememberState_count _ state spends]
  by_cases failing : state = .transientFailure
  · subst failing
    by_cases left : watcher.connectionFailureCount < 5
    · simp only [tryDiscovery, autoConnectMaxTries, left, and_self, ↓reduceIte,
        List.count_singleton_self]
      omega
    · simp only [tryDiscovery, autoConnectMaxTries, left, and_false, ↓reduceIte,
        List.count_singleton_self]
      omega
  · have none : [state].count .transientFailure = 0 := by simp [failing]
    rw [tryDiscovery_other watcher state failing, none]
    simp only
    omega

theorem poll_budgeted (budgeted : watcher.Budgeted) : (watcher.poll state).1.Budgeted := by
  by_cases restores : state.Restores
  · have left := poll_restores watcher state budgeted restores
    exact ⟨by omega, fun _ => left⟩
  · have spent := poll_spends watcher state budgeted.within restores
    refine ⟨by omega, ?_⟩
    intro remembered
    rw [poll_state] at remembered
    exact absurd remembered restores

theorem startImpl_budgeted (states : List GrpcConnectivityState) (budgeted : watcher.Budgeted) :
    (watcher.startImpl states).1.Budgeted := by
  induction states generalizing watcher with
  | nil => exact budgeted
  | cons state rest ih => exact ih _ (poll_budgeted watcher state budgeted)

theorem startImpl_append (front back : List GrpcConnectivityState) :
    watcher.startImpl (front ++ back) =
      let first := watcher.startImpl front
      let second := first.1.startImpl back
      (second.1, first.2 ++ second.2) := by
  induction front generalizing watcher with
  | nil => rfl
  | cons state rest ih =>
      simp only [List.cons_append, startImpl]
      rw [ih]
      simp only [List.append_assoc]

theorem startImpl_spends (states : List GrpcConnectivityState)
    (within : watcher.connectionFailureCount ≤ 5) (spends : ∀ state ∈ states, ¬ state.Restores) :
    (watcher.startImpl states).1.connectionFailureCount =
      min 5 (watcher.connectionFailureCount + states.count .transientFailure) := by
  induction states generalizing watcher with
  | nil =>
      simp only [startImpl, List.count_nil]
      omega
  | cons state rest ih =>
      have first := poll_spends watcher state within (spends state List.mem_cons_self)
      have tail := ih (watcher.poll state).1 (by omega)
        fun other member => spends other (List.mem_cons_of_mem _ member)
      have counted : (state :: rest).count .transientFailure =
          [state].count .transientFailure + rest.count .transientFailure := by
        rw [← List.singleton_append, List.count_append]
      rw [startImpl, tail, first, counted]
      omega

/-- Each discovery is a try that was spent. -/
theorem poll_discovers (spends : ¬ state.Restores) :
    (watcher.poll state).2.count .discover + watcher.connectionFailureCount =
      (watcher.poll state).1.connectionFailureCount := by
  have silent := rememberState_silent (watcher.tryDiscovery state).1 state .discover rfl
  simp only [poll, List.count_append, rememberState_count _ state spends, silent]
  unfold tryDiscovery
  split
  next =>
    have quiet : (if watcher.connectionFailureCount + 1 = autoConnectMaxTries
        then [Event.stoppingAutoDiscovery] else []).count .discover = 0 := by
      split <;> rfl
    simp only [List.count_cons_self, quiet]
    omega
  next => simp

/-- The signal that discovery stops comes with the last try. -/
theorem poll_stops :
    (watcher.poll state).2.count .stoppingAutoDiscovery =
      if state = .transientFailure ∧ watcher.connectionFailureCount = 4 then 1 else 0 := by
  have silent := rememberState_silent (watcher.tryDiscovery state).1 state
    .stoppingAutoDiscovery rfl
  simp only [poll, List.count_append, silent]
  unfold tryDiscovery autoConnectMaxTries
  split
  next tried =>
    by_cases last : watcher.connectionFailureCount = 4
    · simp [tried.1, last]
    · simp [last]
  next saved =>
    have other : ¬ (state = .transientFailure ∧ watcher.connectionFailureCount = 4) := by
      rintro ⟨failing, count⟩
      exact saved ⟨failing, by omega⟩
    simp [other]

theorem stopping_mem_poll :
    .stoppingAutoDiscovery ∈ (watcher.poll state).2 ↔
      state = .transientFailure ∧ watcher.connectionFailureCount = 4 := by
  rw [← List.count_pos_iff, poll_stops]
  split
  next fifth => simp [fifth]
  next other => simp [other]

theorem startImpl_discovers (states : List GrpcConnectivityState)
    (spends : ∀ state ∈ states, ¬ state.Restores) :
    (watcher.startImpl states).2.count .discover + watcher.connectionFailureCount =
      (watcher.startImpl states).1.connectionFailureCount := by
  induction states generalizing watcher with
  | nil => simp [startImpl]
  | cons state rest ih =>
      have first := poll_discovers watcher state (spends state List.mem_cons_self)
      have tail := ih (watcher.poll state).1
        fun other member => spends other (List.mem_cons_of_mem _ member)
      simp only [startImpl, List.count_append]
      omega

theorem startImpl_stops (states : List GrpcConnectivityState)
    (within : watcher.connectionFailureCount ≤ 5) (spends : ∀ state ∈ states, ¬ state.Restores) :
    (watcher.startImpl states).2.count .stoppingAutoDiscovery =
      if watcher.connectionFailureCount < 5 ∧
        5 ≤ watcher.connectionFailureCount + states.count .transientFailure then 1 else 0 := by
  induction states generalizing watcher with
  | nil =>
      rw [List.count_nil]
      split
      next spent => omega
      next => rfl
  | cons state rest ih =>
      have first := poll_spends watcher state within (spends state List.mem_cons_self)
      have tail := ih (watcher.poll state).1 (by omega)
        fun other member => spends other (List.mem_cons_of_mem _ member)
      simp only [startImpl, List.count_append, poll_stops, tail, first]
      by_cases failing : state = .transientFailure
      · subst failing
        have one : [GrpcConnectivityState.transientFailure].count .transientFailure = 1 := rfl
        rw [one, List.count_cons_self]
        simp only [true_and]
        split <;> split <;> split <;> omega
      · have none : [state].count .transientFailure = 0 := by simp [failing]
        have same : (state :: rest).count .transientFailure = rest.count .transientFailure :=
          List.count_cons_of_ne failing
        rw [none, same]
        simp only [failing, false_and, ↓reduceIte]
        split <;> split <;> omega

end CChangeStateWatcher

theorem after_budgeted (polled : List GrpcConnectivityState) : (after polled).Budgeted :=
  CChangeStateWatcher.startImpl_budgeted {} polled CChangeStateWatcher.start_budgeted

theorem after_append (front back : List GrpcConnectivityState) :
    after (front ++ back) = ((after front).startImpl back).1 := by
  unfold after
  rw [CChangeStateWatcher.startImpl_append]

theorem after_state (polled : List GrpcConnectivityState) :
    (after polled).state = polled.getLastD .idle := by
  induction polled using List.reverseRecOn with
  | nil => rfl
  | append_singleton front state ih =>
      rw [after_append, List.getLastD_concat]
      exact CChangeStateWatcher.poll_state _ state

theorem after_unspent (polled : List GrpcConnectivityState)
    (restored : ∀ last ∈ polled.getLast?, last.Restores) :
    (after polled).connectionFailureCount = 0 := by
  apply (after_budgeted polled).unspent
  rw [after_state, List.getLastD_eq_getLast?]
  cases last : polled.getLast? with
  | none => exact Or.inl rfl
  | some state => exact restored state last

theorem eventsAt_changes (polled : List GrpcConnectivityState) (state : GrpcConnectivityState) :
    (eventsAt polled state).filterMap Event.changedTo =
      if state = polled.getLastD .idle then [] else [state] := by
  have silent : ((after polled).tryDiscovery state).2.filterMap Event.changedTo = [] := by
    unfold CChangeStateWatcher.tryDiscovery
    split
    next =>
      dsimp only
      split <;> rfl
    next => rfl
  simp only [eventsAt, CChangeStateWatcher.poll, List.filterMap_append, silent, List.nil_append]
  unfold CChangeStateWatcher.rememberState
  rw [CChangeStateWatcher.tryDiscovery_state, after_state]
  by_cases same : polled.getLastD .idle = state
  · rw [if_pos same, if_pos same.symm]
    rfl
  · rw [if_neg same, if_neg (Ne.symm same)]
    rfl

/-- Between polls of IDLE or READY, the start counting as one, as many failing polls as the
budget allows discover, and discovery is said to stop at the fifth. A state is told where
it differs from the one before. -/
theorem discovery_budget (before between : List GrpcConnectivityState)
    (restored : ∀ last ∈ before.getLast?, last.Restores)
    (spends : ∀ state ∈ between, ¬ state.Restores) :
    let events := ((after before).startImpl between).2
    events.count .discover = min 5 (between.count .transientFailure) ∧
    events.count .stoppingAutoDiscovery =
      (if 5 ≤ between.count .transientFailure then 1 else 0) ∧
    (∀ front state back, between = front ++ state :: back →
      (.stoppingAutoDiscovery ∈ eventsAt (before ++ front) state ↔
        state = .transientFailure ∧ front.count .transientFailure = 4)) ∧
    ∀ polled state, (eventsAt polled state).filterMap Event.changedTo =
      if state = polled.getLastD .idle then [] else [state] := by
  have unspent := after_unspent before restored
  have within : (after before).connectionFailureCount ≤ 5 := by omega
  have spent := (after before).startImpl_spends between within spends
  have discovers := (after before).startImpl_discovers between spends
  have stops := (after before).startImpl_stops between within spends
  refine ⟨by omega, ?_, ?_, eventsAt_changes⟩
  · simpa [unspent] using stops
  · rintro front state back rfl
    have count := (after before).startImpl_spends front within
      fun other member => spends other (List.mem_append_left _ member)
    rw [← after_append, unspent] at count
    rw [eventsAt, CChangeStateWatcher.stopping_mem_poll]
    exact and_congr_right fun _ => by omega

theorem discovery_budget_of_six :
    let between : List GrpcConnectivityState :=
      [.transientFailure, .connecting, .transientFailure, .shutdown, .transientFailure,
        .transientFailure, .transientFailure, .transientFailure]
    let events := ((after [.idle]).startImpl between).2
    events.count .discover = 5 ∧ events.count .stoppingAutoDiscovery = 1 := by
  have budget := discovery_budget [.idle]
    [.transientFailure, .connecting, .transientFailure, .shutdown, .transientFailure,
      .transientFailure, .transientFailure, .transientFailure] (by decide) (by decide)
  exact ⟨budget.1, budget.2.1⟩

end SaneInTheMembrane.ChannelStateWatcher

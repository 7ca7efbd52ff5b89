import Mathlib
import SaneInTheMembrane.ScanButton

/-!
Ui/Select/RefreshScanners.cpp: the Refresh button, with the two calls behind a click and
the device list they fill. The calls complete on threads of their own and post what they
have to say; a change of the server replaces the proxies between any two of these.
-/

namespace SaneInTheMembrane.RefreshPanel

open ScanButton (CScannerItem CScannerSelect)

section Model

inductive Call where
  | refreshScanners
  | getScanners
  deriving DecidableEq, Repr

/-- What is posted to the UI thread. `scanners` is for the device list, the others are for
the proxies and by them for the button. -/
inductive Event where
  | refreshScanners (ok : Bool)
  | scanners (items : List CScannerItem)
  | getScanners (ok : Bool)
  deriving DecidableEq, Repr

structure CRefreshButton where
  text : String := "Refresh"
  enabled : Bool := true
  deriving DecidableEq, Repr

namespace CRefreshButton

def enableButton (_ : CRefreshButton) : CRefreshButton := { text := "Refresh", enabled := true }

def refreshing (_ : CRefreshButton) : CRefreshButton :=
  { text := "Refreshing...", enabled := false }

end CRefreshButton

/-- The widgets, the proxies with the number of the services they are connected to, the
calls in flight with that of the services which made them, and the current device list.
During a change `old` has the services that are swapped out and the proxies still to be
replaced. -/
structure Panel where
  button : CRefreshButton := {}
  select : CScannerSelect := {}
  services : Nat := 0
  proxies : Call → Nat := fun _ => 0
  old : Option (Nat × List Call) := none
  deviceList : List CScannerItem := []
  inFlight : List (Call × Nat) := []
  posted : List Event := []
  messages : List String := []

def initial : Panel := {}

/-- The response of a call that succeeds has the scanners; that of `RefreshScanners` has
nothing, and its list is not looked at. -/
inductive Label where
  | click
  | complete (call : Call) (services : Nat) (response : Option (List CScannerItem))
  | deliver
  | swap
  | replace
  | destroy
  deriving DecidableEq, Repr

inductive Fault where
  | destroyedService
  | uiBusy
  | notInFlight
  | nothingPosted
  | notChanging
  deriving DecidableEq, Repr

def replaced : List Call := [.getScanners, .refreshScanners]

def Panel.Owned (panel : Panel) (call : Call) (services : Nat) : Prop :=
  panel.services = services ∨ panel.old.map Prod.fst = some services ∨
    panel.proxies call = services

instance (panel : Panel) (call : Call) (services : Nat) :
    Decidable (panel.Owned call services) :=
  inferInstanceAs (Decidable (_ ∨ _ ∨ _))

def Panel.request (panel : Panel) (call : Call) : Panel :=
  { panel with inFlight := panel.inFlight ++ [(call, panel.proxies call)] }

/-- The device list has connected to the service before its proxy. -/
def events : Call → Option (List CScannerItem) → List Event
  | .refreshScanners, response => [.refreshScanners response.isSome]
  | .getScanners, some items => [.scanners items, .getScanners true]
  | .getScanners, none => [.getScanners false]

/-- Replacing a proxy disconnects whatever has connected to its old service. -/
def Panel.callback (panel : Panel) (call : Call) (services : Nat)
    (response : Option (List CScannerItem)) : Panel :=
  { panel with
    inFlight := panel.inFlight.erase (call, services)
    posted :=
      if panel.proxies call = services then panel.posted ++ events call response
      else panel.posted }

def Panel.handle (panel : Panel) : Event → Panel
  | .refreshScanners true => panel.request .getScanners
  | .refreshScanners false =>
      { panel with
        messages := panel.messages ++ ["Refresh failed"]
        button := panel.button.enableButton }
  | .scanners items =>
      { panel with
        deviceList := items
        select := CScannerSelect.displayItems items }
  | .getScanners true => { panel with button := panel.button.enableButton }
  | .getScanners false =>
      { panel with
        messages := panel.messages ++ ["Failed to get scanners"]
        button := panel.button.enableButton }

def Event.isScanners : Event → Bool
  | .scanners _ => true
  | .refreshScanners _ | .getScanners _ => false

@[simp] theorem isScanners_scanners (items : List CScannerItem) :
    (Event.scanners items).isScanners = true := rfl

@[simp] theorem isScanners_refreshScanners (ok : Bool) :
    (Event.refreshScanners ok).isScanners = false := rfl

@[simp] theorem isScanners_getScanners (ok : Bool) :
    (Event.getScanners ok).isScanners = false := rfl

def step (panel : Panel) : Label → Except Fault Panel
  -- A disabled button does not emit `clicked`.
  | .click =>
      if panel.old.isSome then .error .uiBusy
      else if panel.button.enabled then
        .ok ({ panel with button := panel.button.refreshing }.request .refreshScanners)
      else .ok panel
  | .complete call services response =>
      if (call, services) ∉ panel.inFlight then .error .notInFlight
      else if ¬ panel.Owned call services then .error .destroyedService
      else .ok (panel.callback call services response)
  | .deliver =>
      if panel.old.isSome then .error .uiBusy
      else
        match panel.posted with
        | [] => .error .nothingPosted
        | event :: rest => .ok ({ panel with posted := rest }.handle event)
  | .swap =>
      if panel.old.isSome then .error .uiBusy
      else
        .ok { panel with
          services := panel.services + 1
          old := some (panel.services, replaced) }
  | .replace =>
      match panel.old with
      | some (services, call :: rest) =>
          .ok { panel with
            proxies := Function.update panel.proxies call panel.services
            old := some (services, rest) }
      | _ => .error .notChanging
  -- The old device list goes with what is posted to it, and nobody clears the box.
  | .destroy =>
      match panel.old with
      | some (_, []) =>
          .ok { panel with
            old := none
            deviceList := []
            posted := panel.posted.filter fun event => !event.isScanners }
      | _ => .error .notChanging

/-- What is on the way: the calls whose signals are connected, and the signals of calls that
have come. -/
def Panel.awaited (panel : Panel) : Nat :=
  panel.inFlight.countP (fun call => panel.proxies call.1 = call.2) +
    panel.posted.countP fun event => !event.isScanners

/-- The button is disabled while it has one thing to wait for, and only then. -/
structure Holds (panel : Panel) : Prop where
  awaited : panel.awaited = if panel.button.enabled then 0 else 1
  text : panel.button.text = if panel.button.enabled then "Refresh" else "Refreshing..."

def CannotCome (fault : Fault) : Prop := fault ≠ .destroyedService

def Lawful : Except Fault Panel → Prop := Runs.Ends Holds CannotCome

/-- A proxy is replaced while none of its calls is in flight. -/
def ReplacesIdle (panel : Panel) : Label → Prop
  | .replace => ∀ services call rest, panel.old = some (services, call :: rest) →
      ∀ flying ∈ panel.inFlight, flying.1 ≠ call
  | .click | .complete _ _ _ | .deliver | .swap | .destroy => True

/-- The box shows the device list. -/
def Mirrors (panel : Panel) : Prop :=
  panel.select = CScannerSelect.displayItems panel.deviceList

/-- The server is changed while no scanners are listed. -/
def ChangesEmpty (panel : Panel) : Label → Prop
  | .destroy => ∀ services, panel.old = some (services, []) → panel.deviceList = []
  | .click | .complete _ _ _ | .deliver | .swap | .replace => True

end Model

section Steps
variable {panel next : Panel}

structure Sound (panel : Panel) : Prop where
  holds : Holds panel
  connected : ∀ flying ∈ panel.inFlight, panel.proxies flying.1 = flying.2
  current : panel.old = none → ∀ call, panel.proxies call = panel.services
  changing : ∀ services left, panel.old = some (services, left) →
    services < panel.services ∧ left.Nodup ∧
    ∀ call, panel.proxies call = if call ∈ left then services else panel.services

theorem initial_sound : Sound initial where
  holds := ⟨rfl, rfl⟩
  connected flying member := absurd member List.not_mem_nil
  current _ _ := rfl
  changing services left changing := by cases changing

theorem Sound.awaited_eq (sound : Sound panel) :
    panel.awaited = panel.inFlight.length + panel.posted.countP fun event => !event.isScanners := by
  have all : panel.inFlight.countP (fun call => panel.proxies call.1 = call.2) =
      panel.inFlight.length := by
    rw [List.countP_eq_length]
    intro flying member
    simpa using sound.connected flying member
  rw [Panel.awaited, all]

theorem Sound.moved (sound : Sound panel)
    (same : next.proxies = panel.proxies ∧ next.services = panel.services ∧ next.old = panel.old)
    (connected : ∀ flying ∈ next.inFlight, panel.proxies flying.1 = flying.2)
    (awaited : next.inFlight.length + (next.posted.countP fun event => !event.isScanners) =
      if next.button.enabled then 0 else 1)
    (text : next.button.text = if next.button.enabled then "Refresh" else "Refreshing...") :
    Sound next := by
  obtain ⟨proxies, services, old⟩ := same
  have all : next.inFlight.countP (fun call => next.proxies call.1 = call.2) =
      next.inFlight.length := by
    rw [List.countP_eq_length, proxies]
    intro flying member
    simpa using connected flying member
  constructor
  · exact ⟨by rw [Panel.awaited, all, awaited], text⟩
  · rwa [proxies]
  · rw [old, proxies, services]
    exact sound.current
  · rw [old, proxies, services]
    exact sound.changing

theorem countP_events (call : Call) (response : Option (List CScannerItem)) :
    ((events call response).countP fun event => !event.isScanners) = 1 := by
  cases call with
  | refreshScanners => rfl
  | getScanners => cases response <;> rfl

theorem click_sound (sound : Sound panel) (enabled : panel.button.enabled = true) :
    Sound ({ panel with button := panel.button.refreshing }.request .refreshScanners) := by
  have awaited := sound.holds.awaited
  rw [sound.awaited_eq, if_pos enabled] at awaited
  apply sound.moved
  · exact ⟨rfl, rfl, rfl⟩
  · intro flying member
    rcases List.mem_append.mp member with before | new
    · exact sound.connected flying before
    · rw [List.mem_singleton.mp new]
  · simp only [Panel.request, CRefreshButton.refreshing, List.length_append,
      List.length_singleton, Bool.false_eq_true, if_false]
    omega
  · rfl

theorem complete_sound {call : Call} {services : Nat} (response : Option (List CScannerItem))
    (sound : Sound panel) (flying : (call, services) ∈ panel.inFlight) :
    panel.Owned call services ∧ Sound (panel.callback call services response) := by
  have connected : panel.proxies call = services := sound.connected _ flying
  have awaited := sound.holds.awaited
  rw [sound.awaited_eq] at awaited
  refine ⟨.inr (.inr connected), ?_⟩
  apply sound.moved
  · exact ⟨rfl, rfl, rfl⟩
  · exact fun other member => sound.connected other (List.mem_of_mem_erase member)
  · have left := List.length_erase_of_mem flying
    have some := List.length_pos_of_mem flying
    simp only [Panel.callback, connected, if_true, List.countP_append, countP_events, left]
    omega
  · exact sound.holds.text

theorem deliver_sound {event : Event} {rest : List Event} (sound : Sound panel)
    (posted : panel.posted = event :: rest) :
    Sound ({ panel with posted := rest }.handle event) := by
  have awaited := sound.holds.awaited
  rw [sound.awaited_eq, posted, List.countP_cons] at awaited
  have once : ∀ enabled : Bool, (if enabled then 0 else 1) ≤ 1 := by decide
  have most := once panel.button.enabled
  have enables : event.isScanners = false → ∀ messages,
      Sound { panel with posted := rest, messages, button := panel.button.enableButton } := by
    intro reply messages
    rw [reply] at awaited
    apply sound.moved
    · exact ⟨rfl, rfl, rfl⟩
    · exact sound.connected
    · simp only [CRefreshButton.enableButton, if_true]
      simp only [Bool.not_false, if_true] at awaited
      omega
    · rfl
  cases event with
  | refreshScanners ok =>
      cases ok with
      | false => exact enables rfl _
      | true =>
          apply sound.moved
          · exact ⟨rfl, rfl, rfl⟩
          · intro flying member
            rcases List.mem_append.mp member with before | new
            · exact sound.connected flying before
            · rw [List.mem_singleton.mp new]
          · simp only [isScanners_refreshScanners, Bool.not_false, if_true] at awaited
            change (panel.inFlight ++ [_]).length + _ = if panel.button.enabled then 0 else 1
            rw [List.length_append, List.length_singleton, ← awaited]
            exact Nat.add_right_comm _ _ _
          · exact sound.holds.text
  | scanners items =>
      apply sound.moved
      · exact ⟨rfl, rfl, rfl⟩
      · exact sound.connected
      · change panel.inFlight.length + (rest.countP fun event => !event.isScanners) =
          if panel.button.enabled then 0 else 1
        simpa using awaited
      · exact sound.holds.text
  | getScanners ok => cases ok <;> exact enables rfl _

theorem swap_sound (sound : Sound panel) (free : panel.old = none) :
    Sound { panel with
      services := panel.services + 1
      old := some (panel.services, replaced) } := by
  refine ⟨⟨sound.holds.awaited, sound.holds.text⟩, sound.connected,
    (fun absent => nomatch absent), ?_⟩
  intro services left changing
  cases changing
  refine ⟨Nat.lt_succ_self _, by decide, ?_⟩
  intro call
  have member : call ∈ replaced := by cases call <;> decide
  rw [if_pos member]
  exact sound.current free call

theorem replace_connected {call : Call} (idle : ∀ flying ∈ panel.inFlight, flying.1 ≠ call)
    (services : Nat) {flying : Call × Nat} (member : flying ∈ panel.inFlight) :
    Function.update panel.proxies call services flying.1 = panel.proxies flying.1 :=
  Function.update_of_ne (idle flying member) _ _

theorem replace_sound {services : Nat} {call : Call} {rest : List Call} (sound : Sound panel)
    (changing : panel.old = some (services, call :: rest))
    (idle : ∀ flying ∈ panel.inFlight, flying.1 ≠ call) :
    Sound { panel with
      proxies := Function.update panel.proxies call panel.services
      old := some (services, rest) } := by
  obtain ⟨before, nodup, proxies⟩ := sound.changing services _ changing
  have once := List.nodup_cons.mp nodup
  have same : ∀ flying ∈ panel.inFlight,
      (Function.update panel.proxies call panel.services flying.1 = flying.2 ↔
        panel.proxies flying.1 = flying.2) := by
    intro flying member
    rw [replace_connected idle panel.services member]
  constructor
  · refine ⟨?_, sound.holds.text⟩
    rw [← sound.holds.awaited]
    have count : panel.inFlight.countP (fun flying =>
        Function.update panel.proxies call panel.services flying.1 = flying.2) =
          panel.inFlight.countP (fun flying => panel.proxies flying.1 = flying.2) :=
      List.countP_congr fun flying member => by simpa using same flying member
    simp only [Panel.awaited, count]
  · exact fun flying member => (same flying member).mpr (sound.connected flying member)
  · exact fun absent => nomatch absent
  · intro others left replacing
    cases replacing
    refine ⟨before, once.2, ?_⟩
    intro other
    by_cases this : other = call
    · subst this
      rw [if_neg once.1]
      exact Function.update_self _ _ _
    · have tail : other ∈ call :: rest ↔ other ∈ rest := by simp [this]
      simp only [Function.update_of_ne this, proxies other, tail]

theorem destroy_sound {services : Nat} (sound : Sound panel)
    (changing : panel.old = some (services, [])) :
    Sound { panel with
      old := none
      deviceList := []
      posted := panel.posted.filter fun event => !event.isScanners } := by
  obtain ⟨_, _, proxies⟩ := sound.changing services _ changing
  have kept : ((panel.posted.filter fun event => !event.isScanners).countP fun event =>
      !event.isScanners) = panel.posted.countP fun event => !event.isScanners := by
    simp [List.countP_filter]
  refine ⟨⟨?_, sound.holds.text⟩, sound.connected, ?_, fun _ _ absent => nomatch absent⟩
  · simp only [Panel.awaited, kept]
    exact sound.holds.awaited
  · intro _ call
    simpa using proxies call

theorem step_sound (panel : Panel) (label : Label) (sound : Sound panel)
    (idle : ReplacesIdle panel label) : Runs.Ends Sound CannotCome (step panel label) := by
  cases label with
  | click =>
      simp only [step]
      split
      · exact Fault.noConfusion
      · split
        next enabled => exact click_sound sound enabled
        next => exact sound
  | complete call services response =>
      simp only [step]
      split
      next => exact Fault.noConfusion
      next flying =>
        obtain ⟨owned, after⟩ := complete_sound response sound (not_not.mp flying)
        rw [if_neg (not_not.mpr owned)]
        exact after
  | deliver =>
      simp only [step]
      split
      · exact Fault.noConfusion
      · split
        next => exact Fault.noConfusion
        next event rest posted => exact deliver_sound sound posted
  | swap =>
      simp only [step]
      split
      next => exact Fault.noConfusion
      next free => exact swap_sound sound (by simpa using free)
  | replace =>
      simp only [step]
      split
      next services call rest changing =>
        exact replace_sound sound changing (idle services call rest changing)
      next => exact Fault.noConfusion
  | destroy =>
      simp only [step]
      split
      next services changing => exact destroy_sound sound changing
      next => exact Fault.noConfusion

theorem idle_of_lawful (panel : Panel) (label : Label) (sound : Sound panel)
    (lawful : Lawful (step panel label)) : ReplacesIdle panel label := by
  cases label with
  | replace =>
      intro services call rest changing flying member same
      simp only [step, changing] at lawful
      obtain ⟨before, _, proxies⟩ := sound.changing services _ changing
      have now := sound.holds.awaited
      have after : Panel.awaited { panel with
          proxies := Function.update panel.proxies call panel.services
          old := some (services, rest) } = if panel.button.enabled then 0 else 1 := lawful.awaited
      rw [← now, sound.awaited_eq] at after
      have lost : (panel.inFlight.countP fun flying =>
          Function.update panel.proxies call panel.services flying.1 = flying.2) <
            panel.inFlight.length := by
        apply List.countP_lt_length_iff.mpr
        refine ⟨flying, member, ?_⟩
        have connected := sound.connected flying member
        have old : panel.proxies call = services := by simp [proxies]
        rw [same, old] at connected
        simp only [same, Function.update_self, decide_eq_false_iff_not]
        omega
      simp only [Panel.awaited] at after
      omega
  | click | complete call services response | deliver | swap | destroy => trivial

/-- How many completions and deliveries a call leads to at most, its own included. -/
def Call.steps : Call → Nat
  | .refreshScanners => 5
  | .getScanners => 3

def Event.steps : Event → Nat
  | .refreshScanners true => 4
  | .refreshScanners false | .scanners _ | .getScanners _ => 1

def Panel.left (panel : Panel) : Nat :=
  (panel.inFlight.map fun flying => flying.1.steps).sum + (panel.posted.map Event.steps).sum

def Label.replies : Label → Bool
  | .complete _ _ _ | .deliver => true
  | .click | .swap | .replace | .destroy => false

theorem steps_events (call : Call) (response : Option (List CScannerItem)) :
    ((events call response).map Event.steps).sum < call.steps := by
  cases call <;> cases response <;> simp [events, Event.steps, Call.steps]

theorem complete_left {call : Call} {services : Nat} (response : Option (List CScannerItem))
    (flying : (call, services) ∈ panel.inFlight) :
    (panel.callback call services response).left < panel.left := by
  have erased := ((List.perm_cons_erase flying).map fun flying => flying.1.steps).sum_nat
  have less := steps_events call response
  simp only [List.map_cons, List.sum_cons] at erased
  simp only [Panel.left, Panel.callback]
  split
  · rw [List.map_append, List.sum_append]
    omega
  · omega

theorem handle_left (event : Event) : (panel.handle event).left < panel.left + event.steps := by
  cases event with
  | refreshScanners ok =>
      cases ok with
      | false => simp [Panel.handle, Panel.left, Event.steps]
      | true =>
          simp only [Panel.handle, Panel.request, Panel.left, List.map_append, List.sum_append,
            List.map_singleton, List.sum_singleton, Call.steps, Event.steps]
          omega
  | scanners items => simp [Panel.handle, Panel.left, Event.steps]
  | getScanners ok => cases ok <;> simp [Panel.handle, Panel.left, Event.steps]

theorem replies_pay (label : Label) (replies : label.replies = true)
    (taken : step panel label = .ok next) : next.left < panel.left := by
  cases label with
  | complete call services response =>
      simp only [step] at taken
      split at taken
      next => cases taken
      next flying =>
        split at taken
        next => cases taken
        next =>
          cases taken
          exact complete_left response (not_not.mp flying)
  | deliver =>
      simp only [step] at taken
      split at taken
      · cases taken
      · split at taken
        · cases taken
        next event rest posted =>
          cases taken
          have less := @handle_left { panel with posted := rest } event
          simp only [Panel.left, posted, List.map_cons, List.sum_cons] at less ⊢
          omega
  | click | swap | replace | destroy => cases replies

theorem steps_le (call : Call) : call.steps ≤ 5 := by
  cases call <;> decide

theorem sum_posted_le (posted : List Event) :
    (posted.map Event.steps).sum ≤
      4 * (posted.countP fun event => !event.isScanners) + posted.countP Event.isScanners := by
  induction posted with
  | nil => simp
  | cons event rest ih =>
      have one : event.steps ≤ if event.isScanners then 1 else 4 := by
        cases event with
        | refreshScanners ok => cases ok <;> simp [Event.steps]
        | scanners items => simp [Event.steps]
        | getScanners ok => simp [Event.steps]
      rw [List.map_cons, List.sum_cons, List.countP_cons, List.countP_cons]
      cases scanners : event.isScanners <;> simp [scanners] at one ⊢ <;> omega

theorem sum_inFlight_le (inFlight : List (Call × Nat)) :
    (inFlight.map fun flying => flying.1.steps).sum ≤ 5 * inFlight.length := by
  induction inFlight with
  | nil => simp
  | cons flying rest ih =>
      have := steps_le flying.1
      rw [List.map_cons, List.sum_cons, List.length_cons]
      omega

theorem Sound.left_le (sound : Sound panel) :
    panel.left ≤ 5 + panel.posted.countP Event.isScanners := by
  have awaited := sound.holds.awaited
  rw [sound.awaited_eq] at awaited
  have most : (if panel.button.enabled then 0 else 1) ≤ 1 := by split <;> decide
  have calls := sum_inFlight_le panel.inFlight
  have events := sum_posted_le panel.posted
  unfold Panel.left
  omega

theorem replies_old (label : Label) (replies : label.replies = true)
    (taken : step panel label = .ok next) : next.old = panel.old := by
  cases label with
  | complete call services response =>
      simp only [step] at taken
      split at taken
      · cases taken
      · split at taken
        · cases taken
        · cases taken
          rfl
  | deliver =>
      simp only [step] at taken
      split at taken
      · cases taken
      · split at taken
        · cases taken
        next event rest posted =>
          cases taken
          cases event with
          | refreshScanners ok | getScanners ok => cases ok <;> rfl
          | scanners items => rfl
  | click | swap | replace | destroy => cases replies

theorem Sound.idle_of_stuck (sound : Sound panel) (settled : panel.old = none)
    (stuck : ∀ label next, label.replies = true → step panel label ≠ .ok next) :
    panel.button = {} := by
  have landed : panel.inFlight = [] := by
    by_contra some
    obtain ⟨flying, member⟩ := List.exists_mem_of_ne_nil _ some
    obtain ⟨owned, _⟩ := complete_sound none sound member
    apply stuck (.complete flying.1 flying.2 none) (panel.callback flying.1 flying.2 none) rfl
    simp [step, member, owned]
  have delivered : panel.posted = [] := by
    cases posted : panel.posted with
    | nil => rfl
    | cons event rest =>
        exfalso
        apply stuck .deliver ({ panel with posted := rest }.handle event) rfl
        simp [step, settled, posted]
  have awaited := sound.holds.awaited
  have text := sound.holds.text
  rw [sound.awaited_eq, landed, delivered] at awaited
  cases button : panel.button with
  | mk label enabled =>
      rw [button] at awaited text
      cases enabled with
      | false => simp at awaited
      | true => simpa using text

end Steps

section Properties

/-- Along a run the Refresh button is disabled exactly while a call or a signal of its own
is on the way, and no call completes on a destroyed service, exactly if each proxy is
replaced while none of its calls is in flight. -/
theorem button_awaits_iff (labels : List Label) :
    (∀ front, front <+: labels → Lawful (Runs.run step initial front)) ↔
      Runs.Along step ReplacesIdle initial labels :=
  Runs.prefixes_end_iff Sound Holds CannotCome (fun _ sound => sound.holds) step_sound
    idle_of_lawful initial labels initial_sound

/-- Left alone, a refresh is over in five completions and deliveries, besides those of the
lists that were posted before, however each call ends: where no more can come, the button
is enabled. -/
theorem refresh_ends (labels rest : List Label) (panel last : Panel)
    (idle : Runs.Along step ReplacesIdle initial labels)
    (reached : Runs.run step initial labels = .ok panel) (settled : panel.old = none)
    (replies : ∀ label ∈ rest, label.replies = true)
    (ran : Runs.run step panel rest = .ok last) :
    rest.length ≤ 5 + panel.posted.countP Event.isScanners ∧
      ((∀ label next, label.replies = true → step last label ≠ .ok next) →
        last.button = {}) := by
  have sound : Sound panel := by
    have ends := Runs.run_ends Sound CannotCome step_sound initial labels initial_sound idle
    rwa [reached] at ends
  have along := @Runs.along_of_labels _ _ _ step (fun label => label.replies = true) panel rest
    replies
  have inv := Runs.run_keeps_along (fun next => Sound next ∧ next.old = none)
    (fun state label next holds replies taken => by
      refine ⟨?_, (replies_old label replies taken).trans holds.2⟩
      have kept := step_sound state label holds.1 (by cases label <;> trivial)
      rwa [taken] at kept)
    panel last rest ⟨sound, settled⟩ along ran
  have spent := Runs.run_spends (fun _ => True) Panel.left Label.replies
    (fun _ _ _ _ _ _ => trivial)
    (fun state label next _ replies taken => by
      have paid := replies_pay label replies taken
      rw [replies]
      exact paid)
    panel last rest trivial along ran
  constructor
  · have all : rest.countP Label.replies = rest.length := List.countP_eq_length.mpr replies
    have most := sound.left_le
    omega
  · exact inv.1.idle_of_stuck inv.2

theorem refresh_ends_of_click :
    let item : CScannerItem := ⟨"net:scanner", "Vendor Model"⟩
    let rest : List Label := [.complete .refreshScanners 0 (some []), .deliver,
      .complete .getScanners 0 (some [item]), .deliver, .deliver]
    ∃ panel last, Runs.run step initial [.click] = .ok panel ∧
      Runs.run step panel rest = .ok last ∧
      rest.length ≤ 5 + panel.posted.countP Event.isScanners ∧
      ((∀ label next, label.replies = true → step last label ≠ .ok next) →
        last.button = {}) := by
  intro item rest
  refine ⟨_, _, rfl, rfl, ?_⟩
  exact refresh_ends [.click] rest _ _ ⟨trivial, trivial⟩ rfl rfl (by decide) rfl

end Properties

section Mirroring
variable {panel : Panel}

theorem displayItems_eq_nil {items : List CScannerItem}
    (empty : CScannerSelect.displayItems items = {}) : items = [] := by
  have entries := ScanButton.foldl_addItem_entries items {}
  have none := congrArg CScannerSelect.entries empty
  rw [CScannerSelect.displayItems, entries] at none
  simpa using none

theorem handle_mirrors (event : Event) (mirrors : Mirrors panel) :
    Mirrors (panel.handle event) := by
  cases event with
  | refreshScanners ok | getScanners ok =>
      cases ok <;> exact mirrors
  | scanners items => rfl

theorem step_mirrors (panel : Panel) (label : Label) (mirrors : Mirrors panel)
    (empty : ChangesEmpty panel label) :
    Runs.Ends Mirrors (fun _ => True) (step panel label) := by
  have kept : ∀ next : Panel, next.select = panel.select → next.deviceList = panel.deviceList →
      Mirrors next := by
    intro next select list
    rw [Mirrors, select, list]
    exact mirrors
  cases taken : step panel label with
  | error fault => trivial
  | ok next =>
      cases label with
      | click =>
          simp only [step] at taken
          split at taken
          · cases taken
          · split at taken <;> cases taken <;> exact kept _ rfl rfl
      | complete call services response =>
          simp only [step] at taken
          split at taken
          · cases taken
          · split at taken
            · cases taken
            · cases taken
              exact kept _ rfl rfl
      | deliver =>
          simp only [step] at taken
          split at taken
          · cases taken
          · split at taken
            · cases taken
            next event rest posted =>
              cases taken
              exact handle_mirrors event (kept { panel with posted := rest } rfl rfl)
      | swap =>
          simp only [step] at taken
          split at taken
          · cases taken
          · cases taken
            exact kept _ rfl rfl
      | replace =>
          simp only [step] at taken
          split at taken
          · cases taken
            exact kept _ rfl rfl
          · cases taken
      | destroy =>
          simp only [step] at taken
          split at taken
          next services changing =>
            cases taken
            exact kept _ rfl (empty services changing).symm
          next => cases taken

theorem empty_of_mirrors (panel : Panel) (label : Label) (mirrors : Mirrors panel)
    (lawful : Runs.Ends Mirrors (fun _ => True) (step panel label)) :
    ChangesEmpty panel label := by
  cases label with
  | destroy =>
      intro services changing
      simp only [step, changing] at lawful
      have select : panel.select = CScannerSelect.displayItems [] := lawful
      exact displayItems_eq_nil (mirrors.symm.trans select)
  | click | complete call services response | deliver | swap | replace => trivial

/-- Along a run the box shows the scanners of the current server exactly if the server is
changed only while none are listed. -/
theorem select_mirrors_iff (labels : List Label) :
    (∀ front, front <+: labels →
        Runs.Ends Mirrors (fun _ => True) (Runs.run step initial front)) ↔
      Runs.Along step ChangesEmpty initial labels :=
  Runs.prefixes_end_iff Mirrors Mirrors (fun _ => True) (fun _ mirrors => mirrors)
    step_mirrors empty_of_mirrors initial labels rfl

end Mirroring

end SaneInTheMembrane.RefreshPanel

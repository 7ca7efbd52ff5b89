import Mathlib.Data.List.Nodup
import Mathlib.Logic.Function.Basic
import SaneInTheMembrane.Runs

/-!
Requests of the UI while the server is changed. A change swaps the services,
replaces the service of each proxy and drops the old services at its end; a request
keeps only the address of the service that made it. The change runs on the UI
thread, and calls complete at any time.
-/

namespace SaneInTheMembrane.ServiceReplacement

section Model

inductive Kind where
  | scan | refreshScanners | getScanners
  deriving DecidableEq, Repr

/-- A call that a service has started. The number is that of the `CServices` the
service belongs to. -/
structure Request where
  id : Nat
  kind : Kind
  services : Nat
  deriving DecidableEq, Repr

/-- The services are numbered in the order they are built. During a change `old`
holds the ones that are swapped out, with the proxies still to be replaced. -/
structure Globals where
  services : Nat := 0
  old : Option (Nat × List Kind) := none
  proxies : Kind → Nat := fun _ => 0
  inProgress : Nat → Bool := fun _ => false
  started : List Request := []
  inFlight : List Request := []
  signals : List (Request × Bool) := []
  dropped : Nat := 0

def initial : Globals := {}

inductive Label where
  | request (kind : Kind)
  | complete (request : Request) (ok : Bool)
  | swap
  | replace
  | destroy
  deriving DecidableEq, Repr

inductive Fault where
  | destroyedService
  | uiBusy
  | notInFlight
  | notChanging
  deriving DecidableEq, Repr

/-- A service lives as long as the globals, the change or its proxy hold it. -/
def Globals.Owned (globals : Globals) (kind : Kind) (services : Nat) : Prop :=
  globals.services = services ∨ globals.old.map Prod.fst = some services ∨
    globals.proxies kind = services

instance (globals : Globals) (kind : Kind) (services : Nat) :
    Decidable (globals.Owned kind services) :=
  inferInstanceAs (Decidable (_ ∨ _ ∨ _))

def replaced : List Kind := [.getScanners, .refreshScanners, .scan]

def Globals.request (globals : Globals) (kind : Kind) : Globals :=
  let request : Request := ⟨globals.started.length, kind, globals.proxies kind⟩
  if kind = .scan ∧ globals.inProgress request.services then
    { globals with dropped := globals.dropped + 1 }
  else
    { globals with
      started := globals.started ++ [request]
      inFlight := globals.inFlight ++ [request]
      inProgress :=
        if kind = .scan then Function.update globals.inProgress request.services true
        else globals.inProgress }

/-- The callback of a call. Its signal is posted to the proxy if the proxy is
connected when it is emitted. -/
def Globals.callback (globals : Globals) (request : Request) (ok : Bool) : Globals :=
  { globals with
    inFlight := globals.inFlight.erase request
    inProgress :=
      if request.kind = .scan then Function.update globals.inProgress request.services false
      else globals.inProgress
    signals :=
      if globals.proxies request.kind = request.services then
        globals.signals ++ [(request, ok)]
      else globals.signals }

def step (globals : Globals) : Label → Except Fault Globals
  | .request kind =>
      if globals.old.isSome then .error .uiBusy else .ok (globals.request kind)
  | .complete request ok =>
      if request ∉ globals.inFlight then .error .notInFlight
      else if ¬ globals.Owned request.kind request.services then .error .destroyedService
      else .ok (globals.callback request ok)
  | .swap =>
      if globals.old.isSome then .error .uiBusy
      else
        .ok { globals with
          services := globals.services + 1
          old := some (globals.services, replaced) }
  | .replace =>
      match globals.old with
      | some (services, kind :: rest) =>
          .ok { globals with
            proxies := Function.update globals.proxies kind globals.services
            old := some (services, rest) }
      | _ => .error .notChanging
  | .destroy =>
      match globals.old with
      | some (_, []) => .ok { globals with old := none }
      | _ => .error .notChanging

def Globals.signalsOf (globals : Globals) (request : Request) : Nat :=
  (globals.signals.map Prod.fst).count request

def completions (calls : List (Request × Bool)) : List Label :=
  calls.map fun call => .complete call.1 call.2

/-- When the calls in flight complete, in any order, every request that was started
has sent one signal. -/
def Settles (globals : Globals) : Prop :=
  ∀ calls : List (Request × Bool), (calls.map Prod.fst).Perm globals.inFlight →
    ∃ last, Runs.run step globals (completions calls) = .ok last ∧
      ∀ request ∈ globals.started, last.signalsOf request = 1

def CannotCome (fault : Fault) : Prop := fault ≠ .destroyedService

/-- A proxy is replaced while none of its requests is in flight. -/
def ReplacesIdle (globals : Globals) : Label → Prop
  | .replace => ∀ services kind rest, globals.old = some (services, kind :: rest) →
      ∀ request ∈ globals.inFlight, request.kind ≠ kind
  | .request _ | .complete _ _ | .swap | .destroy => True

/-- A scan is requested while the reader has none in progress. -/
def ScansWhenFree (globals : Globals) : Label → Prop
  | .request .scan => globals.old = none → globals.inProgress (globals.proxies .scan) = false
  | _ => True

end Model

section Steps
variable {globals : Globals}

/-- Every call in flight is of the service its proxy is connected to. -/
structure Sound (globals : Globals) : Prop where
  connected : ∀ request ∈ globals.inFlight, globals.proxies request.kind = request.services
  waiting : ∀ request ∈ globals.inFlight, globals.signalsOf request = 0
  signalled : ∀ request ∈ globals.started, request ∉ globals.inFlight →
    globals.signalsOf request = 1
  once : globals.inFlight.Nodup
  known : ∀ request ∈ globals.inFlight, request ∈ globals.started
  numbered : ∀ request ∈ globals.started, request.id < globals.started.length
  announced : ∀ signal ∈ globals.signals, signal.1 ∈ globals.started
  current : globals.old = none → ∀ kind, globals.proxies kind = globals.services
  changing : ∀ services left, globals.old = some (services, left) →
    services < globals.services ∧ left.Nodup ∧
    ∀ kind, globals.proxies kind = if kind ∈ left then services else globals.services

theorem initial_sound : Sound initial := by
  constructor <;> simp [initial]

theorem request_sound (kind : Kind) (sound : Sound globals) (free : globals.old = none) :
    Sound (globals.request kind) := by
  unfold Globals.request
  extract_lets request
  split
  · exact ⟨sound.connected, sound.waiting, sound.signalled, sound.once, sound.known,
      sound.numbered, sound.announced, sound.current, sound.changing⟩
  · have fresh : request ∉ globals.started := fun member =>
      Nat.lt_irrefl _ (sound.numbered request member)
    have silent : globals.signalsOf request = 0 := by
      apply List.count_eq_zero_of_not_mem
      intro member
      obtain ⟨signal, sent, same⟩ := List.mem_map.mp member
      exact fresh (same ▸ sound.announced signal sent)
    have flying : ∀ {holds : Request → Prop}, (∀ other ∈ globals.inFlight, holds other) →
        holds request → ∀ other ∈ globals.inFlight ++ [request], holds other :=
      fun before new => List.forall_mem_append.mpr ⟨before, List.forall_mem_singleton.mpr new⟩
    constructor
    · exact flying sound.connected rfl
    · exact flying sound.waiting silent
    · intro other member gone
      have before : other ∈ globals.started := by
        cases List.mem_append.mp member with
        | inl before => exact before
        | inr new => exact absurd (List.mem_append_right _ new) gone
      exact sound.signalled other before fun still => gone (List.mem_append_left _ still)
    · have grown := sound.once.concat fun member => fresh (sound.known request member)
      rwa [List.concat_eq_append] at grown
    · apply flying
      · exact fun other member => List.mem_append_left _ (sound.known other member)
      · exact List.mem_append_right _ List.mem_cons_self
    · simp only [List.length_append, List.length_singleton, List.forall_mem_append,
        List.forall_mem_singleton]
      exact ⟨fun other member => Nat.lt_succ_of_lt (sound.numbered other member),
        Nat.lt_succ_self _⟩
    · exact fun signal sent => List.mem_append_left _ (sound.announced signal sent)
    · exact fun _ => sound.current free
    · exact sound.changing

theorem complete_sound (request : Request) (ok : Bool) (sound : Sound globals)
    (flying : request ∈ globals.inFlight) :
    step globals (.complete request ok) = .ok (globals.callback request ok) ∧
      Sound (globals.callback request ok) := by
  have connected := sound.connected request flying
  have owned : globals.Owned request.kind request.services := .inr (.inr connected)
  have signals : (globals.callback request ok).signals = globals.signals ++ [(request, ok)] :=
    if_pos connected
  have counted : ∀ other, (globals.callback request ok).signalsOf other =
      globals.signalsOf other + if request = other then 1 else 0 := by
    intro other
    rw [Globals.signalsOf, signals, List.map_append, List.count_append]
    simp [Globals.signalsOf, List.count_singleton]
  constructor
  · simp only [step, flying, owned, not_true, if_false]
  · constructor
    · exact fun other member => sound.connected other (List.mem_of_mem_erase member)
    · intro other member
      have apart : request ≠ other := by
        intro same
        subst same
        exact sound.once.not_mem_erase member
      rw [counted, if_neg apart, sound.waiting other (List.mem_of_mem_erase member)]
    · intro other member gone
      rw [counted]
      by_cases same : request = other
      · rw [if_pos same, ← same, sound.waiting request flying]
      · rw [if_neg same, sound.signalled other member]
        exact fun still => gone ((List.mem_erase_of_ne (Ne.symm same)).mpr still)
    · exact sound.once.erase request
    · exact fun other member => sound.known other (List.mem_of_mem_erase member)
    · exact sound.numbered
    · rw [signals]
      exact List.forall_mem_append.mpr ⟨sound.announced,
        List.forall_mem_singleton.mpr (sound.known request flying)⟩
    · exact sound.current
    · exact sound.changing

theorem swap_sound (sound : Sound globals) (free : globals.old = none) :
    Sound { globals with
      services := globals.services + 1
      old := some (globals.services, replaced) } := by
  refine ⟨sound.connected, sound.waiting, sound.signalled, sound.once, sound.known,
    sound.numbered, sound.announced, nofun, ?_⟩
  rintro services left ⟨⟩
  refine ⟨Nat.lt_succ_self _, by decide, fun kind => ?_⟩
  have every : kind ∈ replaced := by cases kind <;> decide
  rw [if_pos every]
  exact sound.current free kind

theorem replace_sound (services : Nat) (kind : Kind) (rest : List Kind) (sound : Sound globals)
    (changing : globals.old = some (services, kind :: rest))
    (idle : ∀ request ∈ globals.inFlight, request.kind ≠ kind) :
    Sound { globals with
      proxies := Function.update globals.proxies kind globals.services
      old := some (services, rest) } := by
  obtain ⟨older, distinct, held⟩ := sound.changing services (kind :: rest) changing
  refine ⟨?_, sound.waiting, sound.signalled, sound.once, sound.known, sound.numbered,
    sound.announced, nofun, ?_⟩
  · intro request member
    simp only [Function.update_of_ne (idle request member)]
    exact sound.connected request member
  · rintro _ _ ⟨⟩
    refine ⟨older, distinct.of_cons, fun other => ?_⟩
    by_cases here : other = kind
    · subst here
      simp only [Function.update_self]
      rw [if_neg (List.nodup_cons.mp distinct).1]
    · simp only [Function.update_of_ne here, held other, List.mem_cons, here, false_or]

theorem destroy_sound (services : Nat) (sound : Sound globals)
    (changing : globals.old = some (services, [])) : Sound { globals with old := none } := by
  refine ⟨sound.connected, sound.waiting, sound.signalled, sound.once, sound.known,
    sound.numbered, sound.announced, fun _ kind => ?_, nofun⟩
  exact ((sound.changing services [] changing).2.2 kind).trans (if_neg List.not_mem_nil)

theorem step_sound (label : Label) (sound : Sound globals) (idle : ReplacesIdle globals label) :
    Runs.Ends Sound CannotCome (step globals label) := by
  cases label with
  | request kind =>
      simp only [step]
      split
      · exact Fault.noConfusion
      next free => exact request_sound kind sound (by simpa using free)
  | complete request ok =>
      by_cases flying : request ∈ globals.inFlight
      · obtain ⟨completes, kept⟩ := complete_sound request ok sound flying
        rw [completes]
        exact kept
      · simp only [step, flying, not_false_eq_true, if_true]
        exact Fault.noConfusion
  | swap =>
      simp only [step]
      split
      · exact Fault.noConfusion
      next free => exact swap_sound sound (by simpa using free)
  | replace =>
      simp only [step]
      split
      next services kind rest changing =>
        exact replace_sound services kind rest sound changing
          (idle services kind rest changing)
      · exact Fault.noConfusion
  | destroy =>
      simp only [step]
      split
      next services changing => exact destroy_sound services sound changing
      · exact Fault.noConfusion

end Steps

section Settled
variable {globals : Globals}

theorem sound_settles (sound : Sound globals) : Settles globals := by
  intro calls all
  induction calls generalizing globals with
  | nil =>
      have none : globals.inFlight = [] := List.nil_perm.mp all
      exact ⟨globals, rfl, fun request member =>
        sound.signalled request member (by simp [none])⟩
  | cons call rest ih =>
      obtain ⟨request, ok⟩ := call
      have flying : request ∈ globals.inFlight := all.subset List.mem_cons_self
      obtain ⟨completes, kept⟩ := complete_sound request ok sound flying
      have others : (rest.map Prod.fst).Perm (globals.callback request ok).inFlight :=
        (List.perm_cons_erase flying).symm.trans all.symm |>.cons_inv.symm
      obtain ⟨last, settled, signals⟩ := ih kept others
      refine ⟨last, ?_, signals⟩
      rw [completions, List.map_cons, Runs.run_cons_ok _ completes]
      exact settled

theorem signalsOf_of_disconnected (request : Request) (calls : List (Request × Bool))
    (last : Globals) (disconnected : globals.proxies request.kind ≠ request.services)
    (settled : Runs.run step globals (completions calls) = .ok last) :
    last.signalsOf request = globals.signalsOf request := by
  have onlyCalls : Runs.Along step (fun _ label => ∃ other ok, label = .complete other ok)
      globals (completions calls) := by
    apply Runs.along_of_labels
    intro label member
    obtain ⟨call, -, same⟩ := List.mem_map.mp member
    exact ⟨call.1, call.2, same.symm⟩
  have kept := Runs.run_keeps_along
    (fun next => next.proxies = globals.proxies ∧
      next.signalsOf request = globals.signalsOf request) ?_
    globals last _ ⟨rfl, rfl⟩ onlyCalls settled
  · exact kept.2
  · rintro now label next ⟨proxies, signals⟩ ⟨other, ok, rfl⟩ taken
    simp only [step] at taken
    split at taken
    · cases taken
    split at taken
    · cases taken
    cases taken
    refine ⟨proxies, ?_⟩
    simp only [Globals.signalsOf, Globals.callback]
    split
    next connected =>
      have apart : other ≠ request := by
        intro same
        subst same
        exact disconnected (proxies ▸ connected)
      rw [List.map_append, List.count_append]
      simpa [apart, Globals.signalsOf] using signals
    · exact signals

theorem replacesIdle_of_settles (label : Label) (sound : Sound globals)
    (settles : ∀ next, step globals label = .ok next → Settles next) :
    ReplacesIdle globals label := by
  cases label with
  | request kind | complete request ok | swap | destroy => trivial
  | replace =>
      intro services kind rest changing request flying same
      have all : ((globals.inFlight.map fun request => (request, true)).map Prod.fst).Perm
          globals.inFlight := by simp [Function.comp_def]
      have replaced := settles _ (by simp only [step, changing]; rfl)
      obtain ⟨last, settled, signals⟩ := replaced _ all
      have once := signals request (sound.known request flying)
      -- The proxy has been connected to a younger service than the one that called.
      have disconnected :
          Function.update globals.proxies kind globals.services request.kind ≠ request.services := by
        obtain ⟨older, -, held⟩ := sound.changing services (kind :: rest) changing
        have caller := sound.connected request flying
        rw [held, same, if_pos List.mem_cons_self] at caller
        rw [same, Function.update_self, ← caller]
        exact Nat.ne_of_gt older
      have silent := signalsOf_of_disconnected request _ last disconnected settled
      rw [once] at silent
      exact absurd (silent.trans (sound.waiting request flying)) Nat.one_ne_zero

theorem dropped_step (label : Label) (next : Globals) (free : ScansWhenFree globals label)
    (taken : step globals label = .ok next) : next.dropped = globals.dropped := by
  cases label with
  | request kind =>
      simp only [step] at taken
      split at taken
      · cases taken
      next unchanged =>
        cases taken
        simp only [Globals.request]
        split
        next busy =>
          obtain ⟨rfl, inProgress⟩ := busy
          rw [free (by simpa using unchanged)] at inProgress
          cases inProgress
        · rfl
  | complete request ok =>
      simp only [step] at taken
      split at taken
      · cases taken
      split at taken
      · cases taken
      · cases taken
        rfl
  | swap | replace | destroy =>
      simp only [step] at taken
      split at taken <;> cases taken
      rfl

theorem scansWhenFree_of_dropped (label : Label)
    (dropped : ∀ next, step globals label = .ok next → next.dropped = 0) :
    ScansWhenFree globals label := by
  cases label with
  | complete request ok | swap | replace | destroy => trivial
  | request kind =>
      cases kind with
      | refreshScanners | getScanners => trivial
      | scan =>
          intro unchanged
          have after := dropped _ (by simp only [step, unchanged]; rfl)
          rw [Globals.request] at after
          by_contra busy
          rw [if_pos ⟨rfl, by simpa using busy⟩] at after
          exact absurd after (by simp)

/-- Every request that is started sends one signal, on a service that lives, exactly
when no proxy is replaced under its own requests. None is dropped either exactly when
scans are also requested only while none is in progress. -/
theorem requests_signal_once_iff (labels : List Label) :
    ((∀ front, front <+: labels →
        Runs.Ends Settles CannotCome (Runs.run step initial front)) ↔
      Runs.Along step ReplacesIdle initial labels) ∧
    ((∀ front, front <+: labels →
        Runs.Ends (fun globals => Settles globals ∧ globals.dropped = 0) CannotCome
          (Runs.run step initial front)) ↔
      Runs.Along step (fun globals label => ReplacesIdle globals label ∧
        ScansWhenFree globals label) initial labels) := by
  constructor
  · apply Runs.prefixes_end_iff Sound Settles CannotCome (fun _ => sound_settles)
    · exact fun _ label sound idle => step_sound label sound idle
    · intro globals label sound ends
      apply replacesIdle_of_settles label sound
      intro next taken
      rwa [taken] at ends
    · exact initial_sound
  · apply Runs.prefixes_end_iff (fun globals => Sound globals ∧ globals.dropped = 0)
      (fun globals => Settles globals ∧ globals.dropped = 0) CannotCome
      (fun _ kept => ⟨sound_settles kept.1, kept.2⟩)
    · rintro globals label ⟨sound, none⟩ ⟨idle, free⟩
      have ends := step_sound label sound idle
      cases taken : step globals label with
      | error fault => rwa [taken] at ends
      | ok next =>
          rw [taken] at ends
          exact ⟨ends, (dropped_step label next free taken).trans none⟩
    · rintro globals label ⟨sound, -⟩ ends
      constructor
      · apply replacesIdle_of_settles label sound
        intro next taken
        rw [taken] at ends
        exact ends.1
      · apply scansWhenFree_of_dropped label
        intro next taken
        rw [taken] at ends
        exact ends.2
    · exact ⟨initial_sound, rfl⟩

/-- The server is changed during a scan: when the call completes before the old
services are destroyed, its signal is lost, and after that the service is gone. -/
theorem changed_during_scan_loses :
    let request : Request := ⟨0, .scan, 0⟩
    let changing := [.request .scan, .swap, .replace, .replace, .replace]
    (Runs.run step initial (changing ++ [.complete request true])).map
      (fun globals => globals.signalsOf request) = .ok 0 ∧
    Runs.run step initial (changing ++ [.destroy, .complete request true]) =
      .error .destroyedService ∧
    ¬ Runs.Ends Settles CannotCome
      (Runs.run step initial (changing ++ [.destroy, .complete request true])) := by
  refine ⟨rfl, rfl, fun lawful => lawful rfl⟩

end Settled
end SaneInTheMembrane.ServiceReplacement

import Mathlib.Data.List.Basic
import Mathlib.Tactic.Tauto

/-!
Runs of a machine whose labels decide its steps; a schedule is part of the
labels. `run` executes labels until the first fault, and `Along` says that each
step of a run meets a condition on the state before it. The rules below turn a
fact about one step into a fact about every run.
-/

namespace SaneInTheMembrane.Runs

variable {State Label Fault : Type}

def run (step : State → Label → Except Fault State) :
    State → List Label → Except Fault State
  | state, [] => .ok state
  | state, label :: rest =>
      match step state label with
      | .ok next => run step next rest
      | .error fault => .error fault

/-- A step or a run that succeeds ends like this, and one that faults like that. -/
def Ends (holds : State → Prop) (expected : Fault → Prop) : Except Fault State → Prop
  | .ok state => holds state
  | .error fault => expected fault

-- A fault ends the run. The labels behind it are never taken, so nothing is asked of them.
def Along (step : State → Label → Except Fault State) (meets : State → Label → Prop) :
    State → List Label → Prop
  | _, [] => True
  | state, label :: rest => meets state label ∧
      match step state label with
      | .ok next => Along step meets next rest
      | .error _ => True

instance decidableAlong (step : State → Label → Except Fault State)
    (meets : State → Label → Prop) [∀ state label, Decidable (meets state label)] :
    (labels : List Label) → (state : State) → Decidable (Along step meets state labels)
  | [], _ => isTrue trivial
  | label :: rest, state =>
      have : Decidable (match step state label with
          | .ok next => Along step meets next rest
          | .error _ => True) :=
        match step state label with
        | .ok next => decidableAlong step meets rest next
        | .error _ => isTrue trivial
      inferInstanceAs (Decidable (_ ∧ _))

variable {step : State → Label → Except Fault State} {meets : State → Label → Prop}

theorem Ends.imp {holds good : State → Prop} {expected : Fault → Prop}
    {outcome : Except Fault State} (ends : Ends holds expected outcome)
    (weaker : ∀ state, holds state → good state) : Ends good expected outcome := by
  cases outcome with
  | ok state => exact weaker state ends
  | error fault => exact ends

theorem run_cons_ok {state next : State} {label : Label} (rest : List Label)
    (taken : step state label = .ok next) :
    run step state (label :: rest) = run step next rest := by
  simp [run, taken]

theorem along_cons_ok {state next : State} {label : Label} (rest : List Label)
    (taken : step state label = .ok next) :
    Along step meets state (label :: rest) ↔
      meets state label ∧ Along step meets next rest := by
  simp [Along, taken]

theorem run_append (state : State) (front back : List Label) :
    run step state (front ++ back) =
      match run step state front with
      | .ok middle => run step middle back
      | .error fault => .error fault := by
  induction front generalizing state with
  | nil => rfl
  | cons label rest ih =>
      cases taken : step state label with
      | ok next => simpa [run, taken] using ih next
      | error fault => simp [run, taken]

theorem run_append_ok {state middle : State} {front : List Label} (back : List Label)
    (reached : run step state front = .ok middle) :
    run step state (front ++ back) = run step middle back := by
  rw [run_append, reached]

theorem along_and {other : State → Label → Prop} (state : State) (labels : List Label) :
    Along step (fun state label => meets state label ∧ other state label) state labels ↔
      Along step meets state labels ∧ Along step other state labels := by
  induction labels generalizing state with
  | nil => simp [Along]
  | cons label rest ih =>
      cases taken : step state label with
      | ok next =>
          simp only [Along, taken, ih next]
          tauto
      | error fault => simp [Along, taken]

theorem along_prefix {state : State} {front labels : List Label} (within : front <+: labels)
    (along : Along step meets state labels) : Along step meets state front := by
  obtain ⟨back, rfl⟩ := within
  induction front generalizing state with
  | nil => trivial
  | cons label rest ih =>
      refine ⟨along.1, ?_⟩
      have tail := along.2
      cases taken : step state label with
      | ok next => exact ih (by simpa [taken] using tail)
      | error fault => trivial

/-- If every admitted step succeeds and keeps the invariant, so does every
admitted run. -/
theorem run_succeeds (inv : State → Prop)
    (keeps : ∀ state label, inv state → meets state label →
      ∃ next, step state label = .ok next ∧ inv next)
    (state : State) (labels : List Label) (start : inv state)
    (along : Along step meets state labels) :
    ∃ last, run step state labels = .ok last ∧ inv last := by
  induction labels generalizing state with
  | nil => exact ⟨state, rfl, start⟩
  | cons label rest ih =>
      obtain ⟨next, taken, kept⟩ := keeps state label start along.1
      have tail := ((along_cons_ok rest taken).mp along).2
      simpa [run_cons_ok rest taken] using ih next kept tail

/-- If every admitted step keeps the invariant or ends in an expected fault, so
does every admitted run. -/
theorem run_ends (inv : State → Prop) (expected : Fault → Prop)
    (keeps : ∀ state label, inv state → meets state label →
      Ends inv expected (step state label))
    (state : State) (labels : List Label) (start : inv state)
    (along : Along step meets state labels) : Ends inv expected (run step state labels) := by
  induction labels generalizing state with
  | nil => exact start
  | cons label rest ih =>
      have one := keeps state label start along.1
      cases taken : step state label with
      | error fault =>
          rw [taken] at one
          simpa [run, taken] using one
      | ok next =>
          rw [taken] at one
          rw [run_cons_ok rest taken]
          exact ih next one ((along_cons_ok rest taken).mp along).2

theorem run_keeps_along (inv : State → Prop)
    (keeps : ∀ state label next, inv state → meets state label →
      step state label = .ok next → inv next)
    (state last : State) (labels : List Label) (start : inv state)
    (along : Along step meets state labels)
    (reached : run step state labels = .ok last) : inv last := by
  induction labels generalizing state with
  | nil =>
      cases reached
      exact start
  | cons label rest ih =>
      cases taken : step state label with
      | error fault => simp [run, taken] at reached
      | ok next =>
          have tail := ((along_cons_ok rest taken).mp along).2
          exact ih next (keeps state label next start along.1 taken) tail
            (by simpa [run, taken] using reached)

theorem along_of_labels {holds : Label → Prop} (state : State) (labels : List Label)
    (all : ∀ label ∈ labels, holds label) :
    Along step (fun _ label => holds label) state labels := by
  induction labels generalizing state with
  | nil => trivial
  | cons label rest ih =>
      have tail : ∀ other ∈ rest, holds other :=
        fun other member => all other (List.mem_cons_of_mem _ member)
      refine ⟨all label List.mem_cons_self, ?_⟩
      cases step state label with
      | ok next => exact ih next tail
      | error fault => trivial

theorem run_ends_of_labels {holds : Label → Prop} (inv good : State → Prop)
    (expected : Fault → Prop) (weaker : ∀ state, inv state → good state)
    (keeps : ∀ state label, inv state → holds label → Ends inv expected (step state label))
    (state : State) (labels : List Label) (start : inv state)
    (all : ∀ label ∈ labels, holds label) : Ends good expected (run step state labels) := by
  have along : Along step (fun _ label => holds label) state labels :=
    along_of_labels state labels all
  exact (run_ends inv expected keeps state labels start along).imp weaker

theorem continuations_behind {holds : Label → Prop} {good : State → Prop}
    {expected : Fault → Prop} {state next : State} (label : Label) (held : holds label)
    (taken : step state label = .ok next)
    (ends : ∀ rest, (∀ label ∈ rest, holds label) → Ends good expected (run step state rest))
    (rest : List Label) (all : ∀ label ∈ rest, holds label) :
    Ends good expected (run step next rest) := by
  rw [← run_cons_ok rest taken]
  apply ends
  intro other member
  rcases List.mem_cons.mp member with rfl | behind
  · exact held
  · exact all other behind

/-- If a step leads to a good state only when the condition holds, a run through
good states meets the condition all along. The invariant may rest on it. -/
theorem along_of_prefixes {regular : State → Label → Prop} (inv good : State → Prop)
    (exact : ∀ state label, inv state → regular state label →
      (∀ next, step state label = .ok next → good next) → meets state label)
    (keeps : ∀ state label next, inv state → meets state label →
      step state label = .ok next → inv next)
    (state : State) (labels : List Label) (start : inv state)
    (along : Along step regular state labels)
    (through : ∀ front, front <+: labels → ∀ last, run step state front = .ok last → good last) :
    Along step meets state labels := by
  induction labels generalizing state with
  | nil => trivial
  | cons label rest ih =>
      have first : ∀ next, step state label = .ok next → good next := by
        intro next taken
        apply through [label] (List.prefix_append [label] rest)
        rw [run_cons_ok [] taken]
        rfl
      have now := exact state label start along.1 first
      cases taken : step state label with
      | error fault => exact ⟨now, by simp [taken]⟩
      | ok next =>
          rw [along_cons_ok rest taken] at along ⊢
          refine ⟨now, ih next (keeps state label next start now taken) along.2 ?_⟩
          intro front within last reached
          apply through (label :: front) (List.cons_prefix_cons.mpr ⟨rfl, within⟩)
          rwa [run_cons_ok front taken]

/-- If admitted steps keep the invariant, and no other step ends well, the runs
that end well at every prefix are the admitted ones. -/
theorem prefixes_end_iff (inv good : State → Prop) (expected : Fault → Prop)
    (weaker : ∀ state, inv state → good state)
    (keeps : ∀ state label, inv state → meets state label →
      Ends inv expected (step state label))
    (exact : ∀ state label, inv state → Ends good expected (step state label) →
      meets state label)
    (state : State) (labels : List Label) (start : inv state) :
    (∀ front, front <+: labels → Ends good expected (run step state front)) ↔
      Along step meets state labels := by
  constructor
  · intro ends
    induction labels generalizing state with
    | nil => trivial
    | cons label rest ih =>
        have first := ends [label] (List.prefix_append [label] rest)
        cases taken : step state label with
        | error fault =>
            have now : meets state label := by
              apply exact state label start
              simpa [run, taken] using first
            exact ⟨now, by simp [taken]⟩
        | ok next =>
            have now : meets state label := by
              apply exact state label start
              simpa [run, taken] using first
            have kept : inv next := by
              have one := keeps state label start now
              rwa [taken] at one
            rw [along_cons_ok rest taken]
            refine ⟨now, ih next kept ?_⟩
            intro front within
            have behind := ends (label :: front) (List.cons_prefix_cons.mpr ⟨rfl, within⟩)
            rwa [run_cons_ok front taken] at behind
  · intro along front within
    have before : Along step meets state front := along_prefix within along
    exact (run_ends inv expected keeps state front start before).imp weaker

theorem along_taken {state last : State} {labels : List Label}
    (reached : run step state labels = .ok last) :
    Along step (fun state label => ∃ next, step state label = .ok next) state labels := by
  induction labels generalizing state with
  | nil => trivial
  | cons label rest ih =>
      cases taken : step state label with
      | error fault => simp [run, taken] at reached
      | ok next =>
          rw [along_cons_ok rest taken]
          rw [run_cons_ok rest taken] at reached
          exact ⟨⟨next, taken⟩, ih reached⟩

theorem run_keeps (inv : State → Prop)
    (keeps : ∀ state label next, inv state → step state label = .ok next → inv next)
    (state last : State) (labels : List Label) (start : inv state)
    (reached : run step state labels = .ok last) : inv last := by
  have always : Along step (fun _ _ => True) state labels :=
    along_of_labels state labels fun _ _ => trivial
  exact run_keeps_along inv (fun state label next holds _ => keeps state label next holds)
    state last labels start always reached

/-- If every admitted step pays for the labels that count, a run takes no more of them
than there is to pay with. -/
theorem run_spends (inv : State → Prop) (left : State → Nat) (counts : Label → Bool)
    (keeps : ∀ state label next, inv state → meets state label →
      step state label = .ok next → inv next)
    (pays : ∀ state label next, inv state → meets state label →
      step state label = .ok next → left next + (if counts label then 1 else 0) ≤ left state)
    (state last : State) (labels : List Label) (start : inv state)
    (along : Along step meets state labels) (reached : run step state labels = .ok last) :
    left last + labels.countP counts ≤ left state := by
  induction labels generalizing state with
  | nil =>
      cases reached
      simp
  | cons label rest ih =>
      cases taken : step state label with
      | error fault => simp [run, taken] at reached
      | ok next =>
          have tail := ((along_cons_ok rest taken).mp along).2
          have remaining : run step next rest = .ok last := by simpa [run, taken] using reached
          have behind := ih next (keeps state label next start along.1 taken) tail remaining
          have paid := pays state label next start along.1 taken
          rw [List.countP_cons]
          omega

def total (step : State → Label → Except Fault State) (amount : State → Label → Nat) :
    State → List Label → Nat
  | _, [] => 0
  | state, label :: rest => amount state label +
      match step state label with
      | .ok next => total step amount next rest
      | .error _ => 0

theorem total_add (amount more : State → Label → Nat) (state : State) (labels : List Label) :
    total step (fun state label => amount state label + more state label) state labels =
      total step amount state labels + total step more state labels := by
  induction labels generalizing state with
  | nil => rfl
  | cons label rest ih =>
      cases taken : step state label with
      | ok next =>
          simp only [total, taken, ih next]
          exact Nat.add_add_add_comm _ _ _ _
      | error fault => simp only [total, taken, Nat.add_zero]

theorem total_mul (factor : Nat) (amount : State → Label → Nat) (state : State)
    (labels : List Label) :
    total step (fun state label => factor * amount state label) state labels =
      factor * total step amount state labels := by
  induction labels generalizing state with
  | nil => rfl
  | cons label rest ih =>
      cases taken : step state label with
      | ok next => simp only [total, taken, ih next, Nat.mul_add]
      | error fault => simp only [total, taken, Nat.add_zero]

/-- If no step costs more than it takes from what is left and from what comes in, neither
does a run. -/
theorem run_pays (inv : State → Prop) (left : State → Nat) (cost income : State → Label → Nat)
    (keeps : ∀ state label next, inv state → step state label = .ok next → inv next)
    (pays : ∀ state label next, inv state → step state label = .ok next →
      cost state label + left next ≤ left state + income state label)
    (state last : State) (labels : List Label) (start : inv state)
    (reached : run step state labels = .ok last) :
    total step cost state labels + left last ≤ left state + total step income state labels := by
  induction labels generalizing state with
  | nil =>
      cases reached
      simp [total]
  | cons label rest ih =>
      cases taken : step state label with
      | error fault => simp [run, taken] at reached
      | ok next =>
          rw [run_cons_ok rest taken] at reached
          have behind := ih next (keeps state label next start taken) reached
          have paid := pays state label next start taken
          simp only [total, taken]
          omega

/-- Erasing labels. If the steps that are kept can be repeated from a related
state, and the others do not leave the relation, the whole run can be repeated
without the others. -/
theorem run_filter (keep : Label → Bool) (related : State → State → Prop)
    (repeats : ∀ state label next shadow, related state shadow → meets state label →
      step state label = .ok next → keep label = true →
      ∃ shadowNext, step shadow label = .ok shadowNext ∧ related next shadowNext)
    (stays : ∀ state label next shadow, related state shadow → meets state label →
      step state label = .ok next → keep label = false → related next shadow)
    (state last shadow : State) (labels : List Label) (start : related state shadow)
    (along : Along step meets state labels) (reached : run step state labels = .ok last) :
    ∃ shadowLast, run step shadow (labels.filter keep) = .ok shadowLast ∧
      related last shadowLast := by
  induction labels generalizing state shadow with
  | nil =>
      cases reached
      exact ⟨shadow, rfl, start⟩
  | cons label rest ih =>
      cases taken : step state label with
      | error fault => simp [run, taken] at reached
      | ok next =>
          have tail := ((along_cons_ok rest taken).mp along).2
          have remaining : run step next rest = .ok last := by simpa [run, taken] using reached
          -- A kept label is repeated beside the run; a dropped one only moves the relation.
          cases kept : keep label with
          | true =>
              obtain ⟨shadowNext, repeated, relates⟩ :=
                repeats state label next shadow start along.1 taken kept
              rw [List.filter_cons_of_pos kept, run_cons_ok _ repeated]
              exact ih next shadowNext relates tail remaining
          | false =>
              rw [List.filter_cons_of_neg (by simp [kept])]
              exact ih next shadow (stays state label next shadow start along.1 taken kept)
                tail remaining

/-- Refinement. If every admitted step is an effect on what a simpler machine has, every
admitted run is the run of these effects. -/
theorem run_refines {Abstract : Type} (effect : Abstract → Label → Abstract)
    (refines : State → Abstract → Prop) (expected : Fault → Prop)
    (simulates : ∀ state abstract label, refines state abstract → meets state label →
      Ends (fun next => refines next (effect abstract label)) expected (step state label))
    (state : State) (abstract : Abstract) (labels : List Label) (start : refines state abstract)
    (along : Along step meets state labels) :
    Ends (fun last => refines last (labels.foldl effect abstract)) expected
      (run step state labels) := by
  induction labels generalizing state abstract with
  | nil => exact start
  | cons label rest ih =>
      have one := simulates state abstract label start along.1
      cases taken : step state label with
      | error fault =>
          rw [taken] at one
          have stopped : run step state (label :: rest) = .error fault := by simp [run, taken]
          rw [stopped]
          exact one
      | ok next =>
          rw [taken] at one
          rw [run_cons_ok rest taken, List.foldl_cons]
          exact ih next _ one ((along_cons_ok rest taken).mp along).2

/-- What a step of a machine is for a part of it, which may have no label for it. -/
def PartStep {Part PartLabel PartFault : Type}
    (partStep : Part → PartLabel → Except PartFault Part) (before after : Part) :
    Option PartLabel → Prop
  | none => after = before
  | some label => partStep before label = .ok after

/-- If each step of the whole is one of the part, each run of the whole is, too. -/
theorem run_projects {Part PartLabel PartFault : Type}
    {partStep : Part → PartLabel → Except PartFault Part} (part : State → Part)
    (partLabel : Label → Option PartLabel)
    (projects : ∀ state label next, step state label = .ok next →
      PartStep partStep (part state) (part next) (partLabel label))
    (state last : State) (labels : List Label) (reached : run step state labels = .ok last) :
    run partStep (part state) (labels.filterMap partLabel) = .ok (part last) := by
  induction labels generalizing state with
  | nil =>
      cases reached
      rfl
  | cons label rest ih =>
      cases taken : step state label with
      | error fault => simp [run, taken] at reached
      | ok next =>
          have one := projects state label next taken
          have behind := ih next (by simpa [run, taken] using reached)
          cases shown : partLabel label with
          | none =>
              rw [shown] at one
              rw [List.filterMap_cons_none shown, ← one]
              exact behind
          | some partTaken =>
              rw [shown] at one
              rw [List.filterMap_cons_some shown, run_cons_ok _ one]
              exact behind

end SaneInTheMembrane.Runs

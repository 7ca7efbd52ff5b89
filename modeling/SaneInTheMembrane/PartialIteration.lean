import Mathlib.Data.Fintype.Pigeonhole
import Mathlib.Logic.Function.Iterate

/-!
Iterating a step that may end. The walk from a place goes on for ever exactly
when it comes back to a place it has been at; if only finitely many places have
a successor, as many steps decide it.
-/

namespace SaneInTheMembrane.PartialIteration

variable {Place : Type} (next : Place → Option Place)

/-- Where the walk is after this many steps, if it has not ended. -/
def after (steps : Nat) (start : Place) : Option Place :=
  (fun place => place.bind next)^[steps] (some start)

def Reached (start place : Place) : Prop := ∃ steps, after next steps start = some place

/-- The walk comes back to a place it has been at. -/
def Returns (start : Place) : Prop :=
  ∃ place, Reached next start place ∧ ∃ steps, 0 < steps ∧ after next steps place = some place

variable {next} {start : Place}

@[simp] theorem after_zero : after next 0 start = some start := rfl

theorem after_succ (steps : Nat) :
    after next (steps + 1) start = (after next steps start).bind next :=
  Function.iterate_succ_apply' _ _ _

theorem after_add {place : Place} (first second : Nat)
    (reached : after next first start = some place) :
    after next (first + second) start = after next second place := by
  unfold after at *
  rw [Nat.add_comm, Function.iterate_add_apply, reached]

theorem after_first {second : Place} (steps : Nat) (taken : next start = some second) :
    after next (steps + 1) start = after next steps second := by
  rw [Nat.add_comm]
  exact after_add 1 steps (by rw [after_succ, after_zero, Option.bind_some, taken])

theorem after_ended (steps : Nat) (ends : next start = none) :
    after next (steps + 1) start = none := by
  induction steps with
  | zero => rw [after_succ, after_zero, Option.bind_some, ends]
  | succ steps ih => rw [after_succ, ih, Option.bind_none]

theorem after_succ_iff {place : Place} (steps : Nat) :
    after next (steps + 1) start = some place ↔
      ∃ second, next start = some second ∧ after next steps second = some place := by
  cases taken : next start with
  | none => simp [after_ended steps taken]
  | some second => simp [after_first steps taken]

theorem reached_start : Reached next start start := ⟨0, rfl⟩

theorem reached_next {place further : Place} (reached : Reached next start place)
    (taken : next place = some further) : Reached next start further := by
  obtain ⟨steps, found⟩ := reached
  exact ⟨steps + 1, by rw [after_succ, found, Option.bind_some, taken]⟩

/-- What holds at the start and behind every step holds wherever the walk comes. -/
theorem reached_induction (holds : Place → Prop) (first : holds start)
    (keeps : ∀ place further, Reached next start place → holds place →
      next place = some further → holds further)
    {place : Place} (reached : Reached next start place) : holds place := by
  obtain ⟨steps, found⟩ := reached
  induction steps generalizing place with
  | zero =>
      cases found
      exact first
  | succ steps ih =>
      rw [after_succ] at found
      obtain ⟨before, there, taken⟩ := Option.bind_eq_some_iff.mp found
      exact keeps before place ⟨steps, there⟩ (ih there) taken

theorem after_le {place : Place} {fewer steps : Nat} (shorter : fewer ≤ steps)
    (found : after next steps start = some place) :
    ∃ before, after next fewer start = some before := by
  induction steps, shorter using Nat.le_induction generalizing place with
  | base => exact ⟨place, found⟩
  | succ steps _ ih =>
      rw [after_succ] at found
      obtain ⟨before, there, _⟩ := Option.bind_eq_some_iff.mp found
      exact ih there

theorem after_mul {place : Place} (steps rounds : Nat)
    (round : after next steps place = some place) :
    after next (rounds * steps) place = some place := by
  induction rounds with
  | zero => simp
  | succ rounds ih => rw [Nat.succ_mul, after_add _ _ ih, round]

/-- A walk that comes back never ends. -/
theorem endless_of_returns (returns : Returns next start) (steps : Nat) :
    ∃ place, after next steps start = some place := by
  obtain ⟨place, ⟨first, reached⟩, round, positive, back⟩ := returns
  have many := after_add first (steps * round) reached
  rw [after_mul round steps back] at many
  apply after_le _ many
  calc steps ≤ steps * round := Nat.le_mul_of_pos_right steps positive
    _ ≤ first + steps * round := Nat.le_add_left _ _

theorem not_returns_of_up [Preorder Place]
    (up : ∀ place further, Reached next start place → next place = some further →
      place < further) : ¬ Returns next start := by
  rintro ⟨place, ⟨first, reached⟩, steps, positive, back⟩
  have above : ∀ count further, after next (count + 1) place = some further →
      place < further := by
    intro count
    induction count with
    | zero =>
        intro further taken
        exact up place further ⟨first, reached⟩ (by simpa [after_succ] using taken)
    | succ count ih =>
        intro further taken
        rw [after_succ] at taken
        obtain ⟨middle, there, last⟩ := Option.bind_eq_some_iff.mp taken
        have visited : Reached next start middle :=
          ⟨first + (count + 1), by rw [after_add first (count + 1) reached, there]⟩
        exact lt_trans (ih middle there) (up middle further visited last)
  obtain ⟨count, rfl⟩ := Nat.exists_eq_succ_of_ne_zero (Nat.ne_of_gt positive)
  exact lt_irrefl place (above count place back)

/-- A walk with more steps than there are places to go on from comes back. -/
theorem returns_of_long (places : Finset Place)
    (inside : ∀ place further, next place = some further → place ∈ places)
    {last : Place} (long : after next (places.card + 1) start = some last) :
    Returns next start := by
  classical
  have visited : ∀ index : Fin (places.card + 1), ∃ place ∈ places,
      after next index start = some place := by
    intro index
    obtain ⟨further, found⟩ := after_le (Nat.succ_le_succ (Nat.le_of_lt_succ index.2)) long
    rw [after_succ] at found
    obtain ⟨place, there, taken⟩ := Option.bind_eq_some_iff.mp found
    exact ⟨place, inside place further taken, there⟩
  choose place within there using visited
  -- One index more than there are places: two of them are at the same place.
  obtain ⟨first, _, second, _, apart, same⟩ :=
    Finset.exists_ne_map_eq_of_card_lt_of_maps_to (s := Finset.univ) (t := places)
      (by simp) (fun index _ => within index)
  have returning : ∀ front back : Fin (places.card + 1), front < back →
      place front = place back → Returns next start := by
    intro front back before equal
    refine ⟨place front, ⟨front, there front⟩, back - front, by omega, ?_⟩
    have later := after_add front (back - front) (there front)
    rw [Nat.add_sub_of_le (by omega), there back] at later
    rw [← later, equal]
  rcases Nat.lt_or_gt_of_ne (Fin.val_ne_of_ne apart) with before | behind
  · exact returning first second before same
  · exact returning second first behind same.symm

end SaneInTheMembrane.PartialIteration

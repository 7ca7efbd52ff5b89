import Mathlib.Data.List.Basic

/-!
A document that is kept while it is worked on. A change of the pages is kept once the
keeping is on; reopening brings back what was kept last, and turns the keeping on only if
there is something to bring back.
-/

namespace SaneInTheMembrane.KeptDocument

variable {Page : Type}

def exchange : List Page → Nat → List Page
  | first :: second :: rest, 0 => second :: first :: rest
  | first :: rest, place + 1 => first :: exchange rest place
  | pages, _ => pages

structure Document (Page : Type) where
  shown : List Page := []
  kept : Option (List Page) := none
  keeping : Bool := false
  deriving DecidableEq, Repr

inductive Action (Page : Type) where
  | add (page : Page)
  | drop (place : Nat)
  | earlier (place : Nat)
  | later (place : Nat)
  | change (place : Nat) (alter : Page → Page)
  | forget
  | reopen (accepted : Bool)

namespace Document

def present (document : Document Page) (pages : List Page) : Document Page :=
  { document with
    shown := pages
    kept := if document.keeping then some pages else document.kept }

def step (document : Document Page) : Action Page → Document Page
  | .add page => document.present (document.shown ++ [page])
  | .drop place => document.present (document.shown.eraseIdx place)
  | .earlier 0 => document.present document.shown
  | .earlier (place + 1) => document.present (exchange document.shown place)
  | .later place => document.present (exchange document.shown place)
  | .change place alter => document.present (document.shown.modify place alter)
  | .forget => { document with kept := none }
  | .reopen accepted =>
      match document.kept with
      | none => {}
      | some pages => { shown := if accepted then pages else [], kept := pages, keeping := true }

/-- What is shown is kept. -/
def Safe (document : Document Page) : Prop :=
  document.keeping = true ∧ document.kept = some document.shown

end Document

/-- The work goes on: nothing is forgotten, and what was kept is accepted. -/
def Action.continues : Action Page → Bool
  | .forget | .reopen false => false
  | .add _ | .drop _ | .earlier _ | .later _ | .change _ _ | .reopen true => true

def Action.reopens : Action Page → Bool
  | .reopen _ => true
  | .add _ | .drop _ | .earlier _ | .later _ | .change _ _ | .forget => false

section Places

theorem exchange_split (before after : List Page) (left right : Page) :
    exchange (before ++ left :: right :: after) before.length =
      before ++ right :: left :: after := by
  induction before with
  | nil => rfl
  | cons first rest ih =>
      rw [List.cons_append, List.length_cons, exchange, ih]
      rfl

theorem exchange_end (pages : List Page) (place : Nat) (last : pages.length ≤ place + 1) :
    exchange pages place = pages := by
  induction pages generalizing place with
  | nil => cases place <;> rfl
  | cons first rest ih =>
      cases place with
      | zero =>
          have none : rest = [] := List.length_eq_zero_iff.mp (by simpa using last)
          rw [none]
          rfl
      | succ place =>
          rw [exchange, ih place (by simpa using last)]

theorem split_at {pages : List Page} {place : Nat} {page : Page}
    (found : pages[place]? = some page) :
    ∃ before after, pages = before ++ page :: after ∧ before.length = place := by
  obtain ⟨inside, rfl⟩ := List.getElem?_eq_some_iff.mp found
  refine ⟨pages.take place, pages.drop (place + 1), ?_, by simp; omega⟩
  rw [← List.drop_eq_getElem_cons inside, List.take_append_drop]

theorem modify_split (before after : List Page) (page : Page) (alter : Page → Page) :
    (before ++ page :: after).modify before.length alter =
      before ++ alter page :: after := by
  induction before with
  | nil => rfl
  | cons first rest ih => simpa using ih

theorem eraseIdx_split (before after : List Page) (page : Page) :
    (before ++ page :: after).eraseIdx before.length = before ++ after := by
  induction before with
  | nil => rfl
  | cons first rest ih => simpa using ih

end Places

section Reopening

theorem present_safe (document : Document Page) (pages : List Page)
    (keeping : document.keeping = true) : (document.present pages).Safe := by
  simp [Document.Safe, Document.present, keeping]

theorem reopen_safe (document : Document Page) (safe : document.Safe) :
    document.step (.reopen true) = document := by
  obtain ⟨keeping, kept⟩ := safe
  cases document
  simp_all [Document.step]

theorem step_safe (document : Document Page) (action : Action Page)
    (continues : action.continues = true) (safe : document.Safe) :
    (document.step action).Safe := by
  cases action with
  | add | drop | later | change => exact present_safe _ _ safe.1
  | earlier place => cases place <;> exact present_safe _ _ safe.1
  | forget => cases continues
  | reopen accepted =>
      cases accepted with
      | false => cases continues
      | true =>
          rw [reopen_safe document safe]
          exact safe

/-- However often a safe document is reopened while it is worked on, it is as if it had
been open all the time. -/
theorem reopen_invisible (actions : List (Action Page))
    (all : ∀ action ∈ actions, action.continues = true) (document : Document Page)
    (safe : document.Safe) :
    actions.foldl Document.step document =
        (actions.filter fun action => !action.reopens).foldl Document.step document ∧
      (actions.foldl Document.step document).Safe := by
  induction actions generalizing document with
  | nil => exact ⟨rfl, safe⟩
  | cons action rest ih =>
      have now := all action List.mem_cons_self
      have tail := ih (fun other member => all other (List.mem_cons_of_mem _ member))
        (document.step action) (step_safe document action now safe)
      refine ⟨?_, tail.2⟩
      rw [List.foldl_cons, tail.1, List.filter_cons]
      cases reopens : action.reopens with
      | false => simp
      | true =>
          have same : document.step action = document := by
            cases action with
            | reopen accepted =>
                cases accepted with
                | false => cases now
                | true => exact reopen_safe document safe
            | add | drop | earlier | later | change | forget => cases reopens
          simp [same]

end Reopening

end SaneInTheMembrane.KeptDocument

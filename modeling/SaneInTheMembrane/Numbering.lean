import Mathlib.Data.List.Basic
import Mathlib.Data.List.Pairwise
import Mathlib.Order.Basic

/-!
Lists whose entries carry consecutive numbers. An entry's number locates it:
the entries before it carry smaller numbers and the entries after it larger
ones. Appending, dropping an entry and exchanging two neighbours keep the
numbering when the numbers are adjusted as stated.
-/

namespace SaneInTheMembrane.Numbering
variable {Entry : Type}

section Splits

theorem notMem_split (before after : List Entry) (entry : Entry)
    (nodup : (before ++ entry :: after).Nodup) : entry ∉ before ∧ entry ∉ after := by
  obtain ⟨_, back, apart⟩ := List.nodup_append.mp nodup
  refine ⟨fun front => apart entry front entry List.mem_cons_self rfl, ?_⟩
  exact (List.nodup_cons.mp back).1

variable [DecidableEq Entry]

theorem erase_split (before after : List Entry) (entry : Entry)
    (nodup : (before ++ entry :: after).Nodup) :
    (before ++ entry :: after).erase entry = before ++ after := by
  have absent := (notMem_split before after entry nodup).1
  rw [List.erase_append_right _ absent, List.erase_cons_head]

theorem idxOf_split (before after : List Entry) (entry : Entry)
    (nodup : (before ++ entry :: after).Nodup) :
    (before ++ entry :: after).idxOf entry = before.length := by
  have absent := (notMem_split before after entry nodup).1
  rw [List.idxOf_append_of_notMem absent, List.idxOf_cons_self]
  rfl

omit [DecidableEq Entry] in
theorem insertIdx_split (before after : List Entry) (entry : Entry) :
    (before ++ after).insertIdx before.length entry = before ++ entry :: after := by
  induction before with
  | nil => rfl
  | cons first rest ih => simp [ih]

omit [DecidableEq Entry] in
theorem drop_split (before after : List Entry) (entry : Entry) :
    (before ++ entry :: after).drop (before.length + 1) = after := by
  have regrouped : before ++ entry :: after = (before ++ [entry]) ++ after := by simp
  rw [regrouped]
  exact List.drop_left' (by simp)

theorem reinsert_swaps (before after : List Entry) (left right : Entry)
    (nodup : (before ++ left :: right :: after).Nodup) :
    ((((before ++ left :: right :: after).erase right).insertIdx before.length right).erase
      left).insertIdx (before.length + 1) left = before ++ right :: left :: after := by
  have regrouped : before ++ left :: right :: after = (before ++ [left]) ++ right :: after := by
    simp
  have swapped : (before ++ right :: left :: after).Nodup :=
    (((List.Perm.swap left right after).append_left before).nodup_iff).mpr nodup
  -- Taking out the right one leaves the left one at its place, and it goes second.
  have firstErase : (before ++ left :: right :: after).erase right = before ++ left :: after := by
    rw [regrouped] at nodup ⊢
    simpa using erase_split (before ++ [left]) after right nodup
  have secondErase : (before ++ right :: left :: after).erase left = before ++ right :: after := by
    have regroupedBack : before ++ right :: left :: after =
        (before ++ [right]) ++ left :: after := by simp
    rw [regroupedBack] at swapped ⊢
    simpa using erase_split (before ++ [right]) after left swapped
  rw [firstErase, insertIdx_split, secondErase]
  simpa using insertIdx_split (before ++ [right]) after left

end Splits

def NumberedFrom (first : Nat) (number : Entry → Nat) (entries : List Entry) : Prop :=
  entries.map number = List.range' first entries.length

abbrev Numbered (number : Entry → Nat) (entries : List Entry) : Prop :=
  NumberedFrom 1 number entries

@[simp] theorem numberedFrom_nil (first : Nat) (number : Entry → Nat) :
    NumberedFrom first number [] := rfl

@[simp] theorem numberedFrom_cons (first : Nat) (number : Entry → Nat) (entry : Entry)
    (rest : List Entry) :
    NumberedFrom first number (entry :: rest) ↔
      number entry = first ∧ NumberedFrom (first + 1) number rest := by
  simp [NumberedFrom, List.range'_succ]

@[simp] theorem numberedFrom_append (first : Nat) (number : Entry → Nat)
    (front back : List Entry) :
    NumberedFrom first number (front ++ back) ↔
      NumberedFrom first number front ∧ NumberedFrom (first + front.length) number back := by
  induction front generalizing first with
  | nil => simp
  | cons entry rest ih =>
      have shift : first + 1 + rest.length = first + (rest.length + 1) := by omega
      simp [ih, shift, and_assoc]

theorem numberedFrom_congr (first : Nat) (number other : Entry → Nat) (entries : List Entry)
    (same : ∀ entry ∈ entries, other entry = number entry)
    (numbered : NumberedFrom first number entries) : NumberedFrom first other entries := by
  unfold NumberedFrom at *
  rw [← numbered]
  exact List.map_congr_left same

theorem numberedFrom_lowered (first : Nat) (number other : Entry → Nat)
    (entries : List Entry) (lowered : ∀ entry ∈ entries, number entry = other entry + 1)
    (numbered : NumberedFrom (first + 1) number entries) :
    NumberedFrom first other entries := by
  induction entries generalizing first with
  | nil => rfl
  | cons entry rest ih =>
      have head := lowered entry List.mem_cons_self
      simp only [numberedFrom_cons] at numbered ⊢
      refine ⟨by omega, ih (first + 1) (fun e member => ?_) numbered.2⟩
      exact lowered e (List.mem_cons_of_mem entry member)

theorem numberedFrom_bounds (first : Nat) (number : Entry → Nat) (entries : List Entry)
    (numbered : NumberedFrom first number entries) (entry : Entry) (member : entry ∈ entries) :
    first ≤ number entry ∧ number entry < first + entries.length := by
  have inRange : number entry ∈ List.range' first entries.length := by
    rw [← numbered]
    exact List.mem_map_of_mem member
  simpa [List.mem_range'_1] using inRange

theorem numbered_getElem (number : Entry → Nat) (entries : List Entry)
    (numbered : Numbered number entries) (index : Nat) (inside : index < entries.length) :
    number entries[index] = index + 1 := by
  have entryNumber : (entries.map number)[index]? =
      (List.range' 1 entries.length)[index]? := congrArg (fun numbers => numbers[index]?) numbered
  simpa [inside, Nat.add_comm] using entryNumber

theorem numbered_pairwise (number : Entry → Nat) (entries : List Entry)
    (numbered : Numbered number entries) :
    entries.Pairwise (fun a b => number a < number b) := by
  have increasing : (entries.map number).Pairwise (· < ·) := by
    rw [numbered]
    exact List.pairwise_lt_range'
  exact List.pairwise_map.mp increasing

theorem numbered_nodup (number : Entry → Nat) (entries : List Entry)
    (numbered : Numbered number entries) : entries.Nodup :=
  (numbered_pairwise number entries numbered).imp fun less same => by
    subst same
    exact Nat.lt_irrefl _ less

theorem numbered_split (number : Entry → Nat) (before after : List Entry) (entry : Entry)
    (numbered : Numbered number (before ++ entry :: after)) :
    number entry = before.length + 1 ∧
      (∀ e ∈ before, number e < number entry) ∧ ∀ e ∈ after, number entry < number e := by
  simp only [numberedFrom_append, numberedFrom_cons] at numbered
  obtain ⟨front, here, back⟩ := numbered
  refine ⟨by omega, fun e member => ?_, fun e member => ?_⟩
  · have := numberedFrom_bounds 1 number before front e member
    omega
  · have := numberedFrom_bounds _ number after back e member
    omega

theorem numbered_append_new (number other : Entry → Nat) (entries : List Entry) (entry : Entry)
    (same : ∀ e ∈ entries, other e = number e) (last : other entry = entries.length + 1)
    (numbered : Numbered number entries) : Numbered other (entries ++ [entry]) := by
  have front := numberedFrom_congr 1 number other entries same numbered
  simp [front, last, Nat.add_comm]

theorem numbered_removed (number other : Entry → Nat) (before after : List Entry)
    (entry : Entry) (kept : ∀ e ∈ before, other e = number e)
    (lowered : ∀ e ∈ after, number e = other e + 1)
    (numbered : Numbered number (before ++ entry :: after)) :
    Numbered other (before ++ after) := by
  simp only [numberedFrom_append, numberedFrom_cons] at numbered ⊢
  obtain ⟨front, _, back⟩ := numbered
  exact ⟨numberedFrom_congr 1 number other before kept front,
    numberedFrom_lowered _ number other after lowered back⟩

theorem numbered_swapped (number other : Entry → Nat) (before after : List Entry)
    (left right : Entry) (front : ∀ e ∈ before, other e = number e)
    (back : ∀ e ∈ after, other e = number e)
    (leftNumber : other left = number right) (rightNumber : other right = number left)
    (numbered : Numbered number (before ++ left :: right :: after)) :
    Numbered other (before ++ right :: left :: after) := by
  simp only [numberedFrom_append, numberedFrom_cons] at numbered ⊢
  obtain ⟨frontNumbered, here, next, backNumbered⟩ := numbered
  exact ⟨numberedFrom_congr 1 number other before front frontNumbered,
    rightNumber.trans here, leftNumber.trans next,
    numberedFrom_congr _ number other after back backNumbered⟩

/-- Entries with increasing keys have one sorted order. -/
theorem sorted_unique {Key : Type} [PartialOrder Key] (key : Entry → Key)
    (canonical sorted : List Entry)
    (increasing : canonical.Pairwise (fun a b => key a < key b))
    (ordered : sorted.Pairwise (fun a b => key a ≤ key b))
    (permutation : sorted.Perm canonical) : sorted = canonical := by
  -- No two entries share a key, so the sort had no choice.
  have apart : ∀ a ∈ canonical, ∀ b ∈ canonical, key a = key b → a = b := by
    have pairs : canonical.Pairwise (fun a b => key a = key b → a = b) :=
      increasing.imp fun less same => absurd same (ne_of_lt less)
    have symmetric : Std.Symm (fun a b : Entry => key a = key b → a = b) :=
      ⟨fun _ _ h same => (h same.symm).symm⟩
    intro a aMember b bMember
    exact pairs.forall_of_forall (fun _ _ _ => rfl) aMember bMember
  refine List.Perm.eq_of_pairwise ?_ ordered (increasing.imp fun less => le_of_lt less) permutation
  intro a b aMember bMember ab ba
  exact apart a (permutation.subset aMember) b bMember (le_antisymm ab ba)

end SaneInTheMembrane.Numbering

import Mathlib.Data.List.Nodup
import Mathlib.Data.List.Perm.Subperm
import SaneInTheMembrane.ImageContainer
import SaneInTheMembrane.Numbering

/-!
The page numbers of a `CImageItemContainer`. A container is consistent when the
item at layout position i carries number i+1 and the layout and `m_items` hold
the same items. Adding, moving and the transform buttons keep this. A removal
renumbers the tail of `m_items`, which is in insertion order, so it keeps the
numbering exactly when that tail is the tail of the layout.
-/

namespace SaneInTheMembrane.PageNumbering

open ImageContainer SaneInTheMembrane.Numbering
variable {Qreal : Type}

@[simp] theorem setPageNumber_pageNumber (heap : Heap Qreal) (item other : ItemPtr)
    (number : Nat) : (setPageNumber heap item number other).pageNumber =
      if other = item then number else (heap other).pageNumber := by
  by_cases same : other = item
  · subst same
    simp [setPageNumber]
  · simp [setPageNumber, same]

@[simp] theorem setPageNumber_path (heap : Heap Qreal) (item other : ItemPtr)
    (number : Nat) : (setPageNumber heap item number other).path = (heap other).path := by
  by_cases same : other = item
  · subst same
    simp [setPageNumber]
  · simp [setPageNumber, same]

@[simp] theorem setPageNumber_transform (heap : Heap Qreal) (item other : ItemPtr)
    (number : Nat) :
    (setPageNumber heap item number other).transform = (heap other).transform := by
  by_cases same : other = item
  · subst same
    simp [setPageNumber]
  · simp [setPageNumber, same]

@[simp] theorem setTransform_path (heap : Heap Qreal) (item other : ItemPtr)
    (transform : SQtMatrix Qreal) :
    (setTransform heap item transform other).path = (heap other).path := by
  by_cases same : other = item
  · subst same
    simp [setTransform]
  · simp [setTransform, same]

@[simp] theorem setTransform_pageNumber (heap : Heap Qreal) (item other : ItemPtr)
    (transform : SQtMatrix Qreal) :
    (setTransform heap item transform other).pageNumber = (heap other).pageNumber := by
  by_cases same : other = item
  · subst same
    simp [setTransform]
  · simp [setTransform, same]

namespace Container
open CImageItemContainer

theorem renumber_absent (heap : Heap Qreal) (items : List ItemPtr) (item : ItemPtr)
    (absent : item ∉ items) : renumber heap items item = heap item := by
  induction items generalizing heap with
  | nil => rfl
  | cons first rest ih =>
      have different : item ≠ first := fun same => absent (by simp [same])
      rw [renumber, ih _ (fun member => absent (List.mem_cons_of_mem first member))]
      simp [setPageNumber, different]

theorem renumber_present (heap : Heap Qreal) (items : List ItemPtr) (nodup : items.Nodup)
    (item : ItemPtr) (member : item ∈ items) :
    renumber heap items item =
      { heap item with pageNumber := sizePred (heap item).pageNumber } := by
  induction items generalizing heap with
  | nil => simp at member
  | cons first rest ih =>
      obtain ⟨fresh, restNodup⟩ := List.nodup_cons.mp nodup
      rcases List.mem_cons.mp member with same | later
      · subst same
        rw [renumber, renumber_absent _ rest item fresh]
        simp [setPageNumber]
      · have different : item ≠ first := fun same => fresh (same ▸ later)
        rw [renumber, ih _ restNodup later]
        simp [setPageNumber, different]

theorem renumber_content (heap : Heap Qreal) (items : List ItemPtr) (item : ItemPtr) :
    (renumber heap items item).path = (heap item).path ∧
      (renumber heap items item).transform = (heap item).transform := by
  induction items generalizing heap with
  | nil => exact ⟨rfl, rfl⟩
  | cons first rest ih =>
      rw [renumber, (ih _).1, (ih _).2]
      simp

structure Consistent (container : CImageItemContainer Qreal) : Prop where
  numbered : Numbered container.pageNumber container.layout
  sameItems : container.layout.Perm container.manager.items
  allocated : ∀ item ∈ container.layout, item < container.unused

namespace Consistent
variable {container : CImageItemContainer Qreal}

theorem nodup (consistent : Consistent container) : container.layout.Nodup :=
  numbered_nodup _ _ consistent.numbered

theorem items_nodup (consistent : Consistent container) : container.manager.items.Nodup :=
  consistent.sameItems.nodup_iff.mp consistent.nodup

theorem number {before after : List ItemPtr} {item : ItemPtr} (consistent : Consistent container)
    (split : container.layout = before ++ item :: after) :
    container.pageNumber item = before.length + 1 :=
  (numbered_split _ before after item (split ▸ consistent.numbered)).1

end Consistent

theorem empty_consistent (qt : QTransformOps Qreal) : Consistent (empty qt) where
  numbered := by simp [empty]
  sameItems := by simp [empty]
  allocated := by simp [empty]

section Adding
variable (container : CImageItemContainer Qreal) (item : CImageItem Qreal)

@[simp] theorem addItem_layout :
    (container.addItem item).layout = container.layout ++ [container.unused] := rfl

@[simp] theorem addItem_heap_new : (container.addItem item).heap container.unused = item := by
  simp [addItem]

theorem addItem_heap_old (entry : ItemPtr) (old : entry < container.unused) :
    (container.addItem item).heap entry = container.heap entry := by
  simp [addItem, Nat.ne_of_lt old]

theorem addItem_allocated (allocated : ∀ entry ∈ container.layout, entry < container.unused) :
    ∀ entry ∈ (container.addItem item).layout, entry < (container.addItem item).unused := by
  intro entry member
  simp only [addItem_layout, List.mem_append, List.mem_singleton] at member
  rcases member with old | rfl
  · exact Nat.lt_succ_of_lt (allocated entry old)
  · exact Nat.lt_succ_self _

end Adding

theorem addItem_consistent (container : CImageItemContainer Qreal) (item : CImageItem Qreal)
    (next : item.pageNumber = container.layout.length + 1)
    (consistent : Consistent container) : Consistent (container.addItem item) := by
  have old : ∀ entry ∈ container.layout,
      (container.addItem item).pageNumber entry = container.pageNumber entry := by
    intro entry member
    rw [pageNumber, addItem_heap_old container item entry (consistent.allocated entry member)]
    rfl
  constructor
  · apply numbered_append_new container.pageNumber _ container.layout container.unused old
    · simp [pageNumber, next]
    · exact consistent.numbered
  · exact consistent.sameItems.append_right [container.unused]
  · exact addItem_allocated container item consistent.allocated

theorem addImage_consistent (qt : QTransformOps Qreal) (container : CImageItemContainer Qreal)
    (file : Path) (consistent : Consistent container) :
    Consistent (container.addImage qt file) := by
  apply addItem_consistent container _ ?_ consistent
  simp [consistent.sameItems.length_eq]

theorem press_consistent (container : CImageItemContainer Qreal) (item : ItemPtr)
    (op : SQtMatrix Qreal → SQtMatrix Qreal) (consistent : Consistent container) :
    Consistent (container.press item op) := by
  constructor
  · apply numberedFrom_congr 1 container.pageNumber _ container.layout ?_ consistent.numbered
    intro entry _
    simp [press, pageNumber]
  · exact consistent.sameItems
  · exact consistent.allocated

theorem removeImage_eq (container : CImageItemContainer Qreal)
    (before after : List ItemPtr) (item : ItemPtr) (consistent : Consistent container)
    (split : container.layout = before ++ item :: after) :
    container.removeImage item = .ok
      { layout := before ++ after
        manager := ⟨container.manager.items.filter (· != item)⟩
        heap := renumber container.heap (container.manager.items.drop (before.length + 1))
        unused := container.unused } := by
  have number := consistent.number split
  have member : item ∈ container.manager.items :=
    consistent.sameItems.subset (by simp [split])
  have once : container.manager.items.count item = 1 :=
    List.count_eq_one_of_mem consistent.items_nodup member
  have erased := erase_split before after item (split ▸ consistent.nodup)
  have forward : ¬ DropsBackwards container.manager.items (before.length + 1) := by
    have total := consistent.sameItems.length_eq
    simp only [split, List.length_append, List.length_cons] at total
    intro backwards
    have := backwards.2.1
    omega
  simp [removeImage, removeWidget, CImageItemManager.removeItem, once, number, split, erased,
    forward]

/-- The renumbered tail of `m_items` is, up to order, what the layout shows
after the removed item. -/
def Renumbers (container : CImageItemContainer Qreal) (item : ItemPtr) : Prop :=
  (container.manager.items.drop (container.pageNumber item)).Perm
    (container.layout.drop (container.layout.idxOf item + 1))

instance (container : CImageItemContainer Qreal) (item : ItemPtr) :
    Decidable (Renumbers container item) :=
  inferInstanceAs (Decidable (List.Perm _ _))

theorem renumbers_iff (container : CImageItemContainer Qreal)
    (before after : List ItemPtr) (item : ItemPtr) (consistent : Consistent container)
    (split : container.layout = before ++ item :: after) :
    Renumbers container item ↔
      (container.manager.items.drop (before.length + 1)).Perm after := by
  have number := consistent.number split
  have index := idxOf_split before after item (split ▸ consistent.nodup)
  rw [Renumbers, number, split, index, drop_split]

theorem removeImage_consistent (container : CImageItemContainer Qreal) (item : ItemPtr)
    (consistent : Consistent container) (shown : item ∈ container.layout)
    (renumbers : Renumbers container item) :
    ∃ next, container.removeImage item = .ok next ∧ Consistent next := by
  obtain ⟨before, after, split⟩ := List.append_of_mem shown
  have tail := (renumbers_iff container before after item consistent split).mp renumbers
  have numbered : Numbered container.pageNumber (before ++ item :: after) :=
    split ▸ consistent.numbered
  have nodup := numbered_nodup _ _ numbered
  obtain ⟨number, _, larger⟩ := numbered_split _ before after item numbered
  refine ⟨_, removeImage_eq container before after item consistent split, ?_⟩
  constructor
  · apply numbered_removed container.pageNumber _ before after item ?_ ?_ numbered
    · intro entry member
      -- In front of the removed item: not in the renumbered tail.
      have absent : entry ∉ container.manager.items.drop (before.length + 1) := by
        intro dropped
        have inBack := tail.subset dropped
        exact (List.nodup_append.mp nodup).2.2 entry member entry
          (List.mem_cons_of_mem item inBack) rfl
      simp [pageNumber, renumber_absent _ _ entry absent]
    · intro entry member
      -- Behind it: renumbered once, and its number was not 0, so it does not wrap.
      have dropped := tail.symm.subset member
      have positive : container.pageNumber entry ≠ 0 := by
        have := larger entry member
        omega
      have dropNodup := (List.drop_sublist (before.length + 1)
        container.manager.items).nodup consistent.items_nodup
      have lowered := renumber_present container.heap _ dropNodup entry dropped
      simp only [pageNumber] at positive
      simp only [pageNumber, lowered, sizePred, positive, ↓reduceIte]
      omega
  · have kept : (container.layout.filter (· != item)).Perm
        (container.manager.items.filter (· != item)) := consistent.sameItems.filter _
    have rest : container.layout.filter (· != item) = before ++ after := by
      rw [← consistent.nodup.erase_eq_filter, split]
      exact erase_split before after item nodup
    simpa [rest] using kept
  · intro entry member
    apply consistent.allocated entry
    rw [split]
    rcases List.mem_append.mp member with front | back
    · exact List.mem_append_left _ front
    · exact List.mem_append_right _ (List.mem_cons_of_mem item back)

def Idle (container : CImageItemContainer Qreal) (item : ItemPtr)
    (direction : EMoveDirection) : Prop :=
  container.pageNumber item = 0 ∨ swapWithPage (container.pageNumber item) direction = 0 ∨
    container.layout.length < swapWithPage (container.pageNumber item) direction

instance (container : CImageItemContainer Qreal) (item : ItemPtr)
    (direction : EMoveDirection) : Decidable (Idle container item direction) :=
  inferInstanceAs (Decidable (_ ∨ _ ∨ _))

def swapped (container : CImageItemContainer Qreal) (before after : List ItemPtr)
    (left right : ItemPtr) : CImageItemContainer Qreal :=
  { container with
    layout := before ++ right :: left :: after
    heap := setPageNumber (setPageNumber container.heap right (container.pageNumber left))
      left (container.pageNumber right) }

theorem moveImage_idle (container : CImageItemContainer Qreal) (item : ItemPtr)
    (direction : EMoveDirection) (idle : Idle container item direction) :
    container.moveImage item direction = .ok container := by
  unfold moveImage
  rcases idle with zero | guarded
  · simp [zero]
  · by_cases zero : container.pageNumber item = 0
    · simp [zero]
    · simp [zero, guarded]

theorem moveImage_neighbours (container : CImageItemContainer Qreal)
    (before after : List ItemPtr) (left right item : ItemPtr) (direction : EMoveDirection)
    (nodup : container.layout.Nodup)
    (split : container.layout = before ++ left :: right :: after)
    (busy : ¬ Idle container item direction)
    (high : max (container.pageNumber item - 1)
      (swapWithPage (container.pageNumber item) direction - 1) = before.length + 1)
    (low : min (container.pageNumber item - 1)
      (swapWithPage (container.pageNumber item) direction - 1) = before.length) :
    container.moveImage item direction = .ok (swapped container before after left right) := by
  simp only [Idle, not_or] at busy
  have reinserted := reinsert_swaps before after left right (split ▸ nodup)
  have rightAt : container.layout[before.length + 1]? = some right := by
    simp [split]
  have leftAt : container.layout[before.length]? = some left := by
    simp [split]
  have guards : ¬ (swapWithPage (container.pageNumber item) direction = 0 ∨
      container.layout.length < swapWithPage (container.pageNumber item) direction) := by
    rintro (zero | beyond)
    · exact busy.2.1 zero
    · exact busy.2.2 beyond
  simp only [moveImage, busy.1, guards, ↓reduceIte, high, low, rightAt, leftAt]
  rw [split]
  simp only [insertWidget, reinserted, swapped, pageNumber]

theorem moveImage_left (container : CImageItemContainer Qreal)
    (before after : List ItemPtr) (left right : ItemPtr)
    (numbered : Numbered container.pageNumber container.layout)
    (split : container.layout = before ++ left :: right :: after) :
    container.moveImage right .left = .ok (swapped container before after left right) := by
  have regrouped : container.layout = (before ++ [left]) ++ right :: after := by simp [split]
  have number := (numbered_split _ _ after right (regrouped ▸ numbered)).1
  simp only [List.length_append, List.length_singleton] at number
  apply moveImage_neighbours container before after left right right .left
    (numbered_nodup _ _ numbered) split
  · simp only [Idle, number, swapWithPage, sizePred, Nat.add_one_ne_zero, split, ↓reduceIte,
      List.length_append, List.length_cons, false_or]
    omega
  · simp [number, swapWithPage, sizePred]
  · simp [number, swapWithPage, sizePred]

/-- `page + 1` would wrap to 0 behind the largest number, where the guard stops it. -/
theorem moveImage_right (container : CImageItemContainer Qreal)
    (before after : List ItemPtr) (left right : ItemPtr)
    (numbered : Numbered container.pageNumber container.layout)
    (split : container.layout = before ++ left :: right :: after)
    (notLast : before.length + 1 ≠ sizeMax) :
    container.moveImage left .right = .ok (swapped container before after left right) := by
  have number := (numbered_split _ before _ left (split ▸ numbered)).1
  apply moveImage_neighbours container before after left right left .right
    (numbered_nodup _ _ numbered) split
  · simp only [Idle, number, swapWithPage, sizeSucc, notLast, split, ↓reduceIte,
      List.length_append, List.length_cons]
    omega
  · simp [number, swapWithPage, sizeSucc, notLast]
  · simp [number, swapWithPage, sizeSucc, notLast]

theorem moveImage_swap (container : CImageItemContainer Qreal) (item : ItemPtr)
    (direction : EMoveDirection) (consistent : Consistent container)
    (shown : item ∈ container.layout) (busy : ¬ Idle container item direction) :
    ∃ before left right after, container.layout = before ++ left :: right :: after ∧
      (direction = .left ∧ item = right ∨ direction = .right ∧ item = left) ∧
      container.moveImage item direction = .ok (swapped container before after left right) := by
  obtain ⟨before, after, split⟩ := List.append_of_mem shown
  have number := consistent.number split
  simp only [Idle, not_or, number] at busy
  obtain ⟨_, positive, within⟩ := busy
  cases direction with
  | left =>
      simp only [swapWithPage, sizePred, Nat.add_one_ne_zero, ↓reduceIte,
        Nat.add_sub_cancel] at positive
      rcases List.eq_nil_or_concat before with none | ⟨front, other, last⟩
      · simp [none] at positive
      · subst last
        have regrouped : container.layout = front ++ other :: item :: after := by simpa using split
        refine ⟨front, other, item, after, regrouped, Or.inl ⟨rfl, rfl⟩, ?_⟩
        exact moveImage_left container front after other item consistent.numbered regrouped
  | right =>
      have notLast : before.length + 1 ≠ sizeMax := by
        intro last
        simp [swapWithPage, sizeSucc, last] at positive
      simp only [swapWithPage, sizeSucc, notLast, ↓reduceIte] at within
      cases after with
      | nil => simp [split] at within
      | cons other rest =>
          refine ⟨before, item, other, rest, split, Or.inr ⟨rfl, rfl⟩, ?_⟩
          exact moveImage_right container before rest item other consistent.numbered split notLast

theorem neighbours_ne {number : ItemPtr → Nat} {before after : List ItemPtr}
    {left right : ItemPtr} (numbered : Numbered number (before ++ left :: right :: after)) :
    left ≠ right := by
  intro same
  have absent := (notMem_split before (right :: after) left (numbered_nodup _ _ numbered)).2
  simp [same] at absent

theorem swapped_numbered (container : CImageItemContainer Qreal)
    (before after : List ItemPtr) (left right : ItemPtr)
    (numbered : Numbered container.pageNumber (before ++ left :: right :: after)) :
    Numbered (swapped container before after left right).pageNumber
      (before ++ right :: left :: after) := by
  have nodup := numbered_nodup _ _ numbered
  apply numbered_swapped container.pageNumber _ before after left right ?_ ?_ ?_ ?_ numbered
  · intro entry member
    have notLeft : entry ≠ left := fun same =>
      (notMem_split before (right :: after) left nodup).1 (same ▸ member)
    have notRight : entry ≠ right := fun same =>
      (notMem_split (before ++ [left]) after right (by simpa using nodup)).1
        (by simp [← same, member])
    simp [swapped, pageNumber, notLeft, notRight]
  · intro entry member
    have notLeft : entry ≠ left := fun same =>
      (notMem_split before (right :: after) left nodup).2 (by simp [← same, member])
    have notRight : entry ≠ right := fun same =>
      (notMem_split (before ++ [left]) after right (by simpa using nodup)).2 (same ▸ member)
    simp [swapped, pageNumber, notLeft, notRight]
  · simp [swapped, pageNumber]
  · simp [swapped, pageNumber, (neighbours_ne numbered).symm]

theorem swapped_consistent (container : CImageItemContainer Qreal)
    (before after : List ItemPtr) (left right : ItemPtr) (consistent : Consistent container)
    (split : container.layout = before ++ left :: right :: after) :
    Consistent (swapped container before after left right) := by
  have exchanged : (before ++ right :: left :: after).Perm container.layout := by
    rw [split]
    exact (List.Perm.swap left right after).append_left before
  constructor
  · exact swapped_numbered container before after left right (split ▸ consistent.numbered)
  · exact exchanged.trans consistent.sameItems
  · intro entry member
    exact consistent.allocated entry (exchanged.subset member)

theorem moveImage_consistent (container : CImageItemContainer Qreal) (item : ItemPtr)
    (direction : EMoveDirection) (consistent : Consistent container)
    (shown : item ∈ container.layout) :
    ∃ next, container.moveImage item direction = .ok next ∧ Consistent next := by
  by_cases idle : Idle container item direction
  · exact ⟨container, moveImage_idle container item direction idle, consistent⟩
  · obtain ⟨before, left, right, after, split, _, moved⟩ :=
      moveImage_swap container item direction consistent shown idle
    exact ⟨_, moved, swapped_consistent container before after left right consistent split⟩

/-- The condition on a removal is exact: without it the numbering is lost. -/
theorem removeImage_consistent_iff (container next : CImageItemContainer Qreal)
    (item : ItemPtr) (consistent : Consistent container) (shown : item ∈ container.layout)
    (removed : container.removeImage item = .ok next) :
    Consistent next ↔ Renumbers container item := by
  obtain ⟨before, after, split⟩ := List.append_of_mem shown
  have numbered : Numbered container.pageNumber (before ++ item :: after) :=
    split ▸ consistent.numbered
  have nodup := numbered_nodup _ _ numbered
  have result := removeImage_eq container before after item consistent split
  constructor
  · intro kept
    rw [renumbers_iff container before after item consistent split]
    have same : next.layout = before ++ after ∧ next.pageNumber = fun entry =>
        (renumber container.heap (container.manager.items.drop (before.length + 1))
          entry).pageNumber := by
      rw [result] at removed
      cases removed
      exact ⟨rfl, rfl⟩
    -- A page behind the removed one moved up, so it must have been renumbered. The
    -- renumbered tail has as many items as there are such pages.
    have lowered : ∀ entry ∈ after,
        entry ∈ container.manager.items.drop (before.length + 1) := by
      intro entry member
      obtain ⟨front, back, place⟩ := List.append_of_mem member
      have oldNumber := (numbered_split container.pageNumber (before ++ item :: front) back
        entry (by simpa [place] using numbered)).1
      have newNumber := (numbered_split next.pageNumber (before ++ front) back entry
        (by simpa [same.1, place] using kept.numbered)).1
      by_contra absent
      have unchanged := renumber_absent container.heap _ entry absent
      simp only [same.2, unchanged, List.length_append] at newNumber
      simp only [pageNumber, List.length_append, List.length_cons] at oldNumber
      omega
    have afterNodup : after.Nodup :=
      (List.nodup_cons.mp (List.nodup_append.mp nodup).2.1).2
    have total := consistent.sameItems.length_eq
    rw [split] at total
    simp only [List.length_append, List.length_cons] at total
    apply ((List.subperm_of_subset afterNodup lowered).perm_of_length_le ?_).symm
    simp only [List.length_drop]
    omega
  · intro renumbers
    obtain ⟨kept, taken, good⟩ :=
      removeImage_consistent container item consistent shown renumbers
    rw [removed] at taken
    cases taken
    exact good

/-- What a step needs for the numbering to follow the layout. -/
def Renumbering (container : CImageItemContainer Qreal) : Edit → Prop
  | .removeImage item => Renumbers container item
  | _ => True

instance (container : CImageItemContainer Qreal) :
    (e : Edit) → Decidable (Renumbering container e)
  | .removeImage item => inferInstanceAs (Decidable (Renumbers container item))
  | .addImage _ | .moveImage _ _ | .rotateLeft _ | .rotateRight _ | .mirror _ => isTrue trivial

theorem edit_consistent (qt : QTransformOps Qreal) (container : CImageItemContainer Qreal)
    (e : Edit) (consistent : Consistent container)
    (admitted : container.Current e ∧ Renumbering container e) :
    ∃ next, container.edit qt e = .ok next ∧ Consistent next := by
  cases e with
  | addImage file => exact ⟨_, rfl, addImage_consistent qt container file consistent⟩
  | moveImage item direction =>
      exact moveImage_consistent container item direction consistent admitted.1
  | removeImage item => exact removeImage_consistent container item consistent admitted.1 admitted.2
  | rotateLeft item => exact ⟨_, rfl, press_consistent container item _ consistent⟩
  | rotateRight item => exact ⟨_, rfl, press_consistent container item _ consistent⟩
  | mirror item => exact ⟨_, rfl, press_consistent container item _ consistent⟩

abbrev Admitted (container : CImageItemContainer Qreal) (e : Edit) : Prop :=
  container.Current e ∧ Renumbering container e

theorem run_consistent (qt : QTransformOps Qreal) (edits : List Edit)
    (along : Runs.Along (edit qt) Admitted (empty qt) edits) :
    ∃ container, run qt edits = .ok container ∧ Consistent container :=
  Runs.run_succeeds Consistent (edit_consistent qt) (empty qt) edits (empty_consistent qt) along

/-- After the edits the item at layout position i has number i+1 and the layout
and `m_items` hold the same items, each once. -/
def NumbersFollowLayout (qt : QTransformOps Qreal) (edits : List Edit) : Prop :=
  ∃ container, run qt edits = .ok container ∧
    (∀ index (inside : index < container.layout.length),
      container.pageNumber container.layout[index] = index + 1) ∧
    container.layout.map container.pageNumber = List.range' 1 container.layout.length ∧
    container.layout.Nodup ∧ container.layout.Perm container.manager.items

/-- In every history whose removals renumber the tail of the layout, the numbers
follow the layout in every state reached. -/
theorem page_numbers_follow_layout (qt : QTransformOps Qreal) (edits : List Edit)
    (along : Runs.Along (edit qt) Admitted (empty qt) edits) :
    NumbersFollowLayout qt edits := by
  obtain ⟨container, reached, consistent⟩ := run_consistent qt edits along
  exact ⟨container, reached, numbered_getElem _ _ consistent.numbered, consistent.numbered,
    consistent.nodup, consistent.sameItems⟩

theorem reordered_numbers_follow_layout : NumbersFollowLayout doubleTransforms
    [.addImage [97], .addImage [98], .addImage [99], .moveImage 2 .left, .removeImage 0] :=
  page_numbers_follow_layout doubleTransforms _ (by decide)

/-- Two pages are exchanged and the one now in front is removed: `m_items` still
ends with the removed page, and the other keeps number 2. -/
theorem removal_after_move_misnumbers :
    Runs.Along (edit doubleTransforms) Current (empty doubleTransforms)
      [.addImage [97], .addImage [98], .moveImage 1 .left, .removeImage 1] ∧
    ¬ NumbersFollowLayout doubleTransforms
      [.addImage [97], .addImage [98], .moveImage 1 .left, .removeImage 1] := by
  refine ⟨by decide, ?_⟩
  rintro ⟨container, reached, _, numbers, _⟩
  cases reached
  revert numbers
  decide

end Container
end SaneInTheMembrane.PageNumbering

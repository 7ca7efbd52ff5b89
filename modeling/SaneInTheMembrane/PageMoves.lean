import Mathlib.Logic.Equiv.Basic
import SaneInTheMembrane.PageNumbering

/-!
`move_image` from any container whose numbers follow its layout. A move stops at
the ends of the layout; elsewhere it exchanges the item with its neighbour, and
the opposite move takes it back.
-/

namespace SaneInTheMembrane.PageMoves

open ImageContainer SaneInTheMembrane.Numbering PageNumbering PageNumbering.Container
open CImageItemContainer (swapWithPage)

theorem getElem?_exchanged {Entry : Type} (before after : List Entry) (left right : Entry)
    (index : Nat) :
    (before ++ right :: left :: after)[index]? =
      (before ++ left :: right :: after)[Equiv.swap before.length (before.length + 1) index]? := by
  by_cases first : index = before.length
  · subst first
    simp [Equiv.swap_apply_left]
  · by_cases second : index = before.length + 1
    · subst second
      simp [Equiv.swap_apply_right]
    · rw [Equiv.swap_apply_of_ne_of_ne first second]
      rcases Nat.lt_or_ge index before.length with front | back
      · rw [List.getElem?_append_left front, List.getElem?_append_left front]
      · obtain ⟨behind, place⟩ : ∃ behind, index = before.length + 2 + behind :=
          ⟨index - (before.length + 2), by omega⟩
        have offset : index - before.length = behind + 2 := by omega
        rw [List.getElem?_append_right back, List.getElem?_append_right back, offset]
        rfl

def opposite : EMoveDirection → EMoveDirection
  | .left => .right
  | .right => .left

section Moves
variable {Qreal : Type}

def AtEnd (container : CImageItemContainer Qreal) (item : ItemPtr) : EMoveDirection → Prop
  | .left => container.layout.head? = some item
  | .right => container.layout.getLast? = some item

def Beside (place beside : Nat) : EMoveDirection → Prop
  | .left => place = beside + 1
  | .right => beside = place + 1

/-- The item and its neighbour in the direction changed places and numbers, and
nothing else changed. -/
structure Exchanged (container next : CImageItemContainer Qreal) (item neighbour : ItemPtr)
    (place beside : Nat) : Prop where
  itemAt : container.layout[place]? = some item
  neighbourAt : container.layout[beside]? = some neighbour
  layout : ∀ index, next.layout[index]? = container.layout[Equiv.swap place beside index]?
  numbers : ∀ entry, next.pageNumber entry =
    container.pageNumber (Equiv.swap item neighbour entry)
  contents : ∀ entry, (next.heap entry).path = (container.heap entry).path ∧
    (next.heap entry).transform = (container.heap entry).transform
  manager : next.manager = container.manager
  unused : next.unused = container.unused

variable (container : CImageItemContainer Qreal) {before after : List ItemPtr}
  {left right : ItemPtr}

theorem swapped_pageNumber (apart : left ≠ right) (entry : ItemPtr) :
    (swapped container before after left right).pageNumber entry =
      container.pageNumber (Equiv.swap left right entry) := by
  by_cases first : entry = left
  · subst first
    simp [swapped, CImageItemContainer.pageNumber]
  · by_cases second : entry = right
    · subst second
      simp [swapped, CImageItemContainer.pageNumber, first]
    · rw [Equiv.swap_apply_of_ne_of_ne first second]
      simp [swapped, CImageItemContainer.pageNumber, first, second]

theorem swapped_contents (entry : ItemPtr) :
    ((swapped container before after left right).heap entry).path =
        (container.heap entry).path ∧
      ((swapped container before after left right).heap entry).transform =
        (container.heap entry).transform := by
  simp [swapped]

theorem swapped_exchanged (numbered : Numbered container.pageNumber container.layout)
    (split : container.layout = before ++ left :: right :: after) :
    Exchanged container (swapped container before after left right) left right before.length
      (before.length + 1) where
  itemAt := by simp [split]
  neighbourAt := by simp [split]
  layout := by
    rw [split]
    exact getElem?_exchanged before after left right
  numbers := swapped_pageNumber container (neighbours_ne (split ▸ numbered))
  contents := swapped_contents container
  manager := rfl
  unused := rfl

theorem Exchanged.symm {container next : CImageItemContainer Qreal} {item neighbour : ItemPtr}
    {place beside : Nat} (exchanged : Exchanged container next item neighbour place beside) :
    Exchanged container next neighbour item beside place where
  itemAt := exchanged.neighbourAt
  neighbourAt := exchanged.itemAt
  layout := by
    rw [Equiv.swap_comm]
    exact exchanged.layout
  numbers := by
    rw [Equiv.swap_comm]
    exact exchanged.numbers
  contents := exchanged.contents
  manager := exchanged.manager
  unused := exchanged.unused

theorem item_eq {first second : CImageItem Qreal} (path : first.path = second.path)
    (transform : first.transform = second.transform)
    (number : first.pageNumber = second.pageNumber) : first = second := by
  cases first
  cases second
  simp_all

theorem swapped_swapped (apart : left ≠ right)
    (split : container.layout = before ++ left :: right :: after) :
    swapped (swapped container before after left right) before after right left = container := by
  have heap : (swapped (swapped container before after left right) before after right left).heap =
      container.heap := by
    funext entry
    apply item_eq
    · rw [(swapped_contents _ entry).1, (swapped_contents _ entry).1]
    · rw [(swapped_contents _ entry).2, (swapped_contents _ entry).2]
    · change CImageItemContainer.pageNumber _ entry = container.pageNumber entry
      rw [swapped_pageNumber _ apart.symm, swapped_pageNumber container apart, Equiv.swap_comm,
        Equiv.swap_apply_self]
  have rebuilt : swapped (swapped container before after left right) before after right left =
      { container with
        layout := before ++ left :: right :: after
        heap := (swapped (swapped container before after left right) before after right
          left).heap } := rfl
  rw [rebuilt, heap, ← split]

variable {item : ItemPtr}

theorem atEnd_left_iff (nodup : container.layout.Nodup)
    (split : container.layout = before ++ item :: after) :
    AtEnd container item .left ↔ before = [] := by
  have absent := (notMem_split before after item (split ▸ nodup)).1
  rw [AtEnd, split]
  cases before with
  | nil => simp
  | cons first rest =>
      have different : first ≠ item := fun same => absent (by simp [same])
      simp [different]

theorem atEnd_right_iff (nodup : container.layout.Nodup)
    (split : container.layout = before ++ item :: after) :
    AtEnd container item .right ↔ after = [] := by
  have absent := (notMem_split before after item (split ▸ nodup)).2
  rw [AtEnd, split]
  rcases List.eq_nil_or_concat after with rfl | ⟨front, last, rfl⟩
  · simp
  · have different : last ≠ item := fun same => absent (by simp [same])
    have regrouped : before ++ item :: front.concat last = (before ++ item :: front) ++ [last] := by
      simp
    rw [regrouped, List.getLast?_concat]
    simp [different]

theorem idle_of_atEnd (direction : EMoveDirection)
    (numbered : Numbered container.pageNumber container.layout) (shown : item ∈ container.layout)
    (atEnd : AtEnd container item direction) : Idle container item direction := by
  have nodup := numbered_nodup _ _ numbered
  obtain ⟨before, after, split⟩ := List.append_of_mem shown
  have number := (numbered_split _ before after item (split ▸ numbered)).1
  cases direction with
  | left =>
      have first := (atEnd_left_iff container nodup split).mp atEnd
      simp [Idle, number, first, swapWithPage, sizePred]
  | right =>
      have last := (atEnd_right_iff container nodup split).mp atEnd
      by_cases wraps : before.length + 1 = sizeMax
      · simp [Idle, number, wraps, swapWithPage, sizeSucc]
      · simp [Idle, number, wraps, swapWithPage, sizeSucc, split, last]

theorem number_ne_sizeMax (sizes : ∀ entry ∈ container.layout, container.pageNumber entry ≤ sizeMax)
    (numbered : Numbered container.pageNumber container.layout)
    (split : container.layout = before ++ left :: right :: after) :
    before.length + 1 ≠ sizeMax := by
  have regrouped : container.layout = (before ++ [left]) ++ right :: after := by simp [split]
  have number := (numbered_split _ _ after right (regrouped ▸ numbered)).1
  have fits := sizes right (by simp [split])
  simp only [List.length_append, List.length_singleton] at number
  omega

theorem moveImage_right_left
    (sizes : ∀ entry ∈ container.layout, container.pageNumber entry ≤ sizeMax)
    (numbered : Numbered container.pageNumber container.layout)
    (split : container.layout = before ++ left :: right :: after) :
    container.moveImage left .right = .ok (swapped container before after left right) ∧
      (swapped container before after left right).moveImage left .left = .ok container := by
  constructor
  · exact moveImage_right container before after left right numbered split
      (number_ne_sizeMax container sizes numbered split)
  · rw [moveImage_left _ before after right left
      (swapped_numbered container before after left right (split ▸ numbered)) rfl]
    rw [swapped_swapped container (neighbours_ne (split ▸ numbered)) split]

theorem moveImage_left_right
    (sizes : ∀ entry ∈ container.layout, container.pageNumber entry ≤ sizeMax)
    (numbered : Numbered container.pageNumber container.layout)
    (split : container.layout = before ++ left :: right :: after) :
    container.moveImage right .left = .ok (swapped container before after left right) ∧
      (swapped container before after left right).moveImage right .right = .ok container := by
  constructor
  · exact moveImage_left container before after left right numbered split
  · rw [moveImage_right _ before after right left
      (swapped_numbered container before after left right (split ▸ numbered)) rfl
      (number_ne_sizeMax container sizes numbered split)]
    rw [swapped_swapped container (neighbours_ne (split ▸ numbered)) split]

/-- Where the item has a neighbour, the move exchanges the two, and the opposite move
exchanges them again. -/
theorem moveImage_inside (direction : EMoveDirection)
    (sizes : ∀ entry ∈ container.layout, container.pageNumber entry ≤ sizeMax)
    (numbered : Numbered container.pageNumber container.layout)
    (shown : item ∈ container.layout) (inside : ¬ AtEnd container item direction) :
    ∃ next neighbour place beside, container.moveImage item direction = .ok next ∧
      Numbered next.pageNumber next.layout ∧ Beside place beside direction ∧
      Exchanged container next item neighbour place beside ∧
      next.moveImage item (opposite direction) = .ok container := by
  have nodup := numbered_nodup _ _ numbered
  obtain ⟨before, after, split⟩ := List.append_of_mem shown
  cases direction with
  | left =>
      rw [atEnd_left_iff container nodup split] at inside
      rcases List.eq_nil_or_concat before with none | ⟨front, other, last⟩
      · exact absurd none inside
      · subst last
        have regrouped : container.layout = front ++ other :: item :: after := by simpa using split
        obtain ⟨moved, back⟩ := moveImage_left_right container sizes numbered regrouped
        refine ⟨_, other, front.length + 1, front.length, moved, ?_, rfl, ?_, back⟩
        · exact swapped_numbered container front after other item (regrouped ▸ numbered)
        · exact (swapped_exchanged container numbered regrouped).symm
  | right =>
      rw [atEnd_right_iff container nodup split] at inside
      cases after with
      | nil => exact absurd rfl inside
      | cons other rest =>
          obtain ⟨moved, back⟩ := moveImage_right_left container sizes numbered split
          refine ⟨_, other, before.length, before.length + 1, moved, ?_, rfl, ?_, back⟩
          · exact swapped_numbered container before rest item other (split ▸ numbered)
          · exact swapped_exchanged container numbered split

/-- From any container numbered along its layout, with numbers of type `std::size_t`, a
move stops at the ends and else exchanges two neighbours, and the opposite move restores
the container. -/
theorem move_exchanges_neighbours (container : CImageItemContainer Qreal) (item : ItemPtr)
    (direction : EMoveDirection)
    (sizes : ∀ entry ∈ container.layout, container.pageNumber entry ≤ sizeMax)
    (numbered : Numbered container.pageNumber container.layout)
    (shown : item ∈ container.layout) :
    ∃ next, container.moveImage item direction = .ok next ∧
      Numbered next.pageNumber next.layout ∧
      (AtEnd container item direction ∧ next = container ∨
        ¬ AtEnd container item direction ∧
        (∃ neighbour place beside, Beside place beside direction ∧
          Exchanged container next item neighbour place beside) ∧
        next.moveImage item (opposite direction) = .ok container) := by
  by_cases atEnd : AtEnd container item direction
  · have idle := idle_of_atEnd container direction numbered shown atEnd
    have stays := moveImage_idle container item direction idle
    exact ⟨container, stays, numbered, Or.inl ⟨atEnd, rfl⟩⟩
  · obtain ⟨next, neighbour, place, beside, moved, kept, adjacent, exchanged, back⟩ :=
      moveImage_inside container direction sizes numbered shown atEnd
    exact ⟨next, moved, kept,
      Or.inr ⟨atEnd, ⟨neighbour, place, beside, adjacent, exchanged⟩, back⟩⟩

theorem middle_page_moves :
    let qt := doubleTransforms
    let three := (((CImageItemContainer.empty qt).addImage qt [1]).addImage qt [2]).addImage qt [3]
    ∃ next, three.moveImage 1 .left = .ok next ∧ Numbered next.pageNumber next.layout ∧
      (AtEnd three 1 .left ∧ next = three ∨
        ¬ AtEnd three 1 .left ∧
        (∃ neighbour place beside, Beside place beside .left ∧
          Exchanged three next 1 neighbour place beside) ∧
        next.moveImage 1 .right = .ok three) :=
  move_exchanges_neighbours _ 1 .left (by decide) rfl (by decide)

end Moves
end SaneInTheMembrane.PageMoves

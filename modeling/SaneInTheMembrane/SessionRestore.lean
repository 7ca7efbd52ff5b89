import Mathlib.Data.List.Perm.Basic
import SaneInTheMembrane.ImageView
import SaneInTheMembrane.PageNumbering

/-!
Saving and restoring a document. Items are written in the order of `m_items` and
put back in the order of their numbers, so the document survives when the numbers
increase along the layout.
-/

namespace SaneInTheMembrane.SessionRestore

open ImageContainer SessionCodec ImageView PageNumbering.Container

def restored (qt : QTransformOps Word) (sorted : List SImageItemSerialized) :
    CImageItemContainer Word :=
  sorted.foldl addRecord (.empty qt)

/-- Whatever `std::sort` leaves of the decoded items, restoring shows the same
pages in the same order. -/
def SurvivesRestore (qt : QTransformOps Word) (grid : CImageItemContainer Word) : Prop :=
  ∀ payload : Bytes, payload.data = ImageView.serializeItems grid →
    ∃ items, deserializeItems payload = .done (.ok items) ∧
      ∀ sorted, SortedByPage items sorted → (restored qt sorted).displayed = grid.displayed

def content (record : SImageItemSerialized) : Path × SQtMatrix Word :=
  (record.path, record.transformMatrix)

theorem addRecord_displayed (grid : CImageItemContainer Word) (record : SImageItemSerialized)
    (allocated : ∀ item ∈ grid.layout, item < grid.unused) :
    (addRecord grid record).displayed = grid.displayed ++ [content record] := by
  simp only [addRecord, CImageItemContainer.displayed, addItem_layout, List.map_append,
    List.map_cons, List.map_nil, addItem_heap_new, content]
  congr 1
  refine List.map_congr_left fun entry member => ?_
  rw [addItem_heap_old grid _ entry (allocated entry member)]

theorem addRecords_displayed (records : List SImageItemSerialized)
    (grid : CImageItemContainer Word) (allocated : ∀ item ∈ grid.layout, item < grid.unused) :
    (records.foldl addRecord grid).displayed = grid.displayed ++ records.map content := by
  induction records generalizing grid with
  | nil => simp
  | cons record rest ih =>
      rw [List.foldl_cons, ih (addRecord grid record) (addItem_allocated grid _ allocated),
        addRecord_displayed grid record allocated]
      simp

theorem restored_displayed (qt : QTransformOps Word) (sorted : List SImageItemSerialized) :
    (restored qt sorted).displayed = sorted.map content := by
  have empty : ∀ item ∈ (CImageItemContainer.empty qt).layout,
      item < (CImageItemContainer.empty qt).unused := by
    simp [CImageItemContainer.empty]
  rw [restored, addRecords_displayed sorted _ empty]
  rfl

def displayedRecords (grid : CImageItemContainer Word) : List SImageItemSerialized :=
  grid.layout.map fun item => .ofItem (grid.heap item)

theorem displayedRecords_content (grid : CImageItemContainer Word) :
    (displayedRecords grid).map content = grid.displayed := by
  simp [displayedRecords, content, CImageItemContainer.displayed, SImageItemSerialized.ofItem]

theorem displayedRecords_increasing (grid : CImageItemContainer Word)
    (consistent : Consistent grid) (few : grid.layout.length < 2 ^ 64) :
    (displayedRecords grid).Pairwise
      (fun a b => a.pageNumber.toNat < b.pageNumber.toNat) := by
  have bound : ∀ item ∈ grid.layout, (grid.heap item).pageNumber < 2 ^ 64 := by
    intro item member
    have := Numbering.numberedFrom_bounds 1 _ _ consistent.numbered item member
    simp only [CImageItemContainer.pageNumber] at this
    omega
  have increasing := Numbering.numbered_pairwise _ _ consistent.numbered
  rw [displayedRecords, List.pairwise_map]
  apply increasing.imp_of_mem
  intro a b aShown bShown less
  simp only [SImageItemSerialized.ofItem, UInt64.toNat_ofNat', Nat.mod_eq_of_lt (bound a aShown),
    Nat.mod_eq_of_lt (bound b bShown)]
  exact less

/-- A document whose numbers follow its layout survives. -/
theorem consistent_survives (qt : QTransformOps Word) (grid : CImageItemContainer Word)
    (consistent : Consistent grid) : SurvivesRestore qt grid := by
  intro payload encoded
  refine ⟨serializedItems grid, deserializeItems_serializeItems payload _ encoded, ?_⟩
  intro sorted order
  -- The numbers are written as words; a payload in memory has room for fewer items.
  have few : grid.layout.length < 2 ^ 64 := by
    have count := items_le_bytes (serializedItems grid)
    have total := congrArg List.length encoded
    have bound := payload.inMemory
    have same := consistent.sameItems.length_eq
    have length : (serializedItems grid).length = grid.manager.items.length := by
      simp [serializedItems]
    simp only [ImageView.serializeItems] at total
    omega
  have records : (serializedItems grid).Perm (displayedRecords grid) :=
    (consistent.sameItems.symm).map _
  have same := Numbering.sorted_unique (fun record : SImageItemSerialized =>
    record.pageNumber.toNat) _ _ (displayedRecords_increasing grid consistent few)
    (order.2.imp UInt64.le_iff_toNat_le.mp) (order.1.trans records)
  rw [restored_displayed, same, displayedRecords_content]

/-- In every history whose removals renumber the tail of the layout, saving and
restoring gives the document back in every state reached. -/
theorem document_survives_restore (qt : QTransformOps Word) (edits : List Edit)
    (along : Runs.Along (CImageItemContainer.edit qt) Admitted (.empty qt) edits) :
    ∃ grid, CImageItemContainer.run qt edits = .ok grid ∧ SurvivesRestore qt grid := by
  obtain ⟨grid, reached, consistent⟩ := run_consistent qt edits along
  exact ⟨grid, reached, consistent_survives qt grid consistent⟩

theorem moved_document_survives_restore : ∃ grid,
    CImageItemContainer.run doubleTransforms [.addImage [97], .addImage [98], .addImage [99],
      .moveImage 2 .left, .mirror 2, .removeImage 0] = .ok grid ∧
    SurvivesRestore doubleTransforms grid :=
  document_survives_restore doubleTransforms _ (by decide)

/-- Removals that follow a move count down the numbers of the pages behind the wrong one:
the last page ends up with the smaller number, and comes first. -/
theorem counted_down_numbers_reorder_restore :
    Runs.Along (CImageItemContainer.edit doubleTransforms) CImageItemContainer.Current
      (.empty doubleTransforms)
      [.addImage [97], .addImage [98], .addImage [99], .addImage [100], .moveImage 0 .right,
        .moveImage 0 .right, .removeImage 1, .removeImage 2] ∧
    ¬ ∃ grid, CImageItemContainer.run doubleTransforms
        [.addImage [97], .addImage [98], .addImage [99], .addImage [100], .moveImage 0 .right,
          .moveImage 0 .right, .removeImage 1, .removeImage 2] = .ok grid ∧
      SurvivesRestore doubleTransforms grid := by
  refine ⟨by decide, ?_⟩
  rintro ⟨grid, reached, survives⟩
  let first : SImageItemSerialized := ⟨doubleTransforms.identity, 3, [97]⟩
  let last : SImageItemSerialized := ⟨doubleTransforms.identity, 2, [100]⟩
  have written : serializedItems grid = [first, last] ∧
      grid.displayed = [content first, content last] := by
    cases reached
    decide
  obtain ⟨items, decoded, same⟩ := survives
    ⟨4096, SessionCodec.serializeItems [first, last], by decide +kernel⟩
    (by rw [ImageView.serializeItems, written.1])
  rw [deserializeItems_serializeItems _ [first, last] rfl] at decoded
  cases decoded
  have swapped := same [last, first] ⟨List.Perm.swap _ _ _, by decide⟩
  rw [restored_displayed, written.2] at swapped
  revert swapped
  decide

end SaneInTheMembrane.SessionRestore

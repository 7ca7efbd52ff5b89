import SaneInTheMembrane.PageNumbering
import SaneInTheMembrane.SessionTracking

/-!
The page numbers after a restore. A restored page keeps the number its record
has, where a scanned page is given the next one, so the numbers follow the layout
only if the records continue the count of the pages that are there.
-/

namespace SaneInTheMembrane.RestoreNumbering

open ImageContainer CImageItemContainer SaneInTheMembrane.Numbering SessionCodec SessionService
open SessionCrash ImageView CImageView PageNumbering.Container

def layoutNumbers (grid : CImageItemContainer Word) : List Nat :=
  grid.layout.map grid.pageNumber

def recordNumbers (records : List SImageItemSerialized) : List Nat :=
  records.map fun record => record.pageNumber.toNat

/-- New items get addresses that no page has. -/
def Allocated (grid : CImageItemContainer Word) : Prop :=
  ∀ item ∈ grid.layout, item < grid.unused

theorem addSerialized_grid (view : CImageView) (record : SImageItemSerialized) :
    (view.addSerialized record).grid = addRecord view.grid record := by
  simp [addSerialized, initImageConnections, emit]

theorem foldl_addSerialized_grid (records : List SImageItemSerialized) (view : CImageView) :
    (records.foldl addSerialized view).grid = records.foldl addRecord view.grid := by
  induction records generalizing view with
  | nil => rfl
  | cons record rest ih => rw [List.foldl_cons, ih, addSerialized_grid, List.foldl_cons]

theorem addRecord_numbers (grid : CImageItemContainer Word) (record : SImageItemSerialized)
    (allocated : Allocated grid) :
    layoutNumbers (addRecord grid record) = layoutNumbers grid ++ [record.pageNumber.toNat] := by
  have old : grid.layout.map (addRecord grid record).pageNumber =
      grid.layout.map grid.pageNumber := by
    apply List.map_congr_left
    intro item member
    rw [pageNumber, addRecord, addItem_heap_old grid _ item (allocated item member)]
    rfl
  have new : (addRecord grid record).pageNumber grid.unused = record.pageNumber.toNat := by
    rw [pageNumber, addRecord, addItem_heap_new]
  have layout : (addRecord grid record).layout = grid.layout ++ [grid.unused] := rfl
  rw [layoutNumbers, layout, List.map_append, old, List.map_singleton, new]
  rfl

theorem addRecords_numbers (records : List SImageItemSerialized)
    (grid : CImageItemContainer Word) (allocated : Allocated grid) :
    layoutNumbers (records.foldl addRecord grid) =
      layoutNumbers grid ++ recordNumbers records := by
  induction records generalizing grid with
  | nil => simp [recordNumbers]
  | cons record rest ih =>
      rw [List.foldl_cons, ih (addRecord grid record) (addItem_allocated grid _ allocated),
        addRecord_numbers grid record allocated]
      simp [recordNumbers]

theorem layoutNumbers_length (grid : CImageItemContainer Word) :
    (layoutNumbers grid).length = grid.layout.length := by
  simp [layoutNumbers]

theorem numbered_iff (grid : CImageItemContainer Word) :
    Numbered grid.pageNumber grid.layout ↔
      layoutNumbers grid = List.range' 1 (layoutNumbers grid).length := by
  rw [layoutNumbers_length]
  rfl

/-- Of the sorts of some numbers only that of a run of numbers is that run. -/
theorem sorted_run_iff (items sorted : List SImageItemSerialized)
    (order : SortedByPage items sorted) (first : Nat) :
    recordNumbers sorted = List.range' first sorted.length ↔
      (recordNumbers items).Perm (List.range' first items.length) := by
  have same : (recordNumbers sorted).Perm (recordNumbers items) := order.1.map _
  rw [order.1.length_eq]
  constructor
  · intro run
    rw [← run]
    exact same.symm
  · intro numbers
    apply sorted_unique id
    · exact List.pairwise_lt_range'
    · exact List.pairwise_map.mpr (order.2.imp UInt64.le_iff_toNat_le.mp)
    · exact same.trans numbers

theorem answer_grid (view : CImageView) (answer : Answer)
    (sorted : List SImageItemSerialized) :
    (view.showEventAnswer answer sorted).grid =
      match answer with
      | .ok | .close => sorted.foldl addRecord view.grid
      | .cancel => view.grid := by
  cases answer with
  | ok | close => exact foldl_addSerialized_grid sorted view
  | cancel => rfl

/-- Whatever the file held and however many pages are there when the prompt is
answered: the pages stay numbered exactly when the prompt is cancelled or the
numbers of the records are the next ones. -/
theorem restore_numbered_iff (view : CImageView)
    (numbered : Numbered view.grid.pageNumber view.grid.layout)
    (allocated : Allocated view.grid) (answer : Answer)
    (items sorted : List SImageItemSerialized) (order : SortedByPage items sorted) :
    Numbered (view.showEventAnswer answer sorted).grid.pageNumber
        (view.showEventAnswer answer sorted).grid.layout ↔
      answer = .cancel ∨ (recordNumbers items).Perm
        (List.range' (view.grid.layout.length + 1) items.length) := by
  have before := (numbered_iff view.grid).mp numbered
  rw [layoutNumbers_length] at before
  have added : Numbered (sorted.foldl addRecord view.grid).pageNumber
      (sorted.foldl addRecord view.grid).layout ↔
        (recordNumbers items).Perm
          (List.range' (view.grid.layout.length + 1) items.length) := by
    have count : (recordNumbers sorted).length = sorted.length := by simp [recordNumbers]
    rw [numbered_iff, addRecords_numbers sorted view.grid allocated, List.length_append,
      layoutNumbers_length, count, ← List.range'_append_1, ← before, List.append_right_inj,
      Nat.add_comm 1, sorted_run_iff items sorted order]
  rw [answer_grid]
  cases answer with
  | ok | close => simpa using added
  | cancel => simpa using numbered

theorem saved_pages_stay_numbered :
    let view := CImageView.initial doubleTransforms none
    let items : List SImageItemSerialized :=
      [⟨doubleTransforms.identity, 2, [98]⟩, ⟨doubleTransforms.identity, 1, [97]⟩]
    let sorted : List SImageItemSerialized :=
      [⟨doubleTransforms.identity, 1, [97]⟩, ⟨doubleTransforms.identity, 2, [98]⟩]
    Numbered (view.showEventAnswer .ok sorted).grid.pageNumber
        (view.showEventAnswer .ok sorted).grid.layout ↔
      Answer.ok = .cancel ∨ (recordNumbers items).Perm
        (List.range' (view.grid.layout.length + 1) items.length) :=
  restore_numbered_iff (CImageView.initial doubleTransforms none) (numberedFrom_nil 1 _)
    (by simp [Allocated, CImageView.initial, empty]) .ok _ _ ⟨List.Perm.swap _ _ _, by decide⟩

/-- The file of a document with one page restores behind a page scanned while the
prompt was open: both pages have number 1. A record with number 2 alone is enough,
too. -/
theorem scan_during_prompt_misnumbers :
    let page (number : Word) : SImageItemSerialized :=
      ⟨doubleTransforms.identity, number, [97]⟩
    let file (number : Word) : SessionFile :=
      some (sessionHeader (SessionCodec.serializeItems [page number]) ++
        SessionCodec.serializeItems [page number])
    let start := CImageView.initial doubleTransforms (file 1)
    let scanned := start.addImage doubleTransforms [98]
    readSession 4096 (file 1) = .done (.ok [page 1]) ∧
      Numbered scanned.grid.pageNumber scanned.grid.layout ∧
      ¬ Numbered (scanned.showEventAnswer .ok [page 1]).grid.pageNumber
        (scanned.showEventAnswer .ok [page 1]).grid.layout ∧
      readSession 4096 (file 2) = .done (.ok [page 2]) ∧
      Numbered start.grid.pageNumber start.grid.layout ∧
      ¬ Numbered (start.showEventAnswer .ok [page 2]).grid.pageNumber
        (start.showEventAnswer .ok [page 2]).grid.layout := by
  intro page file start scanned
  refine ⟨?_, rfl, ?_, ?_, rfl, ?_⟩
  · exact readSession_records 4096 _ [page 1] (by decide +kernel)
  · intro numbered
    have numbers := (numbered_iff _).mp numbered
    revert numbers
    decide
  · exact readSession_records 4096 _ [page 2] (by decide +kernel)
  · intro numbered
    have numbers := (numbered_iff _).mp numbered
    revert numbers
    decide

end SaneInTheMembrane.RestoreNumbering

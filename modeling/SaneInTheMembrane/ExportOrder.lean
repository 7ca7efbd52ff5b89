import Mathlib.Data.List.Infix
import SaneInTheMembrane.ImageView
import SaneInTheMembrane.PageNumbering

/-!
The order of the exported pages. `sl_save_pdf` walks `m_items`; the user sees
the layout. `move_image` changes only the layout, so the two orders agree as
long as no move takes effect, and differ from the first one that does.
-/

namespace SaneInTheMembrane.ExportOrder

open ImageContainer ImageView PageNumbering.Container
variable {Qreal Real : Type}

def displayedPaths (toReal : Qreal → Real) (grid : CImageItemContainer Qreal) :
    List (Path × Pdf.SPdfMatrix Real) :=
  grid.layout.map fun item => CImageView.pdfEntry toReal (grid.heap item)

/-- The export hands over what is displayed, after these edits. -/
def ExportsDisplayed (qt : QTransformOps Qreal) (toReal : Qreal → Real) (edits : List Edit) :
    Prop :=
  ∃ grid, CImageItemContainer.run qt edits = .ok grid ∧
    CImageView.imagePaths toReal grid = displayedPaths toReal grid

/-- A step that leaves the order alone: any but a move that exchanges pages. -/
def KeepsOrder (grid : CImageItemContainer Qreal) : Edit → Prop
  | .moveImage item direction => Idle grid item direction
  | _ => True

instance (grid : CImageItemContainer Qreal) : (e : Edit) → Decidable (KeepsOrder grid e)
  | .moveImage item direction => inferInstanceAs (Decidable (Idle grid item direction))
  | .addImage _ | .removeImage _ | .rotateLeft _ | .rotateRight _ | .mirror _ => isTrue trivial

structure Aligned (grid : CImageItemContainer Qreal) : Prop where
  consistent : Consistent grid
  sameOrder : grid.manager.items = grid.layout

theorem aligned_exports (toReal : Qreal → Real) (grid : CImageItemContainer Qreal)
    (aligned : Aligned grid) :
    CImageView.imagePaths toReal grid = displayedPaths toReal grid := by
  simp [CImageView.imagePaths, displayedPaths, aligned.sameOrder]

theorem empty_aligned (qt : QTransformOps Qreal) : Aligned (CImageItemContainer.empty qt) :=
  ⟨empty_consistent qt, rfl⟩

theorem aligned_renumbers (grid : CImageItemContainer Qreal) (item : ItemPtr)
    (aligned : Aligned grid) (shown : item ∈ grid.layout) : Renumbers grid item := by
  obtain ⟨before, after, split⟩ := List.append_of_mem shown
  rw [renumbers_iff grid before after item aligned.consistent split, aligned.sameOrder, split,
    Numbering.drop_split]

theorem removeImage_aligned (grid next : CImageItemContainer Qreal) (item : ItemPtr)
    (aligned : Aligned grid) (shown : item ∈ grid.layout)
    (removed : grid.removeImage item = .ok next) :
    next.manager.items = next.layout := by
  obtain ⟨before, after, split⟩ := List.append_of_mem shown
  have nodup := aligned.consistent.nodup
  rw [removeImage_eq grid before after item aligned.consistent split] at removed
  cases removed
  simp only [aligned.sameOrder]
  rw [← nodup.erase_eq_filter, split]
  exact Numbering.erase_split before after item (split ▸ nodup)

theorem edit_aligned (qt : QTransformOps Qreal) (grid : CImageItemContainer Qreal) (e : Edit)
    (aligned : Aligned grid) (admitted : grid.Current e ∧ KeepsOrder grid e) :
    ∃ next, grid.edit qt e = .ok next ∧ Aligned next := by
  cases e with
  | addImage file =>
      refine ⟨_, rfl, addImage_consistent qt grid file aligned.consistent, ?_⟩
      exact congrArg (· ++ [grid.unused]) aligned.sameOrder
  | moveImage item direction =>
      exact ⟨grid, moveImage_idle grid item direction admitted.2, aligned⟩
  | removeImage item =>
      obtain ⟨next, removed, consistent⟩ := removeImage_consistent grid item aligned.consistent
        admitted.1 (aligned_renumbers grid item aligned admitted.1)
      exact ⟨next, removed, consistent,
        removeImage_aligned grid next item aligned admitted.1 removed⟩
  | rotateLeft item | rotateRight item | mirror item =>
      exact ⟨_, rfl, press_consistent grid item _ aligned.consistent, aligned.sameOrder⟩

theorem run_aligned (qt : QTransformOps Qreal) (edits : List Edit)
    (along : Runs.Along (CImageItemContainer.edit qt)
      (fun grid e => grid.Current e ∧ KeepsOrder grid e) (.empty qt) edits) :
    ∃ grid, CImageItemContainer.run qt edits = .ok grid ∧ Aligned grid :=
  Runs.run_succeeds Aligned (edit_aligned qt) (.empty qt) edits (empty_aligned qt) along

def filePaths (grid : CImageItemContainer Qreal) : List Path :=
  grid.layout.map fun item => (grid.heap item).path

def addedFiles (edits : List Edit) : List Path :=
  edits.filterMap fun e => match e with
    | .addImage file => some file
    | _ => none

theorem addItem_filePaths (grid : CImageItemContainer Qreal) (item : CImageItem Qreal)
    (allocated : ∀ entry ∈ grid.layout, entry < grid.unused) :
    filePaths (grid.addItem item) = filePaths grid ++ [item.path] := by
  have old : ∀ entry ∈ grid.layout,
      ((grid.addItem item).heap entry).path = (grid.heap entry).path := by
    intro entry member
    rw [addItem_heap_old grid item entry (allocated entry member)]
  simp only [filePaths, addItem_layout, List.map_append, List.map_cons, List.map_nil,
    addItem_heap_new]
  rw [List.map_congr_left old]

/-- A removal takes the item out of the layout and out of `m_items`; of the other
items it changes no more than the number. -/
theorem removeImage_effect (grid next : CImageItemContainer Qreal) (item : ItemPtr)
    (removed : grid.removeImage item = .ok next) :
    next.layout = grid.layout.erase item ∧
      next.manager.items = grid.manager.items.filter (· != item) ∧
      next.unused = grid.unused ∧ ∀ entry, (next.heap entry).path = (grid.heap entry).path := by
  unfold CImageItemContainer.removeImage CImageItemManager.removeItem at removed
  dsimp only at removed
  split at removed
  next => cases removed
  next =>
    by_cases once : grid.manager.items.count item = 1
    · simp only [once, ↓reduceIte] at removed
      cases removed
      exact ⟨rfl, rfl, rfl, fun entry => (renumber_content _ _ entry).1⟩
    · simp [once] at removed

theorem removeImage_filePaths (grid next : CImageItemContainer Qreal) (item : ItemPtr)
    (removed : grid.removeImage item = .ok next) :
    (filePaths next).Sublist (filePaths grid) := by
  obtain ⟨layout, -, -, paths⟩ := removeImage_effect grid next item removed
  simp only [filePaths, layout, paths]
  exact List.erase_sublist.map _

/-- Exchanging two pages with different files changes what is displayed and not
what is exported. -/
theorem swapped_exports (toReal : Qreal → Real) (grid : CImageItemContainer Qreal)
    (before after : List ItemPtr) (left right : ItemPtr) (aligned : Aligned grid)
    (split : grid.layout = before ++ left :: right :: after)
    (distinct : (filePaths grid).Nodup) :
    CImageView.imagePaths toReal (swapped grid before after left right) ≠
      displayedPaths toReal (swapped grid before after left right) := by
  intro same
  have items : (swapped grid before after left right).manager.items =
      before ++ left :: right :: after := aligned.sameOrder.trans split
  have layout : (swapped grid before after left right).layout =
      before ++ right :: left :: after := rfl
  have paths := congrArg (List.map Prod.fst) same
  simp only [CImageView.imagePaths, displayedPaths, items, layout, List.map_append,
    List.map_cons, CImageView.pdfEntry, List.append_cancel_left_eq, List.cons.injEq] at paths
  -- The two orders part at the exchanged place: one file would be there twice.
  have equal : (grid.heap left).path = (grid.heap right).path := by
    simpa [swapped] using paths.1
  rw [filePaths, split, List.map_append, List.map_cons, List.map_cons] at distinct
  apply (Numbering.notMem_split _ _ _ distinct).2
  rw [equal]
  exact List.mem_cons_self

theorem keepsOrder_of_export (qt : QTransformOps Qreal) (toReal : Qreal → Real)
    (grid : CImageItemContainer Qreal) (e : Edit) (aligned : Aligned grid)
    (current : grid.Current e) (distinct : (filePaths grid).Nodup)
    (exports : ∀ next, grid.edit qt e = .ok next →
      CImageView.imagePaths toReal next = displayedPaths toReal next) : KeepsOrder grid e := by
  cases e with
  | moveImage item direction =>
      by_contra busy
      obtain ⟨before, left, right, after, split, _, moved⟩ :=
        moveImage_swap grid item direction aligned.consistent current busy
      exact swapped_exports toReal grid before after left right aligned split distinct
        (exports _ moved)
  | addImage file => trivial
  | removeImage item => trivial
  | rotateLeft item => trivial
  | rotateRight item => trivial
  | mirror item => trivial

theorem edit_distinct (qt : QTransformOps Qreal) (grid next : CImageItemContainer Qreal)
    (e : Edit) (rest : List Edit) (aligned : Aligned grid) (keeps : KeepsOrder grid e)
    (taken : grid.edit qt e = .ok next)
    (distinct : (filePaths grid ++ addedFiles (e :: rest)).Nodup) :
    (filePaths next ++ addedFiles rest).Nodup := by
  cases e with
  | addImage file =>
      cases taken
      rw [show filePaths (grid.addImage qt file) = _ from
        addItem_filePaths grid _ aligned.consistent.allocated]
      simpa [addedFiles] using distinct
  | moveImage item direction =>
      have same := (moveImage_idle grid item direction keeps).symm.trans taken
      cases same
      simpa [addedFiles] using distinct
  | removeImage item =>
      have shorter := removeImage_filePaths grid next item taken
      exact (shorter.append_right _).nodup (by simpa [addedFiles] using distinct)
  | rotateLeft item | rotateRight item | mirror item =>
      cases taken
      simpa [filePaths, CImageItemContainer.press, addedFiles] using distinct

theorem keepsOrder_of_exports (qt : QTransformOps Qreal) (toReal : Qreal → Real)
    (edits : List Edit) (grid : CImageItemContainer Qreal) (aligned : Aligned grid)
    (current : Runs.Along (CImageItemContainer.edit qt) CImageItemContainer.Current grid edits)
    (distinct : (filePaths grid ++ addedFiles edits).Nodup)
    (exports : ∀ front, front <+: edits → ∃ last,
      Runs.run (CImageItemContainer.edit qt) grid front = .ok last ∧
        CImageView.imagePaths toReal last = displayedPaths toReal last) :
    Runs.Along (CImageItemContainer.edit qt) KeepsOrder grid edits := by
  induction edits generalizing grid with
  | nil => trivial
  | cons e rest ih =>
      have first : ∀ next, grid.edit qt e = .ok next →
          CImageView.imagePaths toReal next = displayedPaths toReal next := by
        intro next taken
        obtain ⟨last, reached, same⟩ := exports [e] (List.prefix_append _ rest)
        rw [Runs.run_cons_ok [] taken] at reached
        cases reached
        exact same
      have keeps := keepsOrder_of_export qt toReal grid e aligned current.1
        (List.nodup_append.mp distinct).1 first
      obtain ⟨next, taken, nextAligned⟩ := edit_aligned qt grid e aligned ⟨current.1, keeps⟩
      have left := edit_distinct qt grid next e rest aligned keeps taken distinct
      rw [Runs.along_cons_ok rest taken] at current ⊢
      refine ⟨keeps, ih next nextAligned current.2 left ?_⟩
      intro front within
      obtain ⟨last, reached, same⟩ :=
        exports (e :: front) (List.cons_prefix_cons.mpr ⟨rfl, within⟩)
      exact ⟨last, by rwa [Runs.run_cons_ok front taken] at reached, same⟩

/-- In a history in which no move takes effect every export is what is displayed.
With a file of its own for each page, the first move that does take effect makes
the two differ. -/
theorem export_follows_layout (qt : QTransformOps Qreal) (toReal : Qreal → Real)
    (edits : List Edit)
    (current : Runs.Along (CImageItemContainer.edit qt) CImageItemContainer.Current
      (.empty qt) edits) :
    (Runs.Along (CImageItemContainer.edit qt) KeepsOrder (.empty qt) edits →
      ∀ front, front <+: edits → ExportsDisplayed qt toReal front) ∧
    ((addedFiles edits).Nodup →
      (∀ front, front <+: edits → ExportsDisplayed qt toReal front) →
      Runs.Along (CImageItemContainer.edit qt) KeepsOrder (.empty qt) edits) := by
  constructor
  · intro keeps front within
    have along := Runs.along_prefix within ((Runs.along_and _ _).mpr ⟨current, keeps⟩)
    obtain ⟨grid, reached, aligned⟩ := run_aligned qt front along
    exact ⟨grid, reached, aligned_exports toReal grid aligned⟩
  · intro distinct exports
    exact keepsOrder_of_exports qt toReal edits _ (empty_aligned qt) current
      (by simpa [filePaths, CImageItemContainer.empty] using distinct) exports

theorem unmoved_export_follows_layout : ExportsDisplayed doubleTransforms id
    [.addImage [97], .addImage [98], .moveImage 0 .left, .removeImage 0] :=
  (export_follows_layout doubleTransforms id _ (by decide)).1 (by decide) _ List.prefix_rfl

/-- Two pages are exchanged: the second page shown is exported first. -/
theorem move_reorders_only_display :
    Runs.Along (CImageItemContainer.edit doubleTransforms) CImageItemContainer.Current
      (.empty doubleTransforms) [.addImage [97], .addImage [98], .moveImage 1 .left] ∧
    ¬ ExportsDisplayed doubleTransforms id
      [.addImage [97], .addImage [98], .moveImage 1 .left] := by
  refine ⟨by decide, ?_⟩
  rintro ⟨grid, reached, same⟩
  cases reached
  revert same
  decide

end SaneInTheMembrane.ExportOrder

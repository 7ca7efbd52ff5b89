import SaneInTheMembrane.ExportOrder
import SaneInTheMembrane.PdfExport
import SaneInTheMembrane.SessionTracking

/-!
Ui/MainWindow.cpp, `closeEvent`: the window asks before it closes only while it is
marked modified. Added and removed pages mark it, moved and transformed ones do
not, and every PDF save takes the mark away. So closing without a question loses
no work as long as nothing silent happens to an unmarked document.
-/

namespace SaneInTheMembrane.ModifiedFlag

open ImageContainer ImageView CImageView SessionTracking PageNumbering.Container
open SessionCodec (Word)

abbrev Document := List (Path × SQtMatrix Word)

inductive CloseReply where
  | acceptedAtOnce
  | answered (accepted : Bool)
  deriving DecidableEq, Repr

/-- `closeEvent`; the answer is that to the question, if it is asked. -/
def closeEvent (view : CImageView) (answer : Answer) : CloseReply :=
  if !view.windowModified then .acceptedAtOnce
  else match answer with
    | .ok | .close => .answered true
    | .cancel => .answered false

theorem closeEvent_iff (view : CImageView) (answer : Answer) :
    closeEvent view answer = .acceptedAtOnce ↔ view.windowModified = false := by
  cases marked : view.windowModified with
  | false => simp [closeEvent, marked]
  | true => cases answer <;> simp [closeEvent, marked]

section Machine
variable {Real : Type} [Zero Real] [Add Real] [Sub Real] [Neg Real] [Mul Real] [Min Real]
  [Max Real]

/-- The view, and the document at the last PDF save that succeeded. -/
structure Work where
  view : CImageView
  lastSaved : Option Document := none

def initial (qt : QTransformOps Word) (session : SessionService.SessionFile) : Work where
  view := CImageView.initial qt session

/-- The document counts as saved when all its images were added and the file was
written. -/
def savedBy (toReal : Word → Real) (work : Work) : LaterEvent Real → Option Document
  | .savePdf haru (some file) =>
      if file ≠ [] ∧ exportPdf toReal haru work.view file = (true, Pdf.hpdfOk) then
        some work.view.grid.displayed
      else work.lastSaved
  | _ => work.lastSaved

def step (qt : QTransformOps Word) (toReal : Word → Real) (work : Work)
    (event : LaterEvent Real) : Except Fault Work :=
  match later qt toReal work.view event with
  | .ok view => .ok ⟨view, savedBy toReal work event⟩
  | .error fault => .error fault

/-- A close without a question loses nothing now. -/
def LosesNothing (work : Work) : Prop :=
  ∀ answer, closeEvent work.view answer = .acceptedAtOnce →
    work.view.grid.displayed = [] ∨ work.lastSaved = some work.view.grid.displayed

/-- The edit changes the document without a word to the window. -/
def Silent (qt : QTransformOps Word) (grid : CImageItemContainer Word) : Edit → Prop
  | .addImage _ | .removeImage _ => False
  | .moveImage item direction => ¬ Idle grid item direction
  | .rotateLeft item => qt.rotate (-90) (grid.heap item).transform ≠ (grid.heap item).transform
  | .rotateRight item => qt.rotate 90 (grid.heap item).transform ≠ (grid.heap item).transform
  | .mirror item => qt.scale (-1) 1 (grid.heap item).transform ≠ (grid.heap item).transform

/-- Silent edits only while the window is marked, and a PDF save that takes the
mark away either succeeds or finds nothing to save. -/
def Careful (qt : QTransformOps Word) (toReal : Word → Real) (work : Work) :
    LaterEvent Real → Prop
  | .edit e => work.view.windowModified = true ∨ ¬ Silent qt work.view.grid e
  | .savePdf haru dialog => ∀ file, dialog = some file → file ≠ [] →
      PdfExport.HaruSucceeds toReal haru work.view file ∨
        work.view.grid.displayed = [] ∨ work.lastSaved = some work.view.grid.displayed
  | .restore _ _ => True

/-- The numbers follow the layout, no page is shown twice, and the edits are made
with the buttons of shown pages. -/
def Regular (work : Work) : LaterEvent Real → Prop
  | .edit e => Consistent work.view.grid ∧ work.view.grid.displayed.Nodup ∧
      work.view.grid.Current e
  | .savePdf _ _ | .restore _ _ => True

end Machine

section Flag

theorem losesNothing_iff (work : Work) :
    LosesNothing work ↔ (work.view.windowModified = false →
      work.view.grid.displayed = [] ∨ work.lastSaved = some work.view.grid.displayed) := by
  constructor
  · intro safe clean
    exact safe .ok ((closeEvent_iff _ _).mpr clean)
  · intro safe answer accepted
    exact safe ((closeEvent_iff _ _).mp accepted)

theorem addSerialized_marks (view : CImageView) (record : SessionCodec.SImageItemSerialized) :
    (view.addSerialized record).windowModified = true := by
  simp [addSerialized, initImageConnections, emit, windowModifiedAfter, addRecord,
    CImageItemContainer.addItem, CImageItemManager.addItem]

theorem addSerialized_marked (records : List SessionCodec.SImageItemSerialized)
    (view : CImageView) (marked : view.windowModified = true) :
    (records.foldl addSerialized view).windowModified = true := by
  induction records generalizing view with
  | nil => exact marked
  | cons record rest ih => exact ih _ (addSerialized_marks view record)

theorem showEventAnswer_flag (view : CImageView) (answer : Answer)
    (sorted : List SessionCodec.SImageItemSerialized) :
    (view.showEventAnswer answer sorted).windowModified = true ∨
      (view.showEventAnswer answer sorted).windowModified = view.windowModified ∧
        (view.showEventAnswer answer sorted).grid = view.grid := by
  cases answer with
  | ok | close =>
      cases sorted with
      | nil => exact .inr ⟨rfl, rfl⟩
      | cons record rest =>
          exact .inl (addSerialized_marked rest _ (addSerialized_marks view record))
  | cancel => exact .inr ⟨rfl, rfl⟩

theorem press_displayed (grid : CImageItemContainer Word) (item : ItemPtr)
    (op : SQtMatrix Word → SQtMatrix Word)
    (same : op (grid.heap item).transform = (grid.heap item).transform) :
    (grid.press item op).displayed = grid.displayed := by
  have unchanged : setTransform grid.heap item (grid.heap item).transform = grid.heap :=
    Function.update_eq_self item grid.heap
  simp only [CImageItemContainer.press, CImageItemContainer.displayed, same, unchanged]

/-- An edit marks the window or empties the document, or leaves the mark alone;
then it changes the document only if it is silent. -/
theorem edit_flag (qt : QTransformOps Word) (view next : CImageView) (e : Edit)
    (taken : view.edit qt e = .ok next) :
    (next.windowModified = true ∨ next.grid.displayed = []) ∨
      (next.windowModified = view.windowModified ∧
        (¬ Silent qt view.grid e → next.grid.displayed = view.grid.displayed)) := by
  cases e with
  | addImage file =>
      cases taken
      left
      left
      simp [CImageView.addImage, initImageConnections, emit, windowModifiedAfter,
        CImageItemContainer.addImage, CImageItemContainer.addItem, CImageItemManager.addItem]
  | removeImage item =>
      simp only [CImageView.edit, slRemoveImage] at taken
      cases removed : view.grid.removeImage item with
      | error fault => simp [removed] at taken
      | ok grid =>
          rw [removed] at taken
          cases taken
          left
          cases shown : grid.layout with
          | nil => exact .inr (by simp [emit, CImageItemContainer.displayed, shown])
          | cons first rest => exact .inl (by simp [emit, windowModifiedAfter])
  | moveImage item direction =>
      simp only [CImageView.edit, slMoveImage] at taken
      cases moved : view.grid.moveImage item direction with
      | error fault => simp [moved] at taken
      | ok grid =>
          rw [moved] at taken
          cases taken
          right
          refine ⟨by simp, fun idle => ?_⟩
          have same := (moveImage_idle view.grid item direction (not_not.mp idle)).symm.trans moved
          cases same
          simp
  | rotateLeft item | rotateRight item | mirror item =>
      cases taken
      right
      refine ⟨by simp [slTransform], fun fixed => ?_⟩
      simpa [slTransform] using press_displayed view.grid item _ (not_not.mp fixed)

end Flag

section Silence
variable (qt : QTransformOps Word) (grid : CImageItemContainer Word)

theorem swapped_displayed (before after : List ItemPtr) (left right : ItemPtr)
    (split : grid.layout = before ++ left :: right :: after) (distinct : grid.displayed.Nodup) :
    (swapped grid before after left right).displayed ≠ grid.displayed := by
  intro same
  let content (item : ItemPtr) := ((grid.heap item).path, (grid.heap item).transform)
  have exchanged : (swapped grid before after left right).displayed =
      (before ++ right :: left :: after).map content := by
    simp [swapped, CImageItemContainer.displayed, content]
  have shown : grid.displayed = (before ++ left :: right :: after).map content := by
    rw [CImageItemContainer.displayed, split]
  rw [exchanged, shown] at same
  rw [shown] at distinct
  simp only [List.map_append, List.map_cons, List.append_cancel_left_eq,
    List.cons.injEq] at same distinct
  apply (Numbering.notMem_split _ _ _ distinct).2
  rw [← same.1]
  exact List.mem_cons_self

theorem press_changes (item : ItemPtr) (op : SQtMatrix Word → SQtMatrix Word)
    (shown : item ∈ grid.layout)
    (turned : op (grid.heap item).transform ≠ (grid.heap item).transform) :
    (grid.press item op).displayed ≠ grid.displayed := by
  intro same
  have content := List.map_inj_left.mp same item shown
  simp only [CImageItemContainer.press, setTransform, Function.update_self, Prod.mk.injEq] at content
  exact turned content.2

theorem displayed_nonempty (item : ItemPtr) (shown : item ∈ grid.layout) :
    grid.displayed ≠ [] := by
  intro empty
  simp only [CImageItemContainer.displayed, List.map_eq_nil_iff] at empty
  simp [empty] at shown

theorem silent_changes (view : CImageView) (e : Edit) (consistent : Consistent view.grid)
    (distinct : view.grid.displayed.Nodup) (current : view.grid.Current e)
    (silent : Silent qt view.grid e) : ∃ next, view.edit qt e = .ok next ∧
      next.windowModified = view.windowModified ∧
      next.grid.displayed ≠ view.grid.displayed ∧ view.grid.displayed ≠ [] ∧
      next.grid.displayed ≠ [] := by
  cases e with
  | addImage file => exact silent.elim
  | removeImage item => exact silent.elim
  | moveImage item direction =>
      obtain ⟨before, left, right, after, split, -, moved⟩ :=
        moveImage_swap view.grid item direction consistent current silent
      have changed := swapped_displayed view.grid before after left right split distinct
      refine ⟨_, by simp only [CImageView.edit, slMoveImage, moved]; rfl, by simp, ?_, ?_, ?_⟩
      · simpa using changed
      · exact displayed_nonempty view.grid item current
      · simp [swapped, CImageItemContainer.displayed]
  | rotateLeft item | rotateRight item | mirror item =>
      refine ⟨_, rfl, by simp [slTransform], ?_, displayed_nonempty view.grid item current, ?_⟩
      · simpa [slTransform] using press_changes view.grid item _ current silent
      · simpa [slTransform] using displayed_nonempty (view.grid.press item _) item current

end Silence

section Steps
variable {Real : Type} [Zero Real] [Add Real] [Sub Real] [Neg Real] [Mul Real] [Min Real]
  [Max Real] {qt : QTransformOps Word} {toReal : Word → Real}

theorem succeeds_iff (haru : Pdf.Haru Real) (view : CImageView) (file : Path) :
    exportPdf toReal haru view file = (true, Pdf.hpdfOk) ↔
      PdfExport.HaruSucceeds toReal haru view file := by
  rw [← not_iff_not, ← PdfExport.incomplete_iff, PdfExport.Incomplete, Prod.ext_iff, not_and_or]
  simp

theorem savePdf_effect (toReal : Word → Real) (work : Work) (haru : Pdf.Haru Real)
    (dialog : Option Path) :
    (∃ file, dialog = some file ∧ file ≠ [] ∧
      (work.view.slSavePdf toReal haru dialog).windowModified = false ∧
      (work.view.slSavePdf toReal haru dialog).grid = work.view.grid) ∨
    (work.view.slSavePdf toReal haru dialog = work.view ∧
      savedBy toReal work (.savePdf haru dialog) = work.lastSaved) := by
  cases dialog with
  | none => exact .inr ⟨rfl, rfl⟩
  | some file =>
      by_cases unnamed : file = []
      · exact .inr ⟨by simp [slSavePdf, unnamed], by simp [savedBy, unnamed]⟩
      · refine .inl ⟨file, rfl, unnamed, ?_, ?_⟩
        · simp [slSavePdf, unnamed, emit, windowModifiedAfter]
        · simp [slSavePdf, unnamed, emit]

theorem step_ok {work next : Work} {event : LaterEvent Real}
    (taken : step qt toReal work event = .ok next) :
    later qt toReal work.view event = .ok next.view ∧
      next.lastSaved = savedBy toReal work event := by
  unfold step at taken
  cases viewed : later qt toReal work.view event with
  | error fault => simp [viewed] at taken
  | ok view =>
      rw [viewed] at taken
      cases taken
      exact ⟨rfl, rfl⟩

theorem careful_step (work next : Work) (event : LaterEvent Real) (safe : LosesNothing work)
    (careful : Careful qt toReal work event) (taken : step qt toReal work event = .ok next) :
    LosesNothing next := by
  obtain ⟨viewed, saved⟩ := step_ok taken
  rw [losesNothing_iff] at safe ⊢
  intro clean
  cases event with
  | edit e =>
      rcases edit_flag qt work.view next.view e viewed with (marked | empty) | ⟨flag, kept⟩
      · rw [marked] at clean
        cases clean
      · exact .inl empty
      · rw [flag] at clean
        have quiet := careful.resolve_left (by simp [clean])
        rw [kept quiet, saved]
        exact safe clean
  | restore answer sorted =>
      rw [← show work.view.showEventAnswer answer sorted = next.view from
        Except.ok.inj viewed] at clean ⊢
      rcases showEventAnswer_flag work.view answer sorted with marked | ⟨flag, same⟩
      · rw [marked] at clean
        cases clean
      · rw [same, saved]
        exact safe (flag.symm.trans clean)
  | savePdf haru dialog =>
      rw [← show work.view.slSavePdf toReal haru dialog = next.view from
        Except.ok.inj viewed] at clean ⊢
      rcases savePdf_effect toReal work haru dialog with
        ⟨file, rfl, named, -, grid⟩ | ⟨same, kept⟩
      · rw [grid, saved]
        by_cases success : exportPdf toReal haru work.view file = (true, Pdf.hpdfOk)
        · right
          simp [savedBy, named, success]
        · simp only [savedBy, success, and_false, ↓reduceIte]
          exact (careful file rfl named).resolve_left (mt (succeeds_iff haru _ _).mpr success)
      · rw [same] at clean ⊢
        rw [saved, kept]
        exact safe clean

theorem careful_of_safe (work : Work) (event : LaterEvent Real) (safe : LosesNothing work)
    (regular : Regular work event)
    (kept : ∀ next, step qt toReal work event = .ok next → LosesNothing next) :
    Careful qt toReal work event := by
  rw [losesNothing_iff] at safe
  cases event with
  | restore answer sorted => trivial
  | edit e =>
      obtain ⟨consistent, distinct, current⟩ := regular
      by_contra careless
      obtain ⟨clean, silent⟩ := not_or.mp careless
      rw [Bool.not_eq_true] at clean
      obtain ⟨next, edited, flag, changed, shown, stillShown⟩ :=
        silent_changes qt work.view e consistent distinct current (not_not.mp silent)
      have after := (losesNothing_iff _).mp (kept ⟨next, work.lastSaved⟩ (by
        simp only [step, later, edited, savedBy])) (flag.trans clean)
      -- The saved document is the one before the edit.
      rw [(safe clean).resolve_left shown] at after
      exact after.elim stillShown fun equal => changed (Option.some.inj equal).symm
  | savePdf haru dialog =>
      rintro file rfl named
      by_contra careless
      obtain ⟨failed, unsaved⟩ := not_or.mp careless
      have after := (losesNothing_iff _).mp (kept _ rfl)
        (by simp [slSavePdf, named, emit, windowModifiedAfter])
      rw [← succeeds_iff] at failed
      simp only [slSavePdf, named, savedBy, failed, and_false, ↓reduceIte, emit] at after
      exact unsaved after

end Steps

section Runs
variable {Real : Type} [Zero Real] [Add Real] [Sub Real] [Neg Real] [Mul Real] [Min Real]
  [Max Real]

theorem initial_losesNothing (qt : QTransformOps Word) (session : SessionService.SessionFile) :
    LosesNothing (initial qt session) := fun _ _ => .inl rfl

/-- Closing without a question loses nothing in any state of a careful run. A run
of regular steps that never loses anything is careful. -/
theorem silent_close_keeps_work (qt : QTransformOps Word) (toReal : Word → Real)
    (session : SessionService.SessionFile) (events : List (LaterEvent Real)) :
    (Runs.Along (step qt toReal) (Careful qt toReal) (initial qt session) events →
      ∀ front, front <+: events → ∀ work,
        Runs.run (step qt toReal) (initial qt session) front = .ok work → LosesNothing work) ∧
    (Runs.Along (step qt toReal) Regular (initial qt session) events →
      (∀ front, front <+: events → ∀ work,
        Runs.run (step qt toReal) (initial qt session) front = .ok work → LosesNothing work) →
      Runs.Along (step qt toReal) (Careful qt toReal) (initial qt session) events) := by
  constructor
  · intro careful front within work reached
    exact Runs.run_keeps_along LosesNothing
      (fun state event next safe meets taken => careful_step state next event safe meets taken)
      (initial qt session) work front (initial_losesNothing qt session)
      (Runs.along_prefix within careful) reached
  · intro regular safe
    exact Runs.along_of_prefixes LosesNothing LosesNothing careful_of_safe
      (fun state event next safe meets taken => careful_step state next event safe meets taken)
      (initial qt session) events (initial_losesNothing qt session) regular safe

def writingHaru : Pdf.Haru Int :=
  ⟨fun _ => true, fun _ _ => some ⟨1, 1⟩, fun _ _ => Pdf.hpdfOk⟩

theorem mirrored_then_saved_keeps_work : ∃ work,
    Runs.run (step doubleTransforms (fun _ => (0 : Int))) (initial doubleTransforms none)
      [.edit (.addImage [97]), .edit (.mirror 0), .savePdf writingHaru (some [98])] = .ok work ∧
    LosesNothing work ∧ closeEvent work.view .cancel = .acceptedAtOnce := by
  refine ⟨_, rfl, ?_, rfl⟩
  have careful : Runs.Along (step doubleTransforms (fun _ => (0 : Int)))
      (Careful doubleTransforms (fun _ => 0)) (initial doubleTransforms none)
      [.edit (.addImage [97]), .edit (.mirror 0), .savePdf writingHaru (some [98])] := by
    refine ⟨.inr not_false, .inl rfl, ?_, trivial⟩
    intro file _ _
    exact .inl ⟨fun _ _ => ⟨rfl, rfl⟩, rfl⟩
  exact (silent_close_keeps_work doubleTransforms (fun _ => (0 : Int)) none _).1 careful _
    List.prefix_rfl _ rfl

/-- A saved page is mirrored: the window stays unmarked and closes at once. -/
theorem mirrored_after_save_is_lost : ∃ work,
    Runs.run (step doubleTransforms (fun _ => (0 : Int))) (initial doubleTransforms none)
      [.edit (.addImage [97]), .savePdf writingHaru (some [98]), .edit (.mirror 0)] = .ok work ∧
    closeEvent work.view .cancel = .acceptedAtOnce ∧ ¬ LosesNothing work := by
  refine ⟨_, rfl, rfl, fun safe => ?_⟩
  have lost := (losesNothing_iff _).mp safe rfl
  revert lost
  decide

end Runs
end SaneInTheMembrane.ModifiedFlag

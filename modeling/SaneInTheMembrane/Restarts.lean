import SaneInTheMembrane.FileStore
import SaneInTheMembrane.KeptDocument
import SaneInTheMembrane.RestoreNumbering
import SaneInTheMembrane.RestorePrompts
import SaneInTheMembrane.ScanImage
import SaneInTheMembrane.SessionRestore

/-!
The pages over the life of the program: finished scans, the toolbar, PDF saves, and ends
of the process with a new start behind them. A page is what the disk has under its path.
The machine is a document that is kept in the session file.
-/

namespace SaneInTheMembrane.Restarts

open ImageContainer ImageView KeptDocument FileStore PageNumbering.Container
open SessionCodec hiding serializeItems
open SessionService hiding saveSession write append
open SessionRestore RestoreNumbering

section Model

structure Desk where
  view : CImageView
  disk : Disk Path

inductive Button where
  | rotateLeft
  | rotateRight
  | mirror
  | delete
  | movePrev
  | moveNext
  deriving DecidableEq, Repr

def Button.edit (item : ItemPtr) : Button → Edit
  | .rotateLeft => .rotateLeft item
  | .rotateRight => .rotateRight item
  | .mirror => .mirror item
  | .delete => .removeImage item
  | .movePrev => .moveImage item .left
  | .moveNext => .moveImage item .right

/-- What the system answers while a page is written: the file is opened by its CFile and
by `QImage::save`, of whose bytes so many are taken. -/
structure Served where
  opened : Bool
  saved : Bool
  taken : Nat
  deriving DecidableEq, Repr

inductive Label (Real : Type) where
  | sigDone (statusOk : Bool) (params : ScanReader.ScannerParameters) (file : ScanImage.CFile)
      (path : Path) (served : Served)
  | press (place : Nat) (button : Button)
  | savePdf (haru : Pdf.Haru Real) (dialog : Option Path)
  | restart (base : Nat) (answer : CImageView.Answer) (sorted : List SImageItemSerialized)
      (granted : Path → Bool)

inductive Fault where
  | container (fault : ImageContainer.Fault)
  | undefined
  | outOfMemory
  | lengthError
  | noPage
  | notSorted
  deriving DecidableEq, Repr

/-- The image goes under the path of a new temporary file; what cannot be encoded is not
written. -/
def savePage (disk : Disk Path) (path : Path) (image : Option (List UInt8)) (served : Served) :
    Disk Path :=
  let made := (CFile.make disk path served.opened).1
  match image with
  | none => made
  | some data => CFileRW.write made path data served.saved served.taken

/-- Every restored page opens its file. -/
def reopenFiles (granted : Path → Bool) (disk : Disk Path)
    (records : List SImageItemSerialized) : Disk Path :=
  records.foldl (fun disk record => (CFile.make disk record.path (granted record.path)).1) disk

section Steps
variable {Real : Type} [Zero Real] [Add Real] [Sub Real] [Neg Real] [Mul Real] [Min Real]
  [Max Real] (qt : QTransformOps Word) (toReal : Word → Real)
  (jpeg : ScanImage.QImage → Option (List UInt8))

def press (desk : Desk) (place : Nat) (button : Button) : Except Fault Desk :=
  match desk.view.grid.layout[place]? with
  | none => .error .noPage
  | some item =>
      match desk.view.edit qt (button.edit item) with
      | .ok view => .ok { desk with view }
      | .error fault => .error (.container fault)

/-- A new process on the disk and the session file that the last one left. -/
def restart (desk : Desk) (base : Nat) (answer : CImageView.Answer)
    (sorted : List SImageItemSerialized) (granted : Path → Bool) : Except Fault Desk :=
  let view := CImageView.initial qt desk.view.session
  match view.showEventPrompt base with
  | .done none => .ok { desk with view }
  | .done (some items) =>
      if SortedByPage items sorted then
        .ok {
          view := view.showEventAnswer answer sorted
          disk := match answer with
            | .ok | .close => reopenFiles granted desk.disk sorted
            | .cancel => desk.disk }
      else .error .notSorted
  | .outOfMemory => .error .outOfMemory
  | .lengthError => .error .lengthError
  | .outOfBounds | .running => .error .undefined

def step (desk : Desk) : Label Real → Except Fault Desk
  | .sigDone statusOk params file path served =>
      match ScanImage.slSigDone statusOk params file with
      | none => .ok desk
      | some image => .ok {
          view := desk.view.addImage qt path
          disk := savePage desk.disk path (jpeg image) served }
  | .press place button => press qt desk place button
  | .savePdf haru dialog => .ok { desk with view := desk.view.slSavePdf toReal haru dialog }
  | .restart base answer sorted granted => restart qt desk base answer sorted granted

end Steps

/-- A page as the user has it: a picture, and how it is turned. -/
abbrev Page := List UInt8 × SQtMatrix Word

def pageOf (disk : Disk Path) (item : CImageItem Word) : Page :=
  (disk.read item.path, item.transform)

def pages (disk : Disk Path) (grid : CImageItemContainer Word) : List Page :=
  grid.layout.map fun item => pageOf disk (grid.heap item)

section Abstract
variable {Real : Type} (qt : QTransformOps Word)
  (jpeg : ScanImage.QImage → Option (List UInt8))

def Button.action (place : Nat) : Button → Action Page
  | .rotateLeft => .change place fun page => (page.1, qt.rotate (-90) page.2)
  | .rotateRight => .change place fun page => (page.1, qt.rotate 90 page.2)
  | .mirror => .change place fun page => (page.1, qt.scale (-1) 1 page.2)
  | .delete => .drop place
  | .movePrev => .earlier place
  | .moveNext => .later place

def picture (image : Option (List UInt8)) (served : Served) : List UInt8 :=
  if served.saved then (image.getD []).take served.taken else []

def Label.action : Label Real → Option (Action Page)
  | .sigDone statusOk params file _ served =>
      (ScanImage.slSigDone statusOk params file).map fun image =>
        .add (picture (jpeg image) served, qt.identity)
  | .press place button => some (button.action qt place)
  | .savePdf _ none => none
  | .savePdf _ (some file) => if file = [] then none else some .forget
  | .restart _ answer _ _ => some (.reopen (answer ≠ .cancel))

def Label.onto (document : Document Page) (label : Label Real) : Document Page :=
  match label.action qt jpeg with
  | none => document
  | some action => document.step action

/-- What a run of events makes of the document. -/
def playedOn (document : Document Page) (labels : List (Label Real)) : Document Page :=
  labels.foldl (fun document label => label.onto qt jpeg document) document

end Abstract

/-- The user goes on with the document: it is not saved as a PDF, which removes the
session, and every restore is accepted. -/
def Label.continues {Real : Type} : Label Real → Bool
  | .sigDone _ _ _ _ _ | .press _ _ | .savePdf _ none => true
  | .savePdf _ (some file) => file = []
  | .restart _ answer _ _ => answer ≠ .cancel

def Label.restarts {Real : Type} : Label Real → Bool
  | .restart _ _ _ _ => true
  | .sigDone _ _ _ _ _ | .press _ _ | .savePdf _ _ => false

def AtPlace (desk : Desk) (place : Nat) (holds : ItemPtr → Prop) : Prop :=
  ∀ item, desk.view.grid.layout[place]? = some item → holds item

instance (desk : Desk) (place : Nat) (holds : ItemPtr → Prop) [DecidablePred holds] :
    Decidable (AtPlace desk place holds) :=
  decidable_of_iff (∀ item ∈ desk.view.grid.layout[place]?, holds item) Iff.rfl

/-- The page that a finished scan adds gets a file of its own, which the system opens. -/
def OwnFile (desk : Desk) (statusOk : Bool) (params : ScanReader.ScannerParameters)
    (file : ScanImage.CFile) (path : Path) (served : Served) : Prop :=
  (ScanImage.slSigDone statusOk params file).isSome →
    desk.disk.names path = none ∧ served.opened = true

instance (desk : Desk) (statusOk : Bool) (params : ScanReader.ScannerParameters)
    (file : ScanImage.CFile) (path : Path) (served : Served) :
    Decidable (OwnFile desk statusOk params file path served) :=
  inferInstanceAs (Decidable (_ → _ ∧ _))

/-- A removal renumbers the right items, and a `std::size_t` can count the pages. -/
def Admitted {Real : Type} (desk : Desk) : Label Real → Prop
  | .sigDone statusOk params file path served => OwnFile desk statusOk params file path served
  | .press place .delete => AtPlace desk place (Renumbers desk.view.grid)
  | .press _ .movePrev | .press _ .moveNext => desk.view.grid.layout.length ≤ sizeMax
  | .press _ .rotateLeft | .press _ .rotateRight | .press _ .mirror => True
  | .savePdf _ _ | .restart _ _ _ _ => True

instance {Real : Type} (desk : Desk) : (label : Label Real) → Decidable (Admitted desk label)
  | .sigDone statusOk params file path served =>
      inferInstanceAs (Decidable (OwnFile desk statusOk params file path served))
  | .press place .delete =>
      inferInstanceAs (Decidable (AtPlace desk place (Renumbers desk.view.grid)))
  | .press _ .movePrev | .press _ .moveNext => inferInstanceAs (Decidable (_ ≤ _))
  | .press _ .rotateLeft | .press _ .rotateRight | .press _ .mirror
  | .savePdf _ _ | .restart _ _ _ _ => isTrue trivial

def CannotCome (fault : Fault) : Prop :=
  fault = .noPage ∨ fault = .notSorted ∨ fault = .outOfMemory

instance : DecidablePred CannotCome := fun _ => inferInstanceAs (Decidable (_ ∨ _ ∨ _))

def Named (disk : Disk Path) (grid : CImageItemContainer Word) : Prop :=
  ∀ page ∈ grid.displayed, disk.names page.1 ≠ none

/-- What the session file brings back: nothing, or pages that were numbered along the layout
when they were saved. -/
inductive Keeps (disk : Disk Path) : SessionFile → Option (List Page) → Prop where
  | nothing : Keeps disk none none
  | saved (grid : CImageItemContainer Word) (consistent : Consistent grid)
      (named : Named disk grid) :
      Keeps disk (SessionService.saveSession (serializeItems grid)) (some (pages disk grid))

structure Refines (desk : Desk) (document : Document Page) : Prop where
  consistent : Consistent desk.view.grid
  named : Named desk.disk desk.view.grid
  shown : pages desk.disk desk.view.grid = document.shown
  kept : Keeps desk.disk desk.view.session document.kept
  keeping : desk.view.sessionSavingDisabled = !document.keeping

end Model

section Disks
variable (disk : Disk Path)

def Grows (before after : Disk Path) : Prop :=
  ∀ path, before.names path ≠ none →
    after.names path ≠ none ∧ after.read path = before.read path

theorem grows_trans {first second third : Disk Path} (one : Grows first second)
    (two : Grows second third) : Grows first third := by
  intro path there
  obtain ⟨still, same⟩ := one path there
  obtain ⟨last, equal⟩ := two path still
  exact ⟨last, equal.trans same⟩

theorem openOutput_grows (path : Path) (granted : Bool) :
    Grows disk (disk.openOutput path granted).1 := by
  intro other there
  refine ⟨?_, read_openOutput disk path granted other⟩
  unfold Disk.openOutput
  split
  · cases named : disk.names path with
    | none =>
        have different : other ≠ path := fun same => there (same ▸ named)
        simpa [Disk.create, different] using there
    | some entry => cases entry <;> exact there
  · exact there

theorem reopenFiles_grows (granted : Path → Bool) (records : List SImageItemSerialized) :
    Grows disk (reopenFiles granted disk records) := by
  induction records generalizing disk with
  | nil => exact fun _ there => ⟨there, rfl⟩
  | cons record rest ih =>
      exact grows_trans (openOutput_grows disk record.path (granted record.path)) (ih _)

theorem names_write (path : Path) (data : List UInt8) (granted : Bool) (taken : Nat) :
    (CFileRW.write disk path data granted taken).names =
      (disk.openOutput path granted).1.names := by
  unfold CFileRW.write
  cases opened : disk.openOutput path granted with
  | mk after ofstream => cases ofstream <;> rfl

theorem savePage_effect {path : Path} (image : Option (List UInt8)) (served : Served)
    (unused : disk.names path = none) (opened : served.opened = true) :
    Grows disk (savePage disk path image served) ∧
      (savePage disk path image served).names path ≠ none ∧
      (savePage disk path image served).read path = picture image served := by
  have made : (CFile.make disk path served.opened).1 = disk.create path := by
    simp [CFile.make, Disk.openOutput, opened, unused]
  have new : (disk.create path).names path = some (.regular disk.next) := by
    simp [Disk.create]
  have blank : (disk.create path).read path = [] := by
    simp [Disk.read, Disk.create]
  have grown : Grows disk (disk.create path) := by
    rw [← made]
    exact openOutput_grows disk path _
  cases image with
  | none =>
      simp only [savePage, made]
      exact ⟨grown, by simp [new], by simp [blank, picture]⟩
  | some data =>
      simp only [savePage, made]
      have opens : (disk.create path).Opens path served.saved ↔ served.saved = true := by
        simp [Disk.Opens, new]
      have names : ∀ other, (disk.create path).names other ≠ none →
          (CFileRW.write (disk.create path) path data served.saved served.taken).names other ≠
            none := by
        intro other there
        rw [names_write]
        exact (openOutput_grows _ path _ other there).1
      refine ⟨fun other there => ?_, names path (by simp [new]), ?_⟩
      · have different : other ≠ path := fun same => there (same ▸ unused)
        refine ⟨names other (grown other there).1, ?_⟩
        rw [read_saved]
        simpa [different] using (grown other there).2
      · rw [read_saved]
        simp [opens, picture, blank]

end Disks

section Pages
variable {before after : Disk Path} {grid : CImageItemContainer Word}

theorem pages_displayed (disk : Disk Path) (grid : CImageItemContainer Word) :
    pages disk grid = grid.displayed.map fun page => (disk.read page.1, page.2) := by
  simp [pages, pageOf, CImageItemContainer.displayed]

theorem named_iff (disk : Disk Path) (grid : CImageItemContainer Word) :
    Named disk grid ↔ ∀ item ∈ grid.layout, disk.names (grid.heap item).path ≠ none := by
  simp [Named, CImageItemContainer.displayed]

theorem named_grows (grows : Grows before after) (named : Named before grid) :
    Named after grid :=
  fun page shown => (grows page.1 (named page shown)).1

theorem pages_grows (grows : Grows before after) (named : Named before grid) :
    pages after grid = pages before grid := by
  rw [pages_displayed, pages_displayed]
  apply List.map_congr_left
  intro page shown
  rw [(grows page.1 (named page shown)).2]

theorem keeps_grows {session : SessionFile} {kept : Option (List Page)}
    (grows : Grows before after) (keeps : Keeps before session kept) :
    Keeps after session kept := by
  cases keeps with
  | nothing => exact .nothing
  | saved grid consistent named =>
      rw [← pages_grows grows named]
      exact .saved grid consistent (named_grows grows named)

end Pages

section Buttons
variable {qt : QTransformOps Word} {grid : CImageItemContainer Word} {place : Nat}
  {item : ItemPtr}

def Does (qt : QTransformOps Word) (disk : Disk Path) (grid : CImageItemContainer Word)
    (place : Nat) (item : ItemPtr) (button : Button) : Prop :=
  ∃ next, grid.edit qt (button.edit item) = .ok next ∧ Consistent next ∧
    (∀ entry ∈ next.layout, entry ∈ grid.layout) ∧
    (∀ entry, (next.heap entry).path = (grid.heap entry).path) ∧
    ∀ document : Document Page, document.shown = pages disk grid →
      document.step (button.action qt place) = document.present (pages disk next)

theorem pages_content (disk : Disk Path) (next : CImageItemContainer Word)
    (same : ∀ entry, (next.heap entry).path = (grid.heap entry).path ∧
      (next.heap entry).transform = (grid.heap entry).transform) :
    pages disk next = next.layout.map fun entry => pageOf disk (grid.heap entry) := by
  apply List.map_congr_left
  intro entry _
  rw [pageOf, (same entry).1, (same entry).2]
  rfl

theorem pages_press (disk : Disk Path) (op : SQtMatrix Word → SQtMatrix Word)
    (nodup : grid.layout.Nodup) (found : grid.layout[place]? = some item) :
    pages disk (grid.press item op) =
      (pages disk grid).modify place fun page => (page.1, op page.2) := by
  obtain ⟨before, after, split, rfl⟩ := split_at found
  obtain ⟨front, back⟩ := Numbering.notMem_split before after item (split ▸ nodup)
  let pressed (entry : ItemPtr) := pageOf disk ((grid.press item op).heap entry)
  let held (entry : ItemPtr) := pageOf disk (grid.heap entry)
  have kept : ∀ entry, entry ≠ item → pressed entry = held entry := by
    intro entry other
    simp [pressed, held, pageOf, CImageItemContainer.press, setTransform, other]
  have turned : pressed item = ((held item).1, op (held item).2) := by
    simp [pressed, held, pageOf, CImageItemContainer.press, setTransform]
  have unchanged : ∀ entries : List ItemPtr, item ∉ entries →
      entries.map pressed = entries.map held := by
    intro entries absent
    apply List.map_congr_left
    exact fun entry member => kept entry fun same => absent (same ▸ member)
  have now : pages disk (grid.press item op) =
      before.map held ++ ((held item).1, op (held item).2) :: after.map held := by
    change grid.layout.map pressed = _
    rw [split, List.map_append, List.map_cons, unchanged before front, unchanged after back,
      turned]
  have was : pages disk grid = before.map held ++ held item :: after.map held := by
    change grid.layout.map held = _
    rw [split, List.map_append, List.map_cons]
  have count : before.length = (before.map held).length := by simp
  rw [now, was, count, modify_split]

theorem press_does (disk : Disk Path) (consistent : Consistent grid)
    (found : grid.layout[place]? = some item) (button : Button)
    (op : SQtMatrix Word → SQtMatrix Word)
    (edits : grid.edit qt (button.edit item) = .ok (grid.press item op))
    (acts : button.action qt place = .change place fun page => (page.1, op page.2)) :
    Does qt disk grid place item button := by
  refine ⟨_, edits, press_consistent grid item op consistent, fun _ shown => shown,
    fun entry => by simp [CImageItemContainer.press], fun document same => ?_⟩
  rw [acts, pages_press disk op consistent.nodup found, ← same]
  rfl

theorem delete_does (disk : Disk Path) (consistent : Consistent grid)
    (found : grid.layout[place]? = some item) (renumbers : Renumbers grid item) :
    Does qt disk grid place item .delete := by
  obtain ⟨before, after, split, rfl⟩ := split_at found
  obtain ⟨next, removed, kept⟩ := removeImage_consistent grid item consistent
    (List.mem_of_getElem? found) renumbers
  rw [removeImage_eq grid before after item consistent split] at removed
  cases removed
  refine ⟨_, removeImage_eq grid before after item consistent split, kept, ?_,
    fun entry => (renumber_content _ _ entry).1, fun document same => ?_⟩
  · intro entry member
    rw [split]
    rcases List.mem_append.mp member with front | back
    · exact List.mem_append_left _ front
    · exact List.mem_append_right _ (List.mem_cons_of_mem _ back)
  · rw [pages_content disk _ fun entry => renumber_content _ _ entry]
    have was : document.shown = (before.map fun entry => pageOf disk (grid.heap entry)) ++
        pageOf disk (grid.heap item) ::
          after.map fun entry => pageOf disk (grid.heap entry) := by
      rw [same, pages, split, List.map_append, List.map_cons]
    have count : before.length =
        (before.map fun entry => pageOf disk (grid.heap entry)).length := by simp
    rw [Button.action, Document.step, was, count, eraseIdx_split, List.map_append]

theorem swapped_does (disk : Disk Path) (consistent : Consistent grid) (button : Button)
    (before after : List ItemPtr) (left right : ItemPtr)
    (split : grid.layout = before ++ left :: right :: after)
    (edits : grid.edit qt (button.edit item) = .ok (swapped grid before after left right))
    (acts : ∀ document : Document Page, document.step (button.action qt place) =
      document.present (exchange document.shown before.length)) :
    Does qt disk grid place item button := by
  refine ⟨_, edits, swapped_consistent grid before after left right consistent split, ?_,
    fun entry => by simp [swapped], fun document same => ?_⟩
  · intro entry member
    rw [split]
    exact ((List.Perm.swap left right after).append_left before).subset member
  · have content : ∀ entry, ((swapped grid before after left right).heap entry).path =
        (grid.heap entry).path ∧ ((swapped grid before after left right).heap entry).transform =
          (grid.heap entry).transform := fun entry => by simp [swapped]
    rw [pages_content disk _ content]
    have was : document.shown = (before.map fun entry => pageOf disk (grid.heap entry)) ++
        pageOf disk (grid.heap left) :: pageOf disk (grid.heap right) ::
          after.map fun entry => pageOf disk (grid.heap entry) := by
      rw [same, pages, split, List.map_append, List.map_cons, List.map_cons]
    have count : before.length =
        (before.map fun entry => pageOf disk (grid.heap entry)).length := by simp
    rw [acts, was, count, exchange_split]
    simp [swapped]

theorem idle_does (disk : Disk Path) (consistent : Consistent grid) (button : Button)
    (edits : grid.edit qt (button.edit item) = .ok grid)
    (acts : ∀ document : Document Page, document.shown = pages disk grid →
      document.step (button.action qt place) = document.present document.shown) :
    Does qt disk grid place item button := by
  refine ⟨grid, edits, consistent, fun _ shown => shown, fun _ => rfl, fun document same => ?_⟩
  rw [acts document same, same]

theorem movePrev_does (disk : Disk Path) (consistent : Consistent grid)
    (found : grid.layout[place]? = some item) : Does qt disk grid place item .movePrev := by
  obtain ⟨before, after, split, rfl⟩ := split_at found
  rcases List.eq_nil_or_concat before with none | ⟨front, left, last⟩
  · subst none
    have idle : Idle grid item .left := by
      have number := consistent.number split
      simp [Idle, number, CImageItemContainer.swapWithPage, sizePred]
    exact idle_does disk consistent .movePrev (moveImage_idle grid item .left idle)
      fun _ _ => rfl
  · subst last
    have regrouped : grid.layout = front ++ left :: item :: after := by simpa using split
    apply swapped_does disk consistent .movePrev front after left item regrouped
    · exact moveImage_left grid front after left item consistent.numbered regrouped
    · simp [Button.action, Document.step]

theorem moveNext_does (disk : Disk Path) (consistent : Consistent grid)
    (found : grid.layout[place]? = some item) (sizes : grid.layout.length ≤ sizeMax) :
    Does qt disk grid place item .moveNext := by
  obtain ⟨before, after, split, rfl⟩ := split_at found
  cases after with
  | nil =>
      have idle : Idle grid item .right := by
        have number := consistent.number split
        by_cases wraps : before.length + 1 = sizeMax
        · simp [Idle, number, CImageItemContainer.swapWithPage, sizeSucc, wraps]
        · simp [Idle, number, CImageItemContainer.swapWithPage, sizeSucc, wraps, split]
      apply idle_does disk consistent .moveNext (moveImage_idle grid item .right idle)
      intro document same
      have last : document.shown.length ≤ before.length + 1 := by simp [same, pages, split]
      rw [Button.action, Document.step, exchange_end document.shown _ last]
  | cons right rest =>
      apply swapped_does disk consistent .moveNext before rest item right split
      · apply moveImage_right grid before rest item right consistent.numbered split
        simp only [split, List.length_append, List.length_cons] at sizes
        omega
      · exact fun _ => rfl

end Buttons

section Saving
variable {qt : QTransformOps Word} {desk : Desk} {document : Document Page}

theorem saved_refines (changed : CImageView) (after : Disk Path) (refines : Refines desk document)
    (grows : Grows desk.disk after) (consistent : Consistent changed.grid)
    (named : Named after changed.grid) (session : changed.session = desk.view.session)
    (flag : changed.sessionSavingDisabled = desk.view.sessionSavingDisabled) :
    Refines ⟨changed.saveSession, after⟩ (document.present (pages after changed.grid)) := by
  have grid := SessionTracking.saveSession_grid changed
  have same := SessionTracking.saveSession_disabled changed
  have keeping := refines.keeping
  constructor
  · rwa [grid]
  · rwa [grid]
  · rw [grid]
    rfl
  · cases on : document.keeping with
    | false =>
        have off : changed.sessionSavingDisabled = true := by rw [flag, keeping, on]; rfl
        simp only [SessionTracking.saveSession_off changed off, Document.present, on, session]
        exact keeps_grows grows refines.kept
    | true =>
        have saved : changed.saveSession.session =
            SessionService.saveSession (serializeItems changed.grid) := by
          simp [CImageView.saveSession, flag, keeping, on]
        simp only [saved, Document.present, on, ↓reduceIte]
        exact .saved changed.grid consistent named
  · rw [same, flag, keeping]
    rfl

theorem edit_succeeds (view : CImageView) (e : Edit) {next : CImageItemContainer Word}
    (edited : view.grid.edit qt e = .ok next) : ∃ last, view.edit qt e = .ok last := by
  cases e with
  | addImage | rotateLeft | rotateRight | mirror => exact ⟨_, rfl⟩
  | moveImage item direction =>
      rw [CImageItemContainer.edit] at edited
      exact ⟨_, by rw [CImageView.edit, CImageView.slMoveImage, edited]⟩
  | removeImage item =>
      rw [CImageItemContainer.edit] at edited
      exact ⟨_, by rw [CImageView.edit, CImageView.slRemoveImage, edited]⟩

theorem press_refines (place : Nat) (button : Button) (refines : Refines desk document)
    (does : ∀ item, desk.view.grid.layout[place]? = some item →
      Does qt desk.disk desk.view.grid place item button) :
    Runs.Ends (fun next => Refines next (document.step (button.action qt place))) CannotCome
      (press qt desk place button) := by
  unfold press
  cases found : desk.view.grid.layout[place]? with
  | none => exact .inl rfl
  | some item =>
      obtain ⟨next, edited, consistent, within, paths, acts⟩ := does item found
      dsimp only
      cases viewed : desk.view.edit qt (button.edit item) with
      | error fault =>
          obtain ⟨view, succeeds⟩ := edit_succeeds desk.view (button.edit item) edited
          rw [viewed] at succeeds
          cases succeeds
      | ok view =>
          obtain ⟨changed, rfl, session, flag, grid⟩ :=
            SessionTracking.edit_saves qt desk.view view _ viewed
          have same : changed.grid = next := Except.ok.inj (grid.symm.trans edited)
          have named : Named desk.disk changed.grid := by
            have all := (named_iff desk.disk desk.view.grid).mp refines.named
            rw [same, named_iff]
            intro entry shown
            rw [paths entry]
            exact all entry (within entry shown)
          have kept := saved_refines changed desk.disk refines (fun _ there => ⟨there, rfl⟩)
            (same ▸ consistent) named session flag
          rw [same, ← acts document refines.shown.symm] at kept
          exact kept

theorem addImage_displayed (qt : QTransformOps Word) (grid : CImageItemContainer Word)
    (path : Path) (allocated : Allocated grid) :
    (grid.addImage qt path).displayed = grid.displayed ++ [(path, qt.identity)] := by
  simp only [CImageItemContainer.addImage, CImageItemContainer.displayed, addItem_layout,
    List.map_append, List.map_cons, List.map_nil, addItem_heap_new, List.append_cancel_right_eq]
  apply List.map_congr_left
  intro entry member
  rw [addItem_heap_old grid _ entry (allocated entry member)]

theorem sigDone_refines (path : Path) (image : Option (List UInt8)) (served : Served)
    (refines : Refines desk document) (unused : desk.disk.names path = none)
    (opened : served.opened = true) :
    Refines ⟨desk.view.addImage qt path, savePage desk.disk path image served⟩
      (document.step (.add (picture image served, qt.identity))) := by
  obtain ⟨grows, there, reads⟩ := savePage_effect desk.disk image served unused opened
  have shown := addImage_displayed qt desk.view.grid path refines.consistent.allocated
  have named : Named (savePage desk.disk path image served) (desk.view.grid.addImage qt path) := by
    intro page member
    rw [shown, List.mem_append, List.mem_singleton] at member
    rcases member with old | rfl
    · exact (grows page.1 (refines.named page old)).1
    · exact there
  have content : pages (savePage desk.disk path image served)
      (desk.view.grid.addImage qt path) =
        document.shown ++ [(picture image served, qt.identity)] := by
    rw [pages_displayed, shown, List.map_append, ← pages_displayed,
      pages_grows grows refines.named, refines.shown, List.map_singleton, reads]
  have changed := saved_refines
    ({ desk.view with grid := desk.view.grid.addImage qt path }.emit
      (.documentChanged (desk.view.grid.addImage qt path).manager.items.length))
    (savePage desk.disk path image served) refines grows
    (addImage_consistent qt desk.view.grid path refines.consistent) named rfl rfl
  rw [Document.step, ← content]
  exact changed

end Saving

section Restored
variable {qt : QTransformOps Word} {grid : CImageItemContainer Word}

/-- The numbers along the layout leave the sort no choice. -/
theorem sorted_records (consistent : Consistent grid) (few : grid.layout.length < 2 ^ 64)
    {sorted : List SImageItemSerialized} (order : SortedByPage (serializedItems grid) sorted) :
    sorted = displayedRecords grid := by
  have records : (serializedItems grid).Perm (displayedRecords grid) :=
    (consistent.sameItems.symm).map _
  apply Numbering.sorted_unique (fun record : SImageItemSerialized => record.pageNumber.toNat)
  · exact displayedRecords_increasing grid consistent few
  · exact order.2.imp UInt64.le_iff_toNat_le.mp
  · exact order.1.trans records

theorem displayedRecords_numbers (consistent : Consistent grid)
    (few : grid.layout.length < 2 ^ 64) :
    recordNumbers (displayedRecords grid) = List.range' 1 grid.layout.length := by
  rw [← consistent.numbered, recordNumbers, displayedRecords, List.map_map]
  apply List.map_congr_left
  intro item member
  have bound := (Numbering.numberedFrom_bounds 1 _ _ consistent.numbered item member).2
  simp only [CImageItemContainer.pageNumber] at bound
  simp only [Function.comp, SImageItemSerialized.ofItem, UInt64.toNat_ofNat',
    CImageItemContainer.pageNumber]
  exact Nat.mod_eq_of_lt (by omega)

theorem addRecords_sameOrder (records : List SImageItemSerialized)
    (grid : CImageItemContainer Word) (same : grid.manager.items = grid.layout) :
    (records.foldl addRecord grid).manager.items = (records.foldl addRecord grid).layout := by
  induction records generalizing grid with
  | nil => exact same
  | cons record rest ih => exact ih _ (congrArg (· ++ [grid.unused]) same)

/-- Whatever the numbers, a restored document has `m_items` as the layout. -/
theorem restored_sameOrder (qt : QTransformOps Word) (sorted : List SImageItemSerialized) :
    RestorePrompts.Stocked (restored qt sorted) ∧
      (restored qt sorted).manager.items = (restored qt sorted).layout := by
  have start : RestorePrompts.Stocked (CImageView.initial qt none).grid :=
    RestorePrompts.empty_stocked qt
  have stocked := (RestorePrompts.addRecords_files sorted start).1
  rw [foldl_addSerialized_grid] at stocked
  exact ⟨stocked, addRecords_sameOrder sorted _ rfl⟩

theorem restored_aligned (qt : QTransformOps Word) (sorted : List SImageItemSerialized)
    (numbers : recordNumbers sorted = List.range' 1 sorted.length) :
    ExportOrder.Aligned (restored qt sorted) := by
  obtain ⟨stocked, same⟩ := restored_sameOrder qt sorted
  have count : layoutNumbers (restored qt sorted) = recordNumbers sorted :=
    addRecords_numbers sorted (.empty qt) (empty_consistent qt).allocated
  have length : (recordNumbers sorted).length = sorted.length := by simp [recordNumbers]
  refine ⟨⟨?_, stocked.sameItems, stocked.allocated⟩, same⟩
  rw [numbered_iff, count, length, numbers]

theorem foldl_addSerialized_session (records : List SImageItemSerialized) (view : CImageView)
    (off : view.sessionSavingDisabled = true) :
    (records.foldl CImageView.addSerialized view).session = view.session := by
  induction records generalizing view with
  | nil => rfl
  | cons record rest ih =>
      have saved : view.addSerialized record =
          { view with grid := addRecord view.grid record }.emit
            (.documentChanged (addRecord view.grid record).manager.items.length) := by
        rw [CImageView.addSerialized, CImageView.initImageConnections]
        exact SessionTracking.saveSession_off _ off
      rw [List.foldl_cons, saved]
      exact ih _ off

theorem answer_session (session : SessionFile) (answer : CImageView.Answer)
    (sorted : List SImageItemSerialized) :
    ((CImageView.initial qt session).showEventAnswer answer sorted).session = session := by
  cases answer with
  | ok | close => exact foldl_addSerialized_session sorted (CImageView.initial qt session) rfl
  | cancel => rfl

end Restored

section Starts
variable {qt : QTransformOps Word} {desk : Desk} {document : Document Page}

/-- A start that brings back what was saved. -/
theorem accepted_refines (grid : CImageItemContainer Word) (disk after : Disk Path)
    (consistent : Consistent grid) (named : Named disk grid)
    (few : grid.layout.length < 2 ^ 64) (answer : CImageView.Answer)
    (accepted : answer ≠ .cancel) (grows : Grows disk after) :
    Refines ⟨(CImageView.initial qt (SessionService.saveSession
        (serializeItems grid))).showEventAnswer answer (displayedRecords grid), after⟩
      ⟨pages disk grid, some (pages disk grid), true⟩ ∧
    ExportOrder.Aligned ((CImageView.initial qt (SessionService.saveSession
      (serializeItems grid))).showEventAnswer answer (displayedRecords grid)).grid := by
  have grid' := answer_grid (CImageView.initial qt (SessionService.saveSession
    (serializeItems grid))) answer (displayedRecords grid)
  have brought : ((CImageView.initial qt (SessionService.saveSession
      (serializeItems grid))).showEventAnswer answer (displayedRecords grid)).grid =
        restored qt (displayedRecords grid) := by
    cases answer with
    | ok | close => exact grid'
    | cancel => exact absurd rfl accepted
  have displayed : (restored qt (displayedRecords grid)).displayed = grid.displayed := by
    rw [restored_displayed, displayedRecords_content]
  have count : (displayedRecords grid).length = grid.layout.length := by simp [displayedRecords]
  have aligned := restored_aligned qt (displayedRecords grid) (by
    rw [displayedRecords_numbers consistent few, count])
  have there : Named disk (restored qt (displayedRecords grid)) := by
    rwa [Named, displayed]
  rw [← brought] at aligned
  refine ⟨?_, aligned⟩
  constructor
  · exact aligned.consistent
  · rw [brought]
    exact named_grows grows there
  · rw [brought, pages_grows grows there, pages_displayed, displayed, ← pages_displayed]
  · rw [answer_session]
    exact keeps_grows grows (.saved grid consistent named)
  · rfl

theorem empty_refines {disk : Disk Path} {session : SessionFile} {kept : Option (List Page)}
    (keeps : Keeps disk session kept) (view : CImageView) (grid : view.grid = .empty qt)
    (same : view.session = session) (keeping : Bool)
    (flag : view.sessionSavingDisabled = !keeping) :
    Refines ⟨view, disk⟩ ⟨[], kept, keeping⟩ ∧ ExportOrder.Aligned view.grid := by
  have aligned : ExportOrder.Aligned view.grid := by
    rw [grid]
    exact ExportOrder.empty_aligned qt
  refine ⟨?_, aligned⟩
  constructor
  · exact aligned.consistent
  · rw [grid]
    simp [Named, CImageItemContainer.empty, CImageItemContainer.displayed]
  · rw [grid]
    rfl
  · rwa [same]
  · exact flag

theorem saved_prompt (qt : QTransformOps Word) (base : Nat) (grid : CImageItemContainer Word) :
    ((Consistent grid → grid.layout.length < 2 ^ 64) ∧
        (CImageView.initial qt (SessionService.saveSession
          (serializeItems grid))).showEventPrompt base = .done (some (serializedItems grid))) ∨
      (CImageView.initial qt (SessionService.saveSession
        (serializeItems grid))).showEventPrompt base = .outOfMemory := by
  by_cases fits : base + (serializeItems grid).length < 2 ^ 63
  · left
    refine ⟨fun consistent => ?_, (SessionTracking.prompt_iff _ _ _).mpr
      (SessionCrash.readSession_records base _ (serializedItems grid) fits)⟩
    have bound := items_le_bytes (serializedItems grid)
    have same := consistent.sameItems.length_eq
    have length : (serializedItems grid).length = grid.manager.items.length := by
      simp [serializedItems]
    simp only [ImageView.serializeItems] at fits
    omega
  · right
    have file : SessionService.saveSession (serializeItems grid) =
        some (sessionHeader (serializeItems grid) ++ serializeItems grid) := rfl
    have read : readSession base (SessionService.saveSession (serializeItems grid)) =
        .outOfMemory := by
      rw [file, readSession, loadSession_header]
      simp only [fits, ↓reduceDIte]
    rw [CImageView.showEventPrompt]
    simp only [CImageView.initial, read]

theorem restart_refines (base : Nat) (answer : CImageView.Answer)
    (sorted : List SImageItemSerialized) (granted : Path → Bool)
    (refines : Refines desk document) :
    Runs.Ends (fun next => Refines next (document.step (.reopen (answer ≠ .cancel))) ∧
        ExportOrder.Aligned next.view.grid) CannotCome
      (restart qt desk base answer sorted granted) := by
  have keeps := refines.kept
  unfold restart Document.step
  dsimp only
  generalize desk.view.session = session at keeps
  generalize document.kept = kept at keeps
  cases keeps with
  | nothing =>
      -- No session file: the handler returns before it turns the saving on.
      have prompt : (CImageView.initial qt none).showEventPrompt base = .done none := rfl
      simp only [prompt]
      exact empty_refines .nothing (CImageView.initial qt none) rfl rfl false rfl
  | saved grid consistent named =>
      have offers := saved_prompt qt base grid
      generalize (CImageView.initial qt (SessionService.saveSession
        (serializeItems grid))).showEventPrompt base = prompt at offers ⊢
      rcases offers with ⟨few, rfl⟩ | rfl
      · have few := few consistent
        dsimp only
        by_cases order : SortedByPage (serializedItems grid) sorted
        · rw [if_pos order, sorted_records consistent few order]
          cases answer with
          | ok | close =>
              apply accepted_refines grid desk.disk _ consistent named few
              · simp
              · exact reopenFiles_grows desk.disk granted _
          | cancel =>
              exact empty_refines (.saved grid consistent named) _ rfl rfl true rfl
        · rw [if_neg order]
          exact .inr (.inl rfl)
      · exact .inr (.inr rfl)

end Starts

section Actions
variable {Real : Type} {qt : QTransformOps Word} {jpeg : ScanImage.QImage → Option (List UInt8)}

theorem foldl_onto (labels : List (Label Real)) (document : Document Page) :
    playedOn qt jpeg document labels =
      (labels.filterMap (Label.action qt jpeg)).foldl Document.step document := by
  induction labels generalizing document with
  | nil => rfl
  | cons label rest ih =>
      have tail := ih (label.onto qt jpeg document)
      simp only [playedOn, List.foldl_cons] at tail ⊢
      rw [tail]
      cases acts : label.action qt jpeg <;> simp [Label.onto, acts]

theorem action_facts (label : Label Real) (action : Action Page)
    (acts : label.action qt jpeg = some action) :
    action.reopens = label.restarts ∧ (label.continues = true → action.continues = true) := by
  cases label with
  | sigDone statusOk params file path served =>
      obtain ⟨image, -, rfl⟩ := Option.map_eq_some_iff.mp acts
      exact ⟨rfl, fun _ => rfl⟩
  | press place button =>
      cases acts
      cases button <;> exact ⟨rfl, fun _ => rfl⟩
  | savePdf haru dialog =>
      cases dialog with
      | none => cases acts
      | some file =>
          by_cases unnamed : file = []
          · simp [Label.action, unnamed] at acts
          · simp only [Label.action, unnamed, ↓reduceIte, Option.some.injEq] at acts
            subst acts
            exact ⟨rfl, by simp [Label.continues, unnamed]⟩
  | restart base answer sorted granted =>
      cases acts
      cases answer with
      | ok | close => exact ⟨rfl, fun _ => rfl⟩
      | cancel => exact ⟨rfl, by simp [Label.continues]⟩

theorem filterMap_action (labels : List (Label Real)) :
    (labels.filterMap (Label.action qt jpeg)).filter (fun action => !action.reopens) =
      (labels.filter fun label => !label.restarts).filterMap (Label.action qt jpeg) := by
  induction labels with
  | nil => rfl
  | cons label rest ih =>
      cases acts : label.action qt jpeg with
      | none =>
          have stays : label.restarts = false := by
            cases label with
            | restart => cases acts
            | sigDone | press | savePdf => rfl
          simp [acts, stays, ih]
      | some action =>
          have same := (action_facts label action acts).1
          cases restarts : label.restarts <;> simp [acts, same, restarts, ih]

theorem admitted_does {desk : Desk} {place : Nat} {button : Button} {item : ItemPtr}
    (consistent : Consistent desk.view.grid)
    (admitted : Admitted desk (.press place button : Label Real))
    (found : desk.view.grid.layout[place]? = some item) :
    Does qt desk.disk desk.view.grid place item button := by
  cases button with
  | rotateLeft | rotateRight | mirror => exact press_does _ consistent found _ _ rfl rfl
  | delete => exact delete_does _ consistent found (admitted item found)
  | movePrev => exact movePrev_does _ consistent found
  | moveNext => exact moveNext_does _ consistent found admitted

end Actions

section OnePage

def onePage : CImageItemContainer Word :=
  (CImageItemContainer.empty doubleTransforms).addImage doubleTransforms [97]

def oneFile : Disk Path :=
  let blank : Disk Path :=
    { names := fun _ => none, contents := fun _ => [], next := 0
      known := by simp, apart := by simp }
  CFileRW.write blank [97] [1, 2, 3] true 3

theorem onePage_keeps : Keeps oneFile (SessionService.saveSession (serializeItems onePage))
    (some (pages oneFile onePage)) := by
  apply Keeps.saved
  · exact addImage_consistent doubleTransforms _ _ (empty_consistent doubleTransforms)
  · simp [Named, onePage, oneFile, CImageItemContainer.addImage, CImageItemContainer.displayed,
      CImageItemContainer.addItem, CImageItemContainer.empty, addWidget, names_write,
      Disk.openOutput, Disk.create]

def scan (path : Path) : Label Int :=
  .sigDone true { pixelsPerLine := 1, lines := 1, bytesPerLine := 3 } ⟨[4, 5, 6], 3⟩ path
    ⟨true, true, 3⟩

def start (pages : List Path) : Label Int :=
  .restart 4096 .ok (pages.mapIdx fun index path =>
    ⟨doubleTransforms.identity, UInt64.ofNat (index + 1), path⟩) fun _ => true

end OnePage

section Runs
variable {Real : Type} [Zero Real] [Add Real] [Sub Real] [Neg Real] [Mul Real] [Min Real]
  [Max Real] {qt : QTransformOps Word} {toReal : Word → Real}
  {jpeg : ScanImage.QImage → Option (List UInt8)}

theorem savePdf_refines {desk : Desk} {document : Document Page} (haru : Pdf.Haru Real)
    (file : Path) (refines : Refines desk document) :
    Refines { desk with view := desk.view.slSavePdf toReal haru (some file) }
      (if file = [] then document else document.step .forget) := by
  unfold CImageView.slSavePdf
  by_cases unnamed : file = []
  · simpa only [unnamed, ↓reduceIte] using refines
  · simp only [unnamed, ↓reduceIte]
    exact ⟨refines.consistent, refines.named, refines.shown, .nothing, refines.keeping⟩

theorem step_refines (desk : Desk) (document : Document Page) (label : Label Real)
    (refines : Refines desk document) (admitted : Admitted desk label) :
    Runs.Ends (fun next => Refines next (label.onto qt jpeg document)) CannotCome
      (step qt toReal jpeg desk label) := by
  cases label with
  | sigDone statusOk params file path served =>
      simp only [step, Label.onto, Label.action, Admitted, OwnFile] at admitted ⊢
      cases built : ScanImage.slSigDone statusOk params file with
      | none => exact refines
      | some image =>
          obtain ⟨unused, opened⟩ := admitted (by simp [built])
          exact sigDone_refines path (jpeg image) served refines unused opened
  | press place button =>
      exact press_refines place button refines fun item found =>
        admitted_does refines.consistent admitted found
  | savePdf haru dialog =>
      cases dialog with
      | none => exact refines
      | some file =>
          have saved : Refines { desk with view := desk.view.slSavePdf toReal haru (some file) }
              (if file = [] then document else document.step .forget) :=
            savePdf_refines haru file refines
          have onto : (Label.savePdf haru (some file)).onto qt jpeg document =
              if file = [] then document else document.step .forget := by
            by_cases unnamed : file = [] <;> simp [Label.onto, Label.action, unnamed]
          rw [onto]
          exact saved
  | restart base answer sorted granted =>
      exact (restart_refines base answer sorted granted refines).imp fun _ both => both.1

def powered (qt : QTransformOps Word) (session : SessionFile) (disk : Disk Path) : Desk :=
  ⟨CImageView.initial qt session, disk⟩

theorem powered_refines {session : SessionFile} {disk : Disk Path} {kept : Option (List Page)}
    (keeps : Keeps disk session kept) :
    Refines (powered qt session disk) { kept := kept } :=
  (empty_refines keeps (CImageView.initial qt session) rfl rfl false rfl).1

theorem run_plays {session : SessionFile} {disk : Disk Path} {kept : Option (List Page)}
    (keeps : Keeps disk session kept) (labels : List (Label Real))
    (along : Runs.Along (step qt toReal jpeg) Admitted (powered qt session disk) labels) :
    Runs.Ends (fun last => Refines last (playedOn qt jpeg { kept := kept } labels)) CannotCome
      (Runs.run (step qt toReal jpeg) (powered qt session disk) labels) :=
  Runs.run_refines (fun document (label : Label Real) => label.onto qt jpeg document) Refines
    CannotCome step_refines (powered qt session disk) { kept := kept } labels
    (powered_refines keeps) along

/-- From a start on what the program kept, whatever is scanned, pressed, exported and
restarted: in every state reached, the pages shown and those that the session file brings
back are the document's. -/
theorem pages_refine_document {session : SessionFile} {disk : Disk Path}
    {kept : Option (List Page)} (keeps : Keeps disk session kept) (labels : List (Label Real))
    (along : Runs.Along (step qt toReal jpeg) Admitted (powered qt session disk) labels) :
    ∀ front, front <+: labels →
      Runs.Ends (fun last => Refines last (playedOn qt jpeg { kept := kept } front)) CannotCome
        (Runs.run (step qt toReal jpeg) (powered qt session disk) front) := by
  intro front within
  exact run_plays keeps front (Runs.along_prefix within along)

theorem pages_refine_document_of_one :
    Keeps oneFile (SessionService.saveSession (serializeItems onePage))
        (some (pages oneFile onePage)) ∧
      ∀ front, front <+: [start [[97]], scan [98], .press 1 .movePrev, start [[98], [97]],
          .press 0 .delete] →
        Runs.Ends (fun last => Refines last (playedOn doubleTransforms
            (fun image => some image.data) { kept := some (pages oneFile onePage) } front))
          CannotCome (Runs.run (step doubleTransforms (fun _ => (0 : Int))
            (fun image => some image.data)) (powered doubleTransforms
              (SessionService.saveSession (serializeItems onePage)) oneFile) front) :=
  ⟨onePage_keeps, pages_refine_document onePage_keeps _ (by decide +kernel)⟩

/-- While the user goes on with a document, ending and starting the program, however
often, changes no page that is shown, and all of them are in the session file. -/
theorem restarts_change_nothing {session : SessionFile} {disk : Disk Path}
    {found : List Page} (keeps : Keeps disk session (some found)) (base : Nat)
    (answer : CImageView.Answer) (sorted : List SImageItemSerialized) (granted : Path → Bool)
    (accepted : answer ≠ .cancel) (labels : List (Label Real))
    (all : ∀ label ∈ labels, label.continues = true)
    (along : Runs.Along (step qt toReal jpeg) Admitted (powered qt session disk)
      (.restart base answer sorted granted :: labels)) :
    ∀ front, front <+: labels →
      Runs.Ends (fun last =>
          pages last.disk last.view.grid = (playedOn qt jpeg ⟨found, some found, true⟩
            (front.filter fun label => !label.restarts)).shown ∧
          Keeps last.disk last.view.session (some (pages last.disk last.view.grid)))
        CannotCome (Runs.run (step qt toReal jpeg) (powered qt session disk)
          (.restart base answer sorted granted :: front)) := by
  intro front within
  apply (run_plays keeps _ (Runs.along_prefix (List.cons_prefix_cons.mpr ⟨rfl, within⟩)
    along)).imp
  intro last refines
  have first : (Label.restart base answer sorted granted : Label Real).onto qt jpeg
      { kept := some found } = ⟨found, some found, true⟩ := by
    simp [Label.onto, Label.action, Document.step, accepted]
  have continued : ∀ action ∈ front.filterMap (Label.action qt jpeg),
      action.continues = true := by
    intro action member
    obtain ⟨label, inside, acts⟩ := List.mem_filterMap.mp member
    exact (action_facts label action acts).2 (all label (within.subset inside))
  obtain ⟨same, -, kept⟩ := reopen_invisible _ continued ⟨found, some found, true⟩ ⟨rfl, rfl⟩
  have played : Refines last (playedOn qt jpeg ⟨found, some found, true⟩ front) := by
    rw [← first]
    exact refines
  rw [foldl_onto] at played
  rw [filterMap_action] at same
  rw [foldl_onto, ← same, played.shown, ← kept]
  exact ⟨rfl, played.kept⟩

theorem restarts_change_nothing_of_one :
    Keeps oneFile (SessionService.saveSession (serializeItems onePage))
        (some (pages oneFile onePage)) ∧
      ∀ front, front <+: [scan [98], .press 1 .movePrev, start [[98], [97]], .press 0 .mirror] →
        Runs.Ends (fun last =>
            pages last.disk last.view.grid = (playedOn doubleTransforms
              (fun image => some image.data)
              ⟨pages oneFile onePage, some (pages oneFile onePage), true⟩
              (front.filter fun label => !label.restarts)).shown ∧
            Keeps last.disk last.view.session (some (pages last.disk last.view.grid)))
          CannotCome (Runs.run (step doubleTransforms (fun _ => (0 : Int))
            (fun image => some image.data)) (powered doubleTransforms
              (SessionService.saveSession (serializeItems onePage)) oneFile)
            (start [[97]] :: front)) :=
  ⟨onePage_keeps, restarts_change_nothing onePage_keeps 4096 .ok _ (fun _ => true) (by decide) _
    (by decide) (by decide +kernel)⟩

end Runs

end SaneInTheMembrane.Restarts

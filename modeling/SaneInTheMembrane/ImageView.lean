import SaneInTheMembrane.Pdf
import SaneInTheMembrane.SessionService

/-!
Ui/ImageView.cpp, `CImageView`: the slots that change the pages, save the
session, export the document and restore a session at startup, with the two
slots of `CMainWindow` that follow its signals. A slot runs to its end before
the next; the restore handler is in two parts, before and after its prompt.
-/

namespace SaneInTheMembrane.ImageView

open ImageContainer Pdf SessionCodec SessionService

inductive Signal where
  | documentSaved
  | documentChanged (itemCount : Nat)
  deriving DecidableEq, Repr

/-- `CMainWindow::sl_documents_changed` and `sl_document_saved`. -/
def windowModifiedAfter : Signal → Bool
  | .documentSaved => false
  | .documentChanged itemCount => itemCount != 0

structure CImageView where
  grid : CImageItemContainer Word
  session : SessionFile
  sessionSavingDisabled : Bool
  windowModified : Bool
  emitted : List Signal

def serializedItems (grid : CImageItemContainer Word) : List SImageItemSerialized :=
  grid.manager.items.map fun item => .ofItem (grid.heap item)

def serializeItems (grid : CImageItemContainer Word) : List UInt8 :=
  SessionCodec.serializeItems (serializedItems grid)

/-- The item built from a record keeps the record's page number. -/
def addRecord (grid : CImageItemContainer Word) (record : SImageItemSerialized) :
    CImageItemContainer Word :=
  grid.addItem ⟨record.path, record.transformMatrix, record.pageNumber.toNat⟩

namespace CImageView

def initial (qt : QTransformOps Word) (session : SessionFile) : CImageView where
  grid := .empty qt
  session := session
  sessionSavingDisabled := true
  windowModified := false
  emitted := []

def emit (view : CImageView) (signal : Signal) : CImageView :=
  { view with
    windowModified := windowModifiedAfter signal
    emitted := view.emitted ++ [signal] }

def saveSession (view : CImageView) : CImageView :=
  if view.sessionSavingDisabled then view
  else { view with session := SessionService.saveSession (serializeItems view.grid) }

def initImageConnections (view : CImageView) : CImageView :=
  (view.emit (.documentChanged view.grid.manager.items.length)).saveSession

def addImage (qt : QTransformOps Word) (view : CImageView) (file : Path) : CImageView :=
  { view with grid := view.grid.addImage qt file }.initImageConnections

def addSerialized (view : CImageView) (record : SImageItemSerialized) : CImageView :=
  { view with grid := addRecord view.grid record }.initImageConnections

def slRemoveImage (view : CImageView) (item : ItemPtr) : Except Fault CImageView :=
  match view.grid.removeImage item with
  -- The count of the layout, where an added page sends the count of `m_items`.
  | .ok grid => .ok ({ view with grid }.emit (.documentChanged grid.layout.length)).saveSession
  | .error fault => .error fault

def slMoveImage (view : CImageView) (item : ItemPtr) (direction : EMoveDirection) :
    Except Fault CImageView :=
  match view.grid.moveImage item direction with
  | .ok grid => .ok { view with grid }.saveSession
  | .error fault => .error fault

def slTransform (view : CImageView) (item : ItemPtr)
    (op : SQtMatrix Word → SQtMatrix Word) : CImageView :=
  { view with grid := view.grid.press item op }.saveSession

def edit (qt : QTransformOps Word) (view : CImageView) : Edit → Except Fault CImageView
  | .addImage file => .ok (view.addImage qt file)
  | .moveImage item direction => view.slMoveImage item direction
  | .removeImage item => view.slRemoveImage item
  | .rotateLeft item => .ok (view.slTransform item (qt.rotate (-90)))
  | .rotateRight item => .ok (view.slTransform item (qt.rotate 90))
  | .mirror item => .ok (view.slTransform item (qt.scale (-1) 1))

section Export
variable {Real : Type}

/-- `CImageItem::matrix`; `toReal` is the cast from `double` to `float`. -/
def pdfMatrix {Qreal : Type} (toReal : Qreal → Real) (transform : SQtMatrix Qreal) :
    SPdfMatrix Real where
  a := toReal transform.m11
  b := toReal transform.m12
  c := toReal transform.m21
  d := toReal transform.m22
  x := toReal transform.m31
  y := toReal transform.m32

def pdfEntry {Qreal : Type} (toReal : Qreal → Real) (item : CImageItem Qreal) :
    Path × SPdfMatrix Real :=
  (item.path, pdfMatrix toReal item.transform)

def imagePaths {Qreal : Type} (toReal : Qreal → Real) (grid : CImageItemContainer Qreal) :
    List (Path × SPdfMatrix Real) :=
  grid.manager.items.map fun item => pdfEntry toReal (grid.heap item)

variable [Zero Real] [Add Real] [Sub Real] [Neg Real] [Mul Real] [Min Real] [Max Real]

/-- The export itself: whether all images were added, and the write status. -/
def exportPdf (toReal : Word → Real) (haru : Haru Real) (view : CImageView) (file : Path) :
    Bool × Nat :=
  let added := CPdf.addJpegs haru .empty (imagePaths toReal view.grid)
  (added.1, added.2.save haru file)

/-- `sl_save_pdf`. `dialog` is the file chosen, if the dialog was accepted. The
results of the export are not looked at. -/
def slSavePdf (toReal : Word → Real) (haru : Haru Real) (view : CImageView)
    (dialog : Option Path) : CImageView :=
  match dialog with
  | none => view
  | some file =>
      if file = [] then view
      else
        let _results := exportPdf toReal haru view file
        { view.emit .documentSaved with session := removeSession }

end Export

/-- The restore handler up to the prompt: the decoded items, if it gets there. -/
def showEventPrompt (view : CImageView) (base : Nat) :
    Outcome (Option (List SImageItemSerialized)) :=
  match readSession base view.session with
  | .done (.ok items) => .done (some items)
  | .done (.error _) => .done none
  | .outOfBounds => .outOfBounds
  | .lengthError => .lengthError
  | .outOfMemory => .outOfMemory
  | .running => .running

inductive Answer where
  | ok
  | close
  | cancel
  deriving DecidableEq, Repr

def showEventAnswer (view : CImageView) (answer : Answer)
    (sorted : List SImageItemSerialized) : CImageView :=
  let restored := match answer with
    -- The box has no Close button; the switch lists it all the same.
    | .ok | .close => sorted.foldl addSerialized view
    | .cancel => view
  { restored with sessionSavingDisabled := false }

end CImageView

/-- What `std::sort` by page number may leave: items with equal numbers stand
in any order. -/
def SortedByPage (items sorted : List SImageItemSerialized) : Prop :=
  sorted.Perm items ∧ sorted.Pairwise (fun a b => a.pageNumber ≤ b.pageNumber)

end SaneInTheMembrane.ImageView

import Mathlib.Algebra.Group.Nat.Defs
import Mathlib.Data.List.Basic
import Mathlib.Logic.Function.Basic
import SaneInTheMembrane.Runs

/-!
Ui/ImageView.cpp, the container of scanned pages: `CImageItem`,
`CImageItemManager` and `CImageItemContainer` (a `QHBoxLayout`). Three
structures describe the pages: the layout (display order), the manager's
`m_items` (insertion order) and the number kept in each item. Items are
addresses into a heap. A null item, a failed `SITM_ASSERT` and a step out of the
vector end the program.

A `std::size_t` is a `Nat`; `sizePred` and `sizeSucc` wrap at the ends of its
range. A `qreal` is any type and the arithmetic of `QTransform` a parameter.
-/

namespace SaneInTheMembrane.ImageContainer

inductive EMoveDirection where
  | left
  | right
  deriving DecidableEq, Repr

structure SQtMatrix (Qreal : Type) where
  m11 : Qreal
  m12 : Qreal
  m13 : Qreal
  m21 : Qreal
  m22 : Qreal
  m23 : Qreal
  m31 : Qreal
  m32 : Qreal
  m33 : Qreal
  deriving DecidableEq, Repr

/-- What the program uses of `QTransform`: the default transform and the two
operations of the toolbar, on the nine entries. -/
structure QTransformOps (Qreal : Type) where
  identity : SQtMatrix Qreal
  rotate : Int → SQtMatrix Qreal → SQtMatrix Qreal
  scale : Int → Int → SQtMatrix Qreal → SQtMatrix Qreal

def negateDouble (bits : UInt64) : UInt64 :=
  if bits = 0 then 0 else bits ^^^ 0x8000000000000000

/-- The transforms on the bit patterns of `double`. The entries of quarter turns
are 0 and ±1, so a turn exchanges and negates them, up to the sign of a zero. -/
def doubleTransforms : QTransformOps UInt64 where
  identity := ⟨0x3FF0000000000000, 0, 0, 0, 0x3FF0000000000000, 0, 0, 0, 0x3FF0000000000000⟩
  rotate degrees m :=
    if degrees = 90 then
      { m with m11 := m.m21, m12 := m.m22, m21 := negateDouble m.m11, m22 := negateDouble m.m12 }
    else if degrees = -90 then
      { m with m11 := negateDouble m.m21, m12 := negateDouble m.m22, m21 := m.m11, m22 := m.m12 }
    else m
  scale sx sy m :=
    let scaled (factor : Int) (entry : UInt64) :=
      if factor = -1 then negateDouble entry else entry
    { m with
      m11 := scaled sx m.m11, m12 := scaled sx m.m12
      m21 := scaled sy m.m21, m22 := scaled sy m.m22 }

abbrev Path := List UInt8

structure CImageItem (Qreal : Type) where
  path : Path
  transform : SQtMatrix Qreal
  pageNumber : Nat
  deriving DecidableEq, Repr

/-- `CImageItem *`. The address of a new item differs from all earlier ones. -/
abbrev ItemPtr := Nat

inductive Fault where
  | nullItem
  | assertFailed (message : String)
  | outOfBounds
  deriving DecidableEq, Repr

def sizeMax : Nat := UInt64.size - 1

def sizePred (n : Nat) : Nat := if n = 0 then sizeMax else n - 1

def sizeSucc (n : Nat) : Nat := if n = sizeMax then 0 else n + 1

section Items
variable {Qreal : Type}

abbrev Heap (Qreal : Type) := ItemPtr → CImageItem Qreal

def setPageNumber (heap : Heap Qreal) (item : ItemPtr) (number : Nat) : Heap Qreal :=
  Function.update heap item { heap item with pageNumber := number }

def setTransform (heap : Heap Qreal) (item : ItemPtr) (transform : SQtMatrix Qreal) :
    Heap Qreal :=
  Function.update heap item { heap item with transform := transform }

structure CImageItemManager where
  items : List ItemPtr
  deriving DecidableEq, Repr

def CImageItemManager.addItem (manager : CImageItemManager) (item : ItemPtr) :
    CImageItemManager :=
  ⟨manager.items ++ [item]⟩

/-- `std::erase` drops every occurrence and returns how many there were. -/
def CImageItemManager.removeItem (manager : CImageItemManager) (item : ItemPtr) :
    Except Fault CImageItemManager :=
  if manager.items.count item = 1 then .ok ⟨manager.items.filter (· != item)⟩
  else .error (.assertFailed "Tried erasing a non existant item")

-- QHBoxLayout as the container uses it.
def addWidget (layout : List ItemPtr) (item : ItemPtr) : List ItemPtr := layout ++ [item]

def removeWidget (layout : List ItemPtr) (item : ItemPtr) : List ItemPtr := layout.erase item

def insertWidget (layout : List ItemPtr) (index : Nat) (item : ItemPtr) : List ItemPtr :=
  (layout.erase item).insertIdx index item

structure CImageItemContainer (Qreal : Type) where
  layout : List ItemPtr
  manager : CImageItemManager
  heap : Heap Qreal
  unused : ItemPtr

namespace CImageItemContainer

def empty (qt : QTransformOps Qreal) : CImageItemContainer Qreal :=
  ⟨[], ⟨[]⟩, fun _ => ⟨[], qt.identity, 0⟩, 0⟩

def pageNumber (container : CImageItemContainer Qreal) (item : ItemPtr) : Nat :=
  (container.heap item).pageNumber

/-- The pages as the user sees them, left to right. -/
def displayed (container : CImageItemContainer Qreal) : List (Path × SQtMatrix Qreal) :=
  container.layout.map fun item => ((container.heap item).path, (container.heap item).transform)

def addItem (container : CImageItemContainer Qreal) (item : CImageItem Qreal) :
    CImageItemContainer Qreal where
  layout := addWidget container.layout container.unused
  manager := container.manager.addItem container.unused
  heap := Function.update container.heap container.unused item
  unused := container.unused + 1

def addImage (qt : QTransformOps Qreal) (container : CImageItemContainer Qreal) (file : Path) :
    CImageItemContainer Qreal :=
  container.addItem ⟨file, qt.identity, container.manager.items.length + 1⟩

def renumber (heap : Heap Qreal) : List ItemPtr → Heap Qreal
  | [] => heap
  | item :: rest => renumber (setPageNumber heap item (sizePred (heap item).pageNumber)) rest

/-- `std::views::drop` takes a signed count, and a negative one leads in front of the vector.
A count within the vector is not negative: no vector is that long. -/
def DropsBackwards (items : List ItemPtr) (count : Nat) : Prop :=
  items ≠ [] ∧ items.length < count ∧ 2 ^ 63 ≤ count

instance (items : List ItemPtr) (count : Nat) : Decidable (DropsBackwards items count) :=
  inferInstanceAs (Decidable (_ ∧ _))

def removeImage (container : CImageItemContainer Qreal) (item : ItemPtr) :
    Except Fault (CImageItemContainer Qreal) :=
  let layout := removeWidget container.layout item
  -- The items dropped from are those of the manager, in insertion order.
  let count := container.pageNumber item
  if DropsBackwards container.manager.items count then .error .outOfBounds
  else
    let heap := renumber container.heap (container.manager.items.drop count)
    match container.manager.removeItem item with
    | .ok manager => .ok { container with layout, manager, heap }
    | .error fault => .error fault

def swapWithPage (page : Nat) : EMoveDirection → Nat
  | .left => sizePred page
  | .right => sizeSucc page

def moveImage (container : CImageItemContainer Qreal) (item : ItemPtr)
    (direction : EMoveDirection) : Except Fault (CImageItemContainer Qreal) :=
  let page := container.pageNumber item
  if page = 0 then .ok container
  else
    let swap := swapWithPage page direction
    if swap = 0 ∨ container.layout.length < swap then .ok container
    else
      -- After the `std::swap` the larger index is `page_index`.
      let pageIndex := max (page - 1) (swap - 1)
      let swapWithPageIndex := min (page - 1) (swap - 1)
      match container.layout[pageIndex]?, container.layout[swapWithPageIndex]? with
      | some lastItem, some firstItem =>
          let lastNumber := container.pageNumber lastItem
          let heap := setPageNumber container.heap lastItem (container.pageNumber firstItem)
          let heap := setPageNumber heap firstItem lastNumber
          let layout := insertWidget container.layout swapWithPageIndex lastItem
          let layout := insertWidget layout pageIndex firstItem
          .ok { container with layout, heap }
      | _, _ => .error .nullItem

end CImageItemContainer

/-- What a user can do to the pages; each toolbar button belongs to one item. -/
inductive Edit where
  | addImage (file : Path)
  | moveImage (item : ItemPtr) (direction : EMoveDirection)
  | removeImage (item : ItemPtr)
  | rotateLeft (item : ItemPtr)
  | rotateRight (item : ItemPtr)
  | mirror (item : ItemPtr)
  deriving DecidableEq, Repr

namespace CImageItemContainer

def press (container : CImageItemContainer Qreal) (item : ItemPtr)
    (op : SQtMatrix Qreal → SQtMatrix Qreal) : CImageItemContainer Qreal :=
  { container with heap := setTransform container.heap item (op (container.heap item).transform) }

def edit (qt : QTransformOps Qreal) (container : CImageItemContainer Qreal) :
    Edit → Except Fault (CImageItemContainer Qreal)
  | .addImage file => .ok (container.addImage qt file)
  | .moveImage item direction => container.moveImage item direction
  | .removeImage item => container.removeImage item
  | .rotateLeft item => .ok (container.press item (qt.rotate (-90)))
  | .rotateRight item => .ok (container.press item (qt.rotate 90))
  | .mirror item => .ok (container.press item (qt.scale (-1) 1))

/-- The edits of one item come from the buttons of an item that is shown. -/
def Current (container : CImageItemContainer Qreal) : Edit → Prop
  | .addImage _ => True
  | .moveImage item _ | .removeImage item | .rotateLeft item | .rotateRight item
  | .mirror item => item ∈ container.layout

instance (container : CImageItemContainer Qreal) : (e : Edit) → Decidable (container.Current e)
  | .addImage _ => isTrue trivial
  | .moveImage item _ | .removeImage item | .rotateLeft item | .rotateRight item
  | .mirror item => inferInstanceAs (Decidable (item ∈ container.layout))

abbrev run (qt : QTransformOps Qreal) (edits : List Edit) :
    Except Fault (CImageItemContainer Qreal) :=
  Runs.run (edit qt) (empty qt) edits

end CImageItemContainer
end Items
end SaneInTheMembrane.ImageContainer

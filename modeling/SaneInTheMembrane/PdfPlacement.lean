import Mathlib.Algebra.Order.Field.Basic
import Mathlib.Tactic.FieldSimp
import SaneInTheMembrane.ImageView
import SaneInTheMembrane.RectangleBounds

/-!
Where `CPdf::add_image` puts an image on its page, against the preview. Qt maps
row vectors with y down and moves the result to the origin; a PDF page has y up.
A page is drawn by its calls: a concatenated matrix acts before those that are
there, and an image fills the unit square with its first row on top. Which calls
libharu takes is a parameter: one that it refuses leaves the page, and the code does
not look at its answers.
-/

namespace SaneInTheMembrane.PdfPlacement

open ImageContainer Pdf ImageView.CImageView RectangleBounds

section Drawing
variable {Real : Type} [Field Real]

/-- A page as it is drawn: its size once it is set, the map from user space to the
page, and for each image drawn the place of its points, given from its top left. -/
structure Canvas (Real : Type) where
  width : Option Real
  height : Option Real
  toPage : Real × Real → Real × Real
  placed : List (Real × Real → Real × Real)

def Canvas.blank : Canvas Real := ⟨none, none, id, []⟩

def mapPoint (matrix : SPdfMatrix Real) (point : Real × Real) : Real × Real :=
  (matrix.a * point.1 + matrix.c * point.2 + matrix.x,
    matrix.b * point.1 + matrix.d * point.2 + matrix.y)

/-- The rectangle at (x, y) takes the image as the unit square does. -/
def imagePoint (image : HpdfImage Real) (x y width height : Real) (point : Real × Real) :
    Real × Real :=
  (x + width * (point.1 / image.width), y + height * (1 - point.2 / image.height))

def Canvas.draw (canvas : Canvas Real) : PageCall Real → Canvas Real
  | .setWidth width => { canvas with width := some width }
  | .setHeight height => { canvas with height := some height }
  | .concat matrix => { canvas with toPage := canvas.toPage ∘ mapPoint matrix }
  | .drawImage image x y width height =>
      { canvas with
        placed := canvas.placed ++ [canvas.toPage ∘ imagePoint image x y width height] }

section Taking
variable (takes : PdfPage Real → PageCall Real → Bool)

/-- `takes` answers a call on a page with these calls before it. -/
def renderFrom : PdfPage Real → Canvas Real → PdfPage Real → Canvas Real
  | _, canvas, [] => canvas
  | before, canvas, call :: rest =>
      renderFrom (before ++ [call]) (if takes before call then canvas.draw call else canvas) rest

def render (page : PdfPage Real) : Canvas Real := renderFrom takes [] .blank page

def Taken (page : PdfPage Real) : Prop :=
  ∀ before call after, page = before ++ call :: after → takes before call = true

variable {takes}

theorem renderFrom_taken {before page : PdfPage Real} (taken : Taken takes (before ++ page))
    (canvas : Canvas Real) :
    renderFrom takes before canvas page = page.foldl Canvas.draw canvas := by
  induction page generalizing before canvas with
  | nil => rfl
  | cons call rest ih =>
      have split : before ++ call :: rest = (before ++ [call]) ++ rest := by simp
      rw [renderFrom, if_pos (taken before call rest rfl), List.foldl_cons]
      exact ih (split ▸ taken) _

end Taking

def qtMap (transform : SQtMatrix Real) (x y : Real) : Real × Real :=
  (transform.m11 * x + transform.m21 * y, transform.m12 * x + transform.m22 * y)

variable [LinearOrder Real]

def InImage (image : HpdfImage Real) (x y : Real) : Prop :=
  (0 ≤ x ∧ x ≤ image.width) ∧ (0 ≤ y ∧ y ≤ image.height)

/-- The smallest upright rectangle around the transformed image. -/
structure IsBoundingBox (transform : SQtMatrix Real) (image : HpdfImage Real)
    (left top right bottom : Real) : Prop where
  left : IsLeast (values transform.m11 transform.m21 image.width image.height) left
  right : IsGreatest (values transform.m11 transform.m21 image.width image.height) right
  top : IsLeast (values transform.m12 transform.m22 image.width image.height) top
  bottom : IsGreatest (values transform.m12 transform.m22 image.width image.height) bottom

/-- The page has the size of the bounding box, shows the image once, and shows each
of its points on the page, where the preview has it, turned upside down. -/
def AgreesWithPreview (transform : SQtMatrix Real) (image : HpdfImage Real)
    (page : Canvas Real) : Prop :=
  ∃ left top right bottom place, IsBoundingBox transform image left top right bottom ∧
    page.width = some (right - left) ∧ page.height = some (bottom - top) ∧
    page.placed = [place] ∧
    ∀ x y, InImage image x y →
      place (x, y) = ((qtMap transform x y).1 - left,
        (bottom - top) - ((qtMap transform x y).2 - top)) ∧
      (0 ≤ (place (x, y)).1 ∧ (place (x, y)).1 ≤ right - left) ∧
      (0 ≤ (place (x, y)).2 ∧ (place (x, y)).2 ≤ bottom - top)

end Drawing

section Placement
variable {Real : Type} [Field Real] [LinearOrder Real]

/-- libharu's rule for the size of a page: from 3 to 14400 either way. -/
def takesSizes (_ : PdfPage Real) : PageCall Real → Bool
  | .setWidth size | .setHeight size => 3 ≤ size ∧ size ≤ 14400
  | .concat _ | .drawImage .. => true

theorem taken_sizes (page : PdfPage Real) :
    Taken takesSizes page ↔ ∀ call ∈ page, takesSizes [] call = true := by
  constructor
  · intro taken call member
    obtain ⟨before, after, split⟩ := List.append_of_mem member
    rw [← taken before call after split]
    rfl
  · intro all before call after split
    rw [← all call (split ▸ List.mem_append_right before List.mem_cons_self)]
    rfl

theorem render_placeImage {takes : PdfPage Real → PageCall Real → Bool} (image : HpdfImage Real)
    (matrix : SPdfMatrix Real) (taken : Taken takes (placeImage image (some matrix))) :
    render takes (placeImage image (some matrix)) =
      let a := matrix.a
      let b := -matrix.b
      let c := -matrix.c
      let d := matrix.d
      let w := image.width
      let h := image.height
      let minX := minElement (a * 0 + c * 0) (a * w + c * 0) (a * 0 + c * h) (a * w + c * h)
      let minY := minElement (b * 0 + d * 0) (b * w + d * 0) (b * 0 + d * h) (b * w + d * h)
      let maxX := maxElement (a * 0 + c * 0) (a * w + c * 0) (a * 0 + c * h) (a * w + c * h)
      let maxY := maxElement (b * 0 + d * 0) (b * w + d * 0) (b * 0 + d * h) (b * w + d * h)
      let toPage := mapPoint ⟨a, b, c, d, -minX, -minY⟩
      ⟨some (maxX - minX), some (maxY - minY), toPage, [toPage ∘ imagePoint image 0 0 w h]⟩ :=
  renderFrom_taken taken .blank

theorem imagePoint_own_size (image : HpdfImage Real) (x y : Real) (inside : InImage image x y) :
    imagePoint image 0 0 image.width image.height (x, y) = (x, image.height - y) := by
  have across : image.width * (x / image.width) = x := by
    apply mul_div_cancel_of_imp'
    intro empty
    exact le_antisymm (empty ▸ inside.1.2) inside.1.1
  have down : image.height * (y / image.height) = y := by
    apply mul_div_cancel_of_imp'
    intro empty
    exact le_antisymm (empty ▸ inside.2.2) inside.2.1
  simp only [imagePoint, mul_sub, across, down, mul_one, zero_add]

variable {transform : SQtMatrix Real} {image : HpdfImage Real} {left top right bottom : Real}

theorem qtMap_inside (box : IsBoundingBox transform image left top right bottom) (x y : Real)
    (inside : InImage image x y) :
    (left ≤ (qtMap transform x y).1 ∧ (qtMap transform x y).1 ≤ right) ∧
      (top ≤ (qtMap transform x y).2 ∧ (qtMap transform x y).2 ≤ bottom) := by
  have across : (qtMap transform x y).1 ∈
      values transform.m11 transform.m21 image.width image.height :=
    ⟨x, y, inside.1, inside.2, rfl⟩
  have down : (qtMap transform x y).2 ∈
      values transform.m12 transform.m22 image.width image.height :=
    ⟨x, y, inside.1, inside.2, rfl⟩
  exact ⟨⟨box.left.2 across, box.right.2 across⟩, ⟨box.top.2 down, box.bottom.2 down⟩⟩

variable [IsStrictOrderedRing Real]

theorem boundingBox_exists (transform : SQtMatrix Real) (wide : 0 ≤ image.width)
    (tall : 0 ≤ image.height) :
    ∃ left top right bottom, IsBoundingBox transform image left top right bottom :=
  ⟨_, _, _, _, corners_least wide tall, corners_greatest wide tall, corners_least wide tall,
    corners_greatest wide tall⟩

/-- The corners that `add_image` maps have y up: horizontally it finds the box moved by
the height of the image. -/
theorem corners_across (box : IsBoundingBox transform image left top right bottom)
    (wide : 0 ≤ image.width) (tall : 0 ≤ image.height) :
    let w := image.width
    let h := image.height
    let a := transform.m11
    let c := -transform.m21
    minElement (a * 0 + c * 0) (a * w + c * 0) (a * 0 + c * h) (a * w + c * h) =
        left - transform.m21 * h ∧
      maxElement (a * 0 + c * 0) (a * w + c * 0) (a * 0 + c * h) (a * w + c * h) =
        right - transform.m21 * h :=
  ⟨(corners_least wide tall).unique (least_turned box.left),
    (corners_greatest wide tall).unique (greatest_turned box.right)⟩

theorem corners_down (box : IsBoundingBox transform image left top right bottom)
    (wide : 0 ≤ image.width) (tall : 0 ≤ image.height) :
    let w := image.width
    let h := image.height
    let b := -transform.m12
    let d := transform.m22
    minElement (b * 0 + d * 0) (b * w + d * 0) (b * 0 + d * h) (b * w + d * h) =
        transform.m22 * h - bottom ∧
      maxElement (b * 0 + d * 0) (b * w + d * 0) (b * 0 + d * h) (b * w + d * h) =
        transform.m22 * h - top := by
  have least := least_turned (least_neg box.bottom)
  have greatest := greatest_turned (greatest_neg box.top)
  rw [neg_neg] at least greatest
  constructor
  · refine ((corners_least wide tall).unique least).trans ?_
    ring
  · refine ((corners_greatest wide tall).unique greatest).trans ?_
    ring

theorem placeImage_agrees {takes : PdfPage Real → PageCall Real → Bool}
    (transform : SQtMatrix Real) (wide : 0 ≤ image.width) (tall : 0 ≤ image.height)
    (taken : Taken takes (placeImage image (some (pdfMatrix id transform)))) :
    AgreesWithPreview transform image
      (render takes (placeImage image (some (pdfMatrix id transform)))) := by
  obtain ⟨left, top, right, bottom, box⟩ := boundingBox_exists transform wide tall
  obtain ⟨minX, maxX⟩ := corners_across box wide tall
  obtain ⟨minY, maxY⟩ := corners_down box wide tall
  rw [render_placeImage image _ taken]
  simp only [pdfMatrix, id_eq]
  rw [minX, maxX, minY, maxY]
  refine ⟨left, top, right, bottom, _, box, ?_, ?_, rfl, ?_⟩
  · apply congrArg some
    ring
  · apply congrArg some
    ring
  · intro x y inside
    obtain ⟨⟨low, high⟩, ⟨above, below⟩⟩ := qtMap_inside box x y inside
    -- The shift by the least corner takes back what turning the image over has moved.
    have place : (mapPoint ⟨transform.m11, -transform.m12, -transform.m21, transform.m22,
        -(left - transform.m21 * image.height), -(transform.m22 * image.height - bottom)⟩ ∘
          imagePoint image 0 0 image.width image.height) (x, y) =
        ((qtMap transform x y).1 - left, (bottom - top) - ((qtMap transform x y).2 - top)) := by
      rw [Function.comp_apply, imagePoint_own_size image x y inside]
      simp only [mapPoint, qtMap, Prod.mk.injEq]
      constructor
      · ring
      · ring
    rw [place]
    refine ⟨rfl, ⟨?_, ?_⟩, ⟨?_, ?_⟩⟩ <;> dsimp only <;> linarith

/-- By that rule the calls are taken exactly if the box is neither too small nor too large. -/
theorem taken_sizes_iff (box : IsBoundingBox transform image left top right bottom)
    (wide : 0 ≤ image.width) (tall : 0 ≤ image.height) :
    Taken takesSizes (placeImage image (some (pdfMatrix id transform))) ↔
      (3 ≤ right - left ∧ right - left ≤ 14400) ∧ (3 ≤ bottom - top ∧ bottom - top ≤ 14400) := by
  obtain ⟨minX, maxX⟩ := corners_across box wide tall
  obtain ⟨minY, maxY⟩ := corners_down box wide tall
  rw [taken_sizes]
  simp only [placeImage, pdfMatrix, id_eq, minX, maxX, minY, maxY, List.mem_cons,
    List.not_mem_nil, or_false, forall_eq_or_imp, forall_eq, takesSizes, decide_eq_true_eq,
    and_true, sub_sub_sub_cancel_right, sub_sub_sub_cancel_left]

end Placement
end SaneInTheMembrane.PdfPlacement

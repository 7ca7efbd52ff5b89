import SaneInTheMembrane.ImageContainer

/-!
Utils/Pdf/Pdf.cpp: `CPdf`. A page is the list of calls made on it. What libharu
answers is a parameter: whether the n-th page can be added, what the n-th file
decodes to and the status of the final write. `HPDF_REAL` is any type with the
operations used.
-/

namespace SaneInTheMembrane.Pdf

open ImageContainer

structure SPdfMatrix (Real : Type) where
  a : Real
  b : Real
  c : Real
  d : Real
  x : Real
  y : Real
  deriving DecidableEq, Repr

structure HpdfImage (Real : Type) where
  width : Real
  height : Real
  deriving DecidableEq, Repr

inductive PageCall (Real : Type) where
  | setWidth (width : Real)
  | setHeight (height : Real)
  | concat (matrix : SPdfMatrix Real)
  | drawImage (image : HpdfImage Real) (x y width height : Real)
  deriving DecidableEq, Repr

abbrev PdfPage (Real : Type) := List (PageCall Real)

structure Haru (Real : Type) where
  addPage : Nat → Bool
  loadJpeg : Nat → Path → Option (HpdfImage Real)
  saveToFile : List (PdfPage Real) → Path → Nat

def hpdfOk : Nat := 0

/-- The document: its pages and how many images were tried. -/
structure CPdf (Real : Type) where
  pages : List (PdfPage Real)
  tried : Nat
  deriving DecidableEq, Repr

/-- libharu gives a page and an image for every file of the list. -/
def Readable {Real : Type} (haru : Haru Real) (first : Nat)
    (images : List (Path × SPdfMatrix Real)) : Prop :=
  ∀ index (inside : index < images.length), haru.addPage (first + index) = true ∧
    (haru.loadJpeg (first + index) images[index].1).isSome = true

theorem readable_cons {Real : Type} (haru : Haru Real) (first : Nat)
    (image : Path × SPdfMatrix Real) (rest : List (Path × SPdfMatrix Real)) :
    Readable haru first (image :: rest) ↔
      (haru.addPage first = true ∧ (haru.loadJpeg first image.1).isSome = true) ∧
        Readable haru (first + 1) rest := by
  constructor
  · intro readable
    refine ⟨readable 0 (by simp), fun index inside => ?_⟩
    have shifted : first + 1 + index = first + (index + 1) := by omega
    rw [shifted]
    exact readable (index + 1) (by simpa using inside)
  · rintro ⟨head, tail⟩ index inside
    cases index with
    | zero => exact head
    | succ index =>
        have shifted : first + (index + 1) = first + 1 + index := by omega
        rw [shifted]
        exact tail index (by simpa using inside)

section Real
variable {Real : Type} [Zero Real] [Add Real] [Sub Real] [Neg Real] [Mul Real] [Min Real]
  [Max Real]

def minElement (first second third fourth : Real) : Real :=
  min (min (min first second) third) fourth

def maxElement (first second third fourth : Real) : Real :=
  max (max (max first second) third) fourth

def placeImage (image : HpdfImage Real) : Option (SPdfMatrix Real) → PdfPage Real
  | some matrix =>
      let a := matrix.a
      let b := -matrix.b
      let c := -matrix.c
      let d := matrix.d
      let mapX (x y : Real) := a * x + c * y
      let mapY (x y : Real) := b * x + d * y
      let width := image.width
      let height := image.height
      let minX := minElement (mapX 0 0) (mapX width 0) (mapX 0 height) (mapX width height)
      let minY := minElement (mapY 0 0) (mapY width 0) (mapY 0 height) (mapY width height)
      let maxX := maxElement (mapX 0 0) (mapX width 0) (mapX 0 height) (mapX width height)
      let maxY := maxElement (mapY 0 0) (mapY width 0) (mapY 0 height) (mapY width height)
      [.setWidth (maxX - minX), .setHeight (maxY - minY),
        .concat ⟨a, b, c, d, -minX, -minY⟩, .drawImage image 0 0 width height]
  | none =>
      [.setWidth image.width, .setHeight image.height,
        .drawImage image 0 0 image.width image.height]

namespace CPdf

def empty : CPdf Real := ⟨[], 0⟩

/-- `add_image`: the page is added before the image is looked at. -/
def addImage (haru : Haru Real) (pdf : CPdf Real) (image : Option (HpdfImage Real))
    (matrix : Option (SPdfMatrix Real)) : Bool × CPdf Real :=
  let tried := pdf.tried + 1
  if haru.addPage pdf.tried then
    match image with
    -- The empty page stays in the document.
    | none => (false, ⟨pdf.pages ++ [[]], tried⟩)
    | some image => (true, ⟨pdf.pages ++ [placeImage image matrix], tried⟩)
  else (false, ⟨pdf.pages, tried⟩)

def addJpeg (haru : Haru Real) (pdf : CPdf Real) (path : Path)
    (matrix : Option (SPdfMatrix Real)) : Bool × CPdf Real :=
  pdf.addImage haru (haru.loadJpeg pdf.tried path) matrix

def addJpegs (haru : Haru Real) : CPdf Real → List (Path × SPdfMatrix Real) → Bool × CPdf Real
  | pdf, [] => (true, pdf)
  | pdf, (path, matrix) :: rest =>
      match pdf.addJpeg haru path (some matrix) with
      | (true, next) => addJpegs haru next rest
      | (false, next) => (false, next)

def save (haru : Haru Real) (pdf : CPdf Real) (path : Path) : Nat :=
  haru.saveToFile pdf.pages path

end CPdf

theorem addJpeg_iff (haru : Haru Real) (pdf : CPdf Real) (path : Path)
    (matrix : Option (SPdfMatrix Real)) :
    (pdf.addJpeg haru path matrix).1 = true ↔
      haru.addPage pdf.tried = true ∧ (haru.loadJpeg pdf.tried path).isSome = true := by
  unfold CPdf.addJpeg CPdf.addImage
  by_cases page : haru.addPage pdf.tried = true
  · cases image : haru.loadJpeg pdf.tried path <;> simp [page]
  · simp [page]

theorem addJpeg_tried (haru : Haru Real) (pdf : CPdf Real) (path : Path)
    (matrix : Option (SPdfMatrix Real)) :
    (pdf.addJpeg haru path matrix).2.tried = pdf.tried + 1 := by
  unfold CPdf.addJpeg CPdf.addImage
  by_cases page : haru.addPage pdf.tried = true
  · cases image : haru.loadJpeg pdf.tried path <;> simp [page]
  · simp [page]

/-- The pages of the images, in order; `first` images were tried before them. -/
def placedPages (haru : Haru Real) : Nat → List (Path × SPdfMatrix Real) → List (PdfPage Real)
  | _, [] => []
  | first, (path, matrix) :: rest =>
      match haru.loadJpeg first path with
      | none => [] :: placedPages haru (first + 1) rest
      | some image => placeImage image (some matrix) :: placedPages haru (first + 1) rest

/-- When no image fails, the document gets a page for each image, in order. -/
theorem addJpegs_pages (haru : Haru Real) (pdf : CPdf Real)
    (images : List (Path × SPdfMatrix Real)) (readable : Readable haru pdf.tried images) :
    (pdf.addJpegs haru images).2.pages = pdf.pages ++ placedPages haru pdf.tried images := by
  induction images generalizing pdf with
  | nil => simp [CPdf.addJpegs, placedPages]
  | cons image rest ih =>
      obtain ⟨path, matrix⟩ := image
      obtain ⟨⟨page, loads⟩, others⟩ := (readable_cons haru pdf.tried _ rest).mp readable
      obtain ⟨loaded, load⟩ := Option.isSome_iff_exists.mp loads
      have added : pdf.addJpeg haru path (some matrix) =
          (true, ⟨pdf.pages ++ [placeImage loaded (some matrix)], pdf.tried + 1⟩) := by
        simp [CPdf.addJpeg, CPdf.addImage, page, load]
      rw [CPdf.addJpegs, added, placedPages, load]
      simpa using ih ⟨pdf.pages ++ [placeImage loaded (some matrix)], pdf.tried + 1⟩ others

theorem addJpegs_iff (haru : Haru Real) (pdf : CPdf Real)
    (images : List (Path × SPdfMatrix Real)) :
    (pdf.addJpegs haru images).1 = true ↔ Readable haru pdf.tried images := by
  induction images generalizing pdf with
  | nil => simp [CPdf.addJpegs, Readable]
  | cons image rest ih =>
      obtain ⟨path, matrix⟩ := image
      rw [readable_cons, ← addJpeg_iff haru pdf path (some matrix),
        ← addJpeg_tried haru pdf path (some matrix)]
      unfold CPdf.addJpegs
      cases added : pdf.addJpeg haru path (some matrix) with
      | mk success next =>
          cases success
          · simp
          · simp [ih next]

end Real
end SaneInTheMembrane.Pdf

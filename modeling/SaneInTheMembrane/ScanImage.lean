import SaneInTheMembrane.ScanReader

/-!
`CImageView::sl_sig_done`: the image that is built from the bytes of a finished
scan. The size check compares the number of pixels with the size of the file,
where a row of the image takes three bytes for a pixel and rows lie
`bytes_per_line` apart.
-/

namespace SaneInTheMembrane.ScanImage

open ScanReader

section Model

/-- `CFile`: what is on disk, and the bytes written through this object. -/
structure CFile where
  disk : List UInt8 := []
  size : UInt64 := 0

def CFile.write (file : CFile) (data : List UInt8) : CFile where
  disk := file.disk ++ data
  size := file.size + UInt64.ofNat data.length

def CFile.read (file : CFile) : List UInt8 := file.disk

def width (params : ScannerParameters) : Int64 := params.pixelsPerLine

def height (params : ScannerParameters) : Int64 := params.lines

structure QImage where
  data : List UInt8
  width : Int32
  height : Int32
  bytesPerLine : Int64

def imageOf (params : ScannerParameters) (file : CFile) : QImage where
  data := file.read
  width := (width params).toInt32
  height := (height params).toInt32
  bytesPerLine := params.bytesPerLine

/-- The size check. The product wraps, and a negative one is a large `size_t`. -/
def TooShort (params : ScannerParameters) (file : CFile) : Prop :=
  file.size < (params.pixelsPerLine * params.lines).toUInt64

instance (params : ScannerParameters) (file : CFile) : Decidable (TooShort params file) :=
  inferInstanceAs (Decidable (_ < _))

def slSigDone (statusOk : Bool) (params : ScannerParameters) (file : CFile) : Option QImage :=
  if statusOk then
    if TooShort params file then none
    else some (imageOf params file)
  else none

namespace QImage

/-- A null image has no pixels and reads nothing. -/
def IsNull (image : QImage) : Prop :=
  ¬ (0 < image.width.toInt ∧ 0 < image.height.toInt ∧
    3 * image.width.toInt ≤ image.bytesPerLine.toInt)

instance (image : QImage) : Decidable image.IsNull := inferInstanceAs (Decidable (¬ _))

def Reads (image : QImage) (offset : Nat) : Prop :=
  ¬ image.IsNull ∧ ∃ row < image.height.toInt.toNat, ∃ byte < 3 * image.width.toInt.toNat,
    offset = row * image.bytesPerLine.toInt.toNat + byte

def footprint (image : QImage) : Nat :=
  (image.height.toInt.toNat - 1) * image.bytesPerLine.toInt.toNat +
    3 * image.width.toInt.toNat

end QImage

def ReadsInside (image : QImage) : Prop :=
  ∀ offset, image.Reads offset → offset < image.data.length

end Model

section Rows

theorem rows_inside_iff (rows stride used length : Nat) (some : 0 < rows) (pixel : 0 < used) :
    (∀ row < rows, ∀ byte < used, row * stride + byte < length) ↔
      (rows - 1) * stride + used ≤ length := by
  constructor
  · intro inside
    have last := inside (rows - 1) (by omega) (used - 1) (by omega)
    omega
  · intro fits row inRows byte inRow
    have above : row * stride ≤ (rows - 1) * stride := Nat.mul_le_mul_right stride (by omega)
    omega

theorem readsInside_iff (image : QImage) :
    ReadsInside image ↔ image.IsNull ∨ image.footprint ≤ image.data.length := by
  by_cases null : image.IsNull
  · simp [ReadsInside, QImage.Reads, null]
  · have shape := not_not.mp null
    have rows := rows_inside_iff image.height.toInt.toNat image.bytesPerLine.toInt.toNat
      (3 * image.width.toInt.toNat) image.data.length (by omega) (by omega)
    rw [QImage.footprint, ← rows]
    constructor
    · intro inside
      right
      intro row inRows byte inRow
      exact inside _ ⟨null, row, inRows, byte, inRow, rfl⟩
    · rintro (empty | inside)
      · exact absurd empty null
      · rintro offset ⟨_, row, inRows, byte, inRow, rfl⟩
        exact inside row inRows byte inRow

theorem readsInside_of_rows (image : QImage)
    (whole : image.height.toInt.toNat * image.bytesPerLine.toInt.toNat ≤ image.data.length) :
    ReadsInside image := by
  rw [readsInside_iff]
  by_cases null : image.IsNull
  · exact Or.inl null
  · right
    have positive := not_not.mp null
    have row : 3 * image.width.toInt.toNat ≤ image.bytesPerLine.toInt.toNat := by omega
    obtain ⟨rows, count⟩ := Nat.exists_eq_succ_of_ne_zero
      (show image.height.toInt.toNat ≠ 0 by omega)
    rw [count, Nat.succ_mul rows] at whole
    rw [QImage.footprint, count, Nat.succ_sub_one]
    omega

end Rows

section Scans
variable (params : ScannerParameters) (file : CFile)

theorem slSigDone_ok :
    slSigDone true params file =
      if TooShort params file then none else some (imageOf params file) := rfl

/-- Whatever parameters the server sent and whatever the file holds: what passes the
size check is read inside the file exactly when the image is null or its last row
ends inside the file. -/
theorem scan_reads_inside_iff (statusOk : Bool) :
    (∀ image, slSigDone statusOk params file = some image → ReadsInside image) ↔
      (statusOk = true → ¬ TooShort params file → (imageOf params file).IsNull ∨
        (imageOf params file).footprint ≤ file.read.length) := by
  cases statusOk with
  | false => simp [slSigDone]
  | true =>
      rw [slSigDone_ok]
      by_cases short : TooShort params file
      · simp [short]
      · simp only [short, ↓reduceIte, Option.some.injEq, forall_eq', not_false_eq_true,
          true_imp_iff]
        exact readsInside_iff (imageOf params file)

/-- Four bytes pass the check of two rows of two pixels, which take twelve. -/
theorem four_bytes_read_as_twelve :
    let params : ScannerParameters := { bytesPerLine := 6, pixelsPerLine := 2, lines := 2 }
    let file := CFile.write {} [10, 20, 30, 40]
    ¬ ∀ image, slSigDone true params file = some image → ReadsInside image := by
  intro params file inside
  have image := inside (imageOf params file) (by
    rw [slSigDone_ok, if_neg]
    decide)
  have last := image 11 ⟨by decide, 1, by decide, 5, by decide, by decide⟩
  revert last
  decide

end Scans
end SaneInTheMembrane.ScanImage

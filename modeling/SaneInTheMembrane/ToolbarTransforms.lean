import Mathlib.Algebra.Ring.Parity
import Mathlib.Data.List.Induction
import SaneInTheMembrane.PdfPlacement

/-!
The rotate and mirror buttons of an image, in exact arithmetic. `QTransform`
composes an operation on the image side, so it acts on the image before all that
was pressed earlier; the screen shows the turn or the flip of the button only if
it commutes with what is there.
-/

namespace SaneInTheMembrane.ToolbarTransforms

open ImageContainer Pdf ImageView.CImageView RectangleBounds PdfPlacement

section Buttons
variable {Scalar : Type} [Field Scalar]

/-- `QTransform::rotate` from the cosine and the sine. -/
def turnBy (cosa sina : Scalar) (m : SQtMatrix Scalar) : SQtMatrix Scalar :=
  { m with
    m11 := cosa * m.m11 + sina * m.m21
    m12 := cosa * m.m12 + sina * m.m22
    m21 := -sina * m.m11 + cosa * m.m21
    m22 := -sina * m.m12 + cosa * m.m22 }

/-- `QTransform` with exact numbers; the program turns by a quarter. -/
def exactTransforms (Scalar : Type) [Field Scalar] : QTransformOps Scalar where
  identity := ⟨1, 0, 0, 0, 1, 0, 0, 0, 1⟩
  rotate degrees m :=
    if degrees = 90 then turnBy 0 1 m
    else if degrees = -90 then turnBy 0 (-1) m
    else m
  scale sx sy m :=
    { m with
      m11 := sx * m.m11, m12 := sx * m.m12
      m21 := sy * m.m21, m22 := sy * m.m22 }

/-- The buttons with the tooltips "Rotate counter-clockwise", "Rotate clockwise" and
"Mirror". -/
inductive Button where
  | rotateLeft
  | rotateRight
  | mirror
  deriving DecidableEq, Repr

def Button.edit (item : ItemPtr) : Button → Edit
  | .rotateLeft => .rotateLeft item
  | .rotateRight => .rotateRight item
  | .mirror => .mirror item

def Button.op {Qreal : Type} (qt : QTransformOps Qreal) :
    Button → SQtMatrix Qreal → SQtMatrix Qreal
  | .rotateLeft => qt.rotate (-90)
  | .rotateRight => qt.rotate 90
  | .mirror => qt.scale (-1) 1

/-- The transform of an item after its buttons were pressed, the last press last. -/
def pressed {Qreal : Type} (qt : QTransformOps Qreal) (start : SQtMatrix Qreal)
    (buttons : List Button) : SQtMatrix Qreal :=
  buttons.foldl (fun m button => button.op qt m) start

def quarterTurns (buttons : List Button) : Nat :=
  buttons.count .rotateLeft + buttons.count .rotateRight

theorem quarterTurns_append (buttons more : List Button) :
    quarterTurns (buttons ++ more) = quarterTurns buttons + quarterTurns more := by
  simp only [quarterTurns, List.count_append]
  omega

theorem pressed_concat {Qreal : Type} (qt : QTransformOps Qreal) (start : SQtMatrix Qreal)
    (buttons : List Button) (button : Button) :
    pressed qt start (buttons ++ [button]) = button.op qt (pressed qt start buttons) := by
  rw [pressed, List.foldl_append]
  rfl

inductive Change where
  | turnLeft
  | turnRight
  | flipAcross
  | flipDown
  deriving DecidableEq, Repr

def Change.opposite : Change → Change
  | .turnLeft => .turnRight
  | .turnRight => .turnLeft
  | .flipAcross => .flipDown
  | .flipDown => .flipAcross

def Button.tooltip : Button → Change
  | .rotateLeft => .turnLeft
  | .rotateRight => .turnRight
  | .mirror => .flipAcross

/-- The matrix followed by the change, for row vectors and y down. -/
def Change.onMatrix (matrix : SPdfMatrix Scalar) : Change → SPdfMatrix Scalar
  | .turnLeft => ⟨matrix.b, -matrix.a, matrix.d, -matrix.c, matrix.y, -matrix.x⟩
  | .turnRight => ⟨-matrix.b, matrix.a, -matrix.d, matrix.c, -matrix.y, matrix.x⟩
  | .flipAcross => ⟨-matrix.a, matrix.b, -matrix.c, matrix.d, -matrix.x, matrix.y⟩
  | .flipDown => ⟨matrix.a, -matrix.b, matrix.c, -matrix.d, matrix.x, -matrix.y⟩

end Buttons

section Edits
variable {Qreal : Type} (qt : QTransformOps Qreal)

theorem edit_button (container : CImageItemContainer Qreal) (item : ItemPtr) (button : Button) :
    container.edit qt (button.edit item) = .ok (container.press item (button.op qt)) := by
  cases button <;> rfl

theorem run_buttons (item : ItemPtr) (buttons : List Button)
    (container : CImageItemContainer Qreal) :
    ∃ next, Runs.run (CImageItemContainer.edit qt) container (buttons.map (Button.edit item)) =
        .ok next ∧
      (next.heap item).transform =
        pressed qt (container.heap item).transform buttons := by
  induction buttons generalizing container with
  | nil => exact ⟨container, rfl, rfl⟩
  | cons button rest ih =>
      obtain ⟨next, reached, transform⟩ := ih (container.press item (button.op qt))
      refine ⟨next, ?_, ?_⟩
      · rw [List.map_cons, Runs.run_cons_ok _ (edit_button qt container item button), reached]
      · rw [transform]
        simp [pressed, CImageItemContainer.press, setTransform]

end Edits

section Orientation
variable {Scalar : Type} [Field Scalar]

/-- A transform reached by so many mirrors and quarter turns. -/
structure Oriented (m : SQtMatrix Scalar) (mirrors turns : Nat) : Prop where
  straight : Even mirrors → m.m22 = m.m11 ∧ m.m21 = -m.m12
  mirrored : ¬ Even mirrors → m.m22 = -m.m11 ∧ m.m21 = m.m12
  upright : Even turns → m.m12 = 0 ∧ m.m11 ≠ 0
  sideways : ¬ Even turns → m.m11 = 0 ∧ m.m12 ≠ 0
  fixed : m.m31 = 0 ∧ m.m32 = 0

variable {m : SQtMatrix Scalar} {mirrors turns : Nat}

theorem oriented_identity : Oriented (exactTransforms Scalar).identity 0 0 := by
  constructor <;> simp [exactTransforms]

theorem Oriented.second_row (oriented : Oriented m mirrors turns) :
    (m.m22 = 0 ↔ m.m11 = 0) ∧ (m.m21 = 0 ↔ m.m12 = 0) := by
  by_cases even : Even mirrors
  · obtain ⟨down, across⟩ := oriented.straight even
    simp [down, across]
  · obtain ⟨down, across⟩ := oriented.mirrored even
    simp [down, across]

theorem Oriented.nonzero (oriented : Oriented m mirrors turns) :
    (m.m11 ≠ 0 ∨ m.m21 ≠ 0) ∧ (m.m12 ≠ 0 ∨ m.m22 ≠ 0) := by
  by_cases even : Even turns
  · have upright := (oriented.upright even).2
    exact ⟨Or.inl upright, Or.inr (mt oriented.second_row.1.mp upright)⟩
  · have sideways := (oriented.sideways even).2
    exact ⟨Or.inr (mt oriented.second_row.2.mp sideways), Or.inl sideways⟩

theorem oriented_turnBy (oriented : Oriented m mirrors turns) {sina : Scalar}
    (quarter : sina ≠ 0) : Oriented (turnBy 0 sina m) mirrors (turns + 1) := by
  constructor
  · intro even
    obtain ⟨down, across⟩ := oriented.straight even
    simp [turnBy, down, across]
  · intro odd
    obtain ⟨down, across⟩ := oriented.mirrored odd
    simp [turnBy, down, across]
  · intro even
    have sideways := oriented.sideways (Nat.even_add_one.mp even)
    simp [turnBy, quarter, oriented.second_row, sideways]
  · intro odd
    have upright := oriented.upright (not_not.mp (mt Nat.even_add_one.mpr odd))
    simp [turnBy, quarter, oriented.second_row, upright]
  · exact oriented.fixed

theorem oriented_mirror (oriented : Oriented m mirrors turns) :
    Oriented ((exactTransforms Scalar).scale (-1) 1 m) (mirrors + 1) turns := by
  constructor
  · intro even
    obtain ⟨down, across⟩ := oriented.mirrored (Nat.even_add_one.mp even)
    simp [exactTransforms, down, across]
  · intro odd
    obtain ⟨down, across⟩ := oriented.straight (not_not.mp (mt Nat.even_add_one.mpr odd))
    simp [exactTransforms, down, across]
  · intro even
    simpa [exactTransforms] using oriented.upright even
  · intro odd
    simpa [exactTransforms] using oriented.sideways odd
  · exact oriented.fixed

def Button.does (mirrors turns : Nat) : Button → Change
  | .rotateLeft => if Even mirrors then .turnLeft else .turnRight
  | .rotateRight => if Even mirrors then .turnRight else .turnLeft
  | .mirror => if Even turns then .flipAcross else .flipDown

/-- The presses so far mirrored the image an even number of times, for a rotation, or
turned it by an even number of quarters, for a flip. -/
def Button.Commutes (buttons : List Button) : Button → Prop
  | .rotateLeft | .rotateRight => Even (buttons.count .mirror)
  | .mirror => Even (quarterTurns buttons)

instance (buttons : List Button) : (button : Button) → Decidable (button.Commutes buttons)
  | .rotateLeft | .rotateRight => inferInstanceAs (Decidable (Even (buttons.count .mirror)))
  | .mirror => inferInstanceAs (Decidable (Even (quarterTurns buttons)))

theorem does_eq_tooltip_iff (buttons : List Button) (button : Button) :
    button.does (buttons.count .mirror) (quarterTurns buttons) = button.tooltip ↔
      button.Commutes buttons := by
  cases button <;> simp [Button.does, Button.tooltip, Button.Commutes]

theorem does_cases (mirrors turns : Nat) (button : Button) :
    button.does mirrors turns = button.tooltip ∨
      button.does mirrors turns = button.tooltip.opposite := by
  cases button <;> simp only [Button.does, Button.tooltip, Change.opposite] <;> split <;> simp

theorem oriented_op (oriented : Oriented m mirrors turns) (button : Button) :
    Oriented (button.op (exactTransforms Scalar) m) (mirrors + [button].count .mirror)
      (turns + quarterTurns [button]) := by
  cases button with
  | rotateLeft => exact oriented_turnBy oriented (neg_ne_zero.mpr one_ne_zero)
  | rotateRight => exact oriented_turnBy oriented one_ne_zero
  | mirror => exact oriented_mirror oriented

theorem oriented_pressed (buttons : List Button) :
    Oriented (pressed (exactTransforms Scalar) (exactTransforms Scalar).identity buttons)
      (buttons.count .mirror) (quarterTurns buttons) := by
  induction buttons using List.reverseRecOn with
  | nil => exact oriented_identity
  | append_singleton buttons button ih =>
      rw [pressed_concat, List.count_append, quarterTurns_append]
      exact oriented_op ih button

theorem pdfMatrix_press (oriented : Oriented m mirrors turns) (button : Button) :
    pdfMatrix id (button.op (exactTransforms Scalar) m) =
      (button.does mirrors turns).onMatrix (pdfMatrix id m) := by
  obtain ⟨dx, dy⟩ := oriented.fixed
  cases button with
  | rotateLeft | rotateRight =>
      by_cases even : Even mirrors
      · obtain ⟨down, across⟩ := oriented.straight even
        simp [Button.op, Button.does, Change.onMatrix, exactTransforms, turnBy, pdfMatrix, even,
          down, across, dx, dy]
      · obtain ⟨down, across⟩ := oriented.mirrored even
        simp [Button.op, Button.does, Change.onMatrix, exactTransforms, turnBy, pdfMatrix, even,
          down, across, dx, dy]
  | mirror =>
      by_cases even : Even turns
      · have across := (oriented.upright even).1
        have below := oriented.second_row.2.mpr across
        simp [Button.op, Button.does, Change.onMatrix, exactTransforms, pdfMatrix, even, across,
          below, dx]
      · have down := (oriented.sideways even).1
        have below := oriented.second_row.1.mpr down
        simp [Button.op, Button.does, Change.onMatrix, exactTransforms, pdfMatrix, even, down,
          below, dy]

end Orientation

section Pictures
variable {Scalar : Type} [Field Scalar] [LinearOrder Scalar]

abbrev Points (image : HpdfImage Scalar) : Type :=
  {point : Scalar × Scalar // InImage image point.1 point.2}

/-- An upright rectangle and where in it the points of an image are, y down. -/
@[ext]
structure Picture (image : HpdfImage Scalar) where
  width : Scalar
  height : Scalar
  place : Points image → Scalar × Scalar

def leastCorner (p q : Scalar) (image : HpdfImage Scalar) : Scalar :=
  minElement (p * 0 + q * 0) (p * image.width + q * 0) (p * 0 + q * image.height)
    (p * image.width + q * image.height)

def greatestCorner (p q : Scalar) (image : HpdfImage Scalar) : Scalar :=
  maxElement (p * 0 + q * 0) (p * image.width + q * 0) (p * 0 + q * image.height)
    (p * image.width + q * image.height)

/-- `QPixmap::transformed`: the transformed image, moved to the origin. -/
def transformed (m : SQtMatrix Scalar) (image : HpdfImage Scalar) : Picture image where
  width := greatestCorner m.m11 m.m21 image - leastCorner m.m11 m.m21 image
  height := greatestCorner m.m12 m.m22 image - leastCorner m.m12 m.m22 image
  place point :=
    ((qtMap m point.1.1 point.1.2).1 - leastCorner m.m11 m.m21 image,
      (qtMap m point.1.1 point.1.2).2 - leastCorner m.m12 m.m22 image)

/-- `QPixmap::scaled` into a square, with `Qt::KeepAspectRatio`. -/
def scaled {image : HpdfImage Scalar} (side : Scalar) (picture : Picture image) :
    Picture image :=
  let factor := min (side / picture.width) (side / picture.height)
  { width := factor * picture.width
    height := factor * picture.height
    place := fun point =>
      (factor * (picture.place point).1, factor * (picture.place point).2) }

def shown (m : SQtMatrix Scalar) (image : HpdfImage Scalar) : Picture image :=
  scaled 600 (transformed m image)

def Change.onScreen {image : HpdfImage Scalar} (picture : Picture image) :
    Change → Picture image
  | .turnLeft =>
      ⟨picture.height, picture.width, fun point =>
        ((picture.place point).2, picture.width - (picture.place point).1)⟩
  | .turnRight =>
      ⟨picture.height, picture.width, fun point =>
        (picture.height - (picture.place point).2, (picture.place point).1)⟩
  | .flipAcross =>
      ⟨picture.width, picture.height, fun point =>
        (picture.width - (picture.place point).1, (picture.place point).2)⟩
  | .flipDown =>
      ⟨picture.width, picture.height, fun point =>
        ((picture.place point).1, picture.height - (picture.place point).2)⟩

/-- A page that shows the picture, turned upside down as a page has y up. -/
structure Shows {image : HpdfImage Scalar} (page : Canvas Scalar) (picture : Picture image) :
    Prop where
  width : page.width = some picture.width
  height : page.height = some picture.height
  placed : ∃ place, page.placed = [place] ∧ ∀ point : Points image,
    place point.1 = ((picture.place point).1, picture.height - (picture.place point).2)

def pdfPage (m : SQtMatrix Scalar) (image : HpdfImage Scalar) : PdfPage Scalar :=
  placeImage image (some (pdfMatrix id m))

/-- A press changed the image on screen, the matrix for the PDF and, where libharu takes
the calls, the page as the tooltip tells. -/
structure FollowsTooltip (button : Button) (image : HpdfImage Scalar)
    (before after : SQtMatrix Scalar) : Prop where
  screen : shown after image = button.tooltip.onScreen (shown before image)
  matrix : pdfMatrix id after = button.tooltip.onMatrix (pdfMatrix id before)
  page : ∀ takes, Taken takes (pdfPage before image) → Taken takes (pdfPage after image) →
    ∃ picture : Picture image, Shows (render takes (pdfPage before image)) picture ∧
      Shows (render takes (pdfPage after image)) (button.tooltip.onScreen picture)

variable {image : HpdfImage Scalar}

theorem scaled_onScreen (side : Scalar) (picture : Picture image) (change : Change) :
    scaled side (change.onScreen picture) = change.onScreen (scaled side picture) := by
  cases change <;>
    simp only [scaled, Change.onScreen, min_comm (side / picture.height), mul_sub]

variable [IsStrictOrderedRing Scalar]

theorem leastCorner_neg (p q : Scalar) (image : HpdfImage Scalar) :
    leastCorner (-p) (-q) image = -greatestCorner p q image := by
  have corner (x y : Scalar) : -p * x + -q * y = -(p * x + q * y) := by ring
  simp only [leastCorner, greatestCorner, minElement, maxElement, corner, min_neg_neg]

theorem greatestCorner_neg (p q : Scalar) (image : HpdfImage Scalar) :
    greatestCorner (-p) (-q) image = -leastCorner p q image := by
  rw [← neg_neg (greatestCorner (-p) (-q) image), ← leastCorner_neg, neg_neg, neg_neg]

theorem transformed_change {before after : SQtMatrix Scalar} (change : Change)
    (matrix : pdfMatrix id after = change.onMatrix (pdfMatrix id before)) :
    transformed after image = change.onScreen (transformed before image) := by
  cases change <;>
    · simp only [pdfMatrix, Change.onMatrix, id_eq, SPdfMatrix.mk.injEq] at matrix
      obtain ⟨m11, m12, m21, m22, -, -⟩ := matrix
      ext point
      all_goals
        simp only [transformed, Change.onScreen, qtMap, m11, m12, m21, m22, leastCorner_neg,
          greatestCorner_neg]
      all_goals ring

theorem shown_change {before after : SQtMatrix Scalar} (change : Change)
    (matrix : pdfMatrix id after = change.onMatrix (pdfMatrix id before)) :
    shown after image = change.onScreen (shown before image) := by
  rw [shown, transformed_change change matrix, scaled_onScreen, shown]

theorem pdfPage_shows {takes : PdfPage Scalar → PageCall Scalar → Bool} (m : SQtMatrix Scalar)
    (wide : 0 ≤ image.width) (tall : 0 ≤ image.height) (taken : Taken takes (pdfPage m image)) :
    Shows (render takes (pdfPage m image)) (transformed m image) := by
  obtain ⟨left, top, right, bottom, place, box, width, height, placed, points⟩ :=
    placeImage_agrees m wide tall taken
  have atLeft : leastCorner m.m11 m.m21 image = left := (corners_least wide tall).unique box.left
  have atTop : leastCorner m.m12 m.m22 image = top := (corners_least wide tall).unique box.top
  have atRight : greatestCorner m.m11 m.m21 image = right :=
    (corners_greatest wide tall).unique box.right
  have atBottom : greatestCorner m.m12 m.m22 image = bottom :=
    (corners_greatest wide tall).unique box.bottom
  constructor
  · rw [pdfPage, width, transformed, atLeft, atRight]
  · rw [pdfPage, height, transformed, atTop, atBottom]
  · refine ⟨place, placed, ?_⟩
    intro point
    rw [transformed, atLeft, atTop, atBottom]
    exact (points _ _ point.2).1

theorem leastCorner_lt {p q : Scalar} (nonzero : p ≠ 0 ∨ q ≠ 0) (wide : 0 < image.width)
    (tall : 0 < image.height) : leastCorner p q image < greatestCorner p q image := by
  have least : IsLeast (values p q image.width image.height) (leastCorner p q image) :=
    corners_least wide.le tall.le
  have greatest : IsGreatest (values p q image.width image.height) (greatestCorner p q image) :=
    corners_greatest wide.le tall.le
  have origin := corner_mem (p := p) (q := q) wide.le tall.le (Or.inl rfl) (Or.inl rfl)
  apply lt_of_le_of_ne (le_trans (least.2 origin) (greatest.2 origin))
  intro flat
  have constant (value : Scalar) (member : value ∈ values p q image.width image.height) :
      value = p * 0 + q * 0 := by
    apply le_antisymm
    · exact le_trans (greatest.2 member) (flat ▸ least.2 origin)
    · exact le_trans (greatest.2 origin) (flat ▸ least.2 member)
  rcases nonzero with across | down
  · have same := constant _ (corner_mem wide.le tall.le (Or.inr rfl) (Or.inl rfl))
    simp [across, wide.ne'] at same
  · have same := constant _ (corner_mem wide.le tall.le (Or.inl rfl) (Or.inr rfl))
    simp [down, tall.ne'] at same

theorem shown_columns {m : SQtMatrix Scalar} {mirrors turns : Nat}
    (oriented : Oriented m mirrors turns) (wide : 0 < image.width) (tall : 0 < image.height) :
    ∃ first last : Points image,
      ((shown m image).place first).1 ≠ ((shown m image).place last).1 := by
  have width := sub_pos.mpr (leastCorner_lt oriented.nonzero.1 wide tall)
  have height := sub_pos.mpr (leastCorner_lt oriented.nonzero.2 wide tall)
  have factor : 0 < min (600 / (transformed m image).width) (600 / (transformed m image).height) :=
    lt_min (div_pos (by norm_num) width) (div_pos (by norm_num) height)
  have least : IsLeast (values m.m11 m.m21 image.width image.height)
    (leastCorner m.m11 m.m21 image) := corners_least wide.le tall.le
  have greatest : IsGreatest (values m.m11 m.m21 image.width image.height)
    (greatestCorner m.m11 m.m21 image) := corners_greatest wide.le tall.le
  obtain ⟨x, y, inWidth, inHeight, leftmost⟩ := least.1
  obtain ⟨x', y', inWidth', inHeight', rightmost⟩ := greatest.1
  refine ⟨⟨(x, y), inWidth, inHeight⟩, ⟨(x', y'), inWidth', inHeight'⟩, ?_⟩
  apply ne_of_lt
  apply mul_lt_mul_of_pos_left _ factor
  simp only [transformed, qtMap]
  rw [← leftmost, ← rightmost, sub_self]
  exact width

theorem onScreen_opposite_ne {picture : Picture image} {first last : Points image}
    (columns : (picture.place first).1 ≠ (picture.place last).1) (change : Change) :
    change.opposite.onScreen picture ≠ change.onScreen picture := by
  intro same
  have middle (point : Points image) :
      (picture.place point).1 = picture.width - (picture.place point).1 := by
    have places := congrFun (congrArg Picture.place same) point
    cases change with
    | turnLeft => exact congrArg Prod.snd places
    | turnRight => exact (congrArg Prod.snd places).symm
    | flipAcross => exact congrArg Prod.fst places
    | flipDown => exact (congrArg Prod.fst places).symm
  apply columns
  linarith [middle first, middle last]

/-- A press does what its tooltip tells exactly if the transform commutes with it. -/
theorem followsTooltip_iff {m : SQtMatrix Scalar} {mirrors turns : Nat}
    (oriented : Oriented m mirrors turns) (wide : 0 < image.width) (tall : 0 < image.height)
    (button : Button) :
    FollowsTooltip button image m (button.op (exactTransforms Scalar) m) ↔
      button.does mirrors turns = button.tooltip := by
  have matrix := pdfMatrix_press oriented button
  constructor
  · intro right
    rcases does_cases mirrors turns button with same | opposite
    · exact same
    · rw [opposite] at matrix
      obtain ⟨first, last, columns⟩ := shown_columns oriented wide tall
      exact absurd ((shown_change _ matrix).symm.trans right.screen)
        (onScreen_opposite_ne columns _)
  · intro same
    rw [same] at matrix
    refine ⟨shown_change _ matrix, matrix, fun takes first second =>
      ⟨transformed m image, ?_, ?_⟩⟩
    · exact pdfPage_shows m wide.le tall.le first
    · rw [← transformed_change _ matrix]
      exact pdfPage_shows _ wide.le tall.le second

end Pictures

section Presses
variable {Scalar : Type} [Field Scalar]

theorem run_then_press (container : CImageItemContainer Scalar) (item : ItemPtr)
    (buttons : List Button) (button : Button)
    (plain : (container.heap item).transform = (exactTransforms Scalar).identity) :
    ∃ before after,
      Runs.run (CImageItemContainer.edit (exactTransforms Scalar)) container
        (buttons.map (Button.edit item)) = .ok before ∧
      before.edit (exactTransforms Scalar) (button.edit item) = .ok after ∧
      Oriented (before.heap item).transform (buttons.count .mirror) (quarterTurns buttons) ∧
      (after.heap item).transform =
        button.op (exactTransforms Scalar) (before.heap item).transform := by
  obtain ⟨before, ran, transform⟩ := run_buttons (exactTransforms Scalar) item buttons container
  refine ⟨before, _, ran, edit_button _ before item button, ?_, ?_⟩
  · rw [transform, plain]
    exact oriented_pressed buttons
  · simp [CImageItemContainer.press, setTransform]

variable [LinearOrder Scalar] [IsStrictOrderedRing Scalar]

/-- One more press on an image does what its tooltip tells exactly if the earlier presses
left an even number of mirrors, for a rotation, or of quarter turns, for a mirror. -/
theorem press_follows_tooltip_iff (container : CImageItemContainer Scalar) (item : ItemPtr)
    (image : HpdfImage Scalar) (buttons : List Button) (button : Button)
    (plain : (container.heap item).transform = (exactTransforms Scalar).identity)
    (wide : 0 < image.width) (tall : 0 < image.height) :
    ∃ before after,
      Runs.run (CImageItemContainer.edit (exactTransforms Scalar)) container
        (buttons.map (Button.edit item)) = .ok before ∧
      before.edit (exactTransforms Scalar) (button.edit item) = .ok after ∧
      (FollowsTooltip button image (before.heap item).transform (after.heap item).transform ↔
        button.Commutes buttons) := by
  obtain ⟨before, after, ran, edited, oriented, transform⟩ :=
    run_then_press container item buttons button plain
  refine ⟨before, after, ran, edited, ?_⟩
  rw [transform, followsTooltip_iff oriented wide tall]
  exact does_eq_tooltip_iff buttons button

theorem mirrored_twice_turns_right :
    let qt := exactTransforms ℚ
    let image : HpdfImage ℚ := ⟨200, 300⟩
    ∃ before after : CImageItemContainer ℚ,
      Runs.run (CImageItemContainer.edit qt) ((CImageItemContainer.empty qt).addImage qt [])
        [.mirror 0, .rotateLeft 0, .mirror 0] = .ok before ∧
      before.edit qt (.rotateRight 0) = .ok after ∧
      FollowsTooltip .rotateRight image (before.heap 0).transform (after.heap 0).transform := by
  intro qt image
  obtain ⟨before, after, ran, edited, follows⟩ :=
    press_follows_tooltip_iff ((CImageItemContainer.empty qt).addImage qt []) 0 image
      [.mirror, .rotateLeft, .mirror] .rotateRight rfl (by norm_num [image]) (by norm_num [image])
  exact ⟨before, after, ran, edited, follows.mpr (by decide)⟩

/-- After one mirror the button "Rotate counter-clockwise" turns clockwise, and after a
quarter turn the button "Mirror" turns the image upside down. -/
theorem mirrored_rotateLeft_turns_right :
    let qt := exactTransforms ℚ
    let image : HpdfImage ℚ := ⟨200, 300⟩
    let container := (CImageItemContainer.empty qt).addImage qt []
    (∃ before after, Runs.run (CImageItemContainer.edit qt) container [.mirror 0] = .ok before ∧
      before.edit qt (.rotateLeft 0) = .ok after ∧
      shown (after.heap 0).transform image =
        Change.turnRight.onScreen (shown (before.heap 0).transform image) ∧
      ¬ FollowsTooltip .rotateLeft image (before.heap 0).transform (after.heap 0).transform) ∧
    (∃ before after, Runs.run (CImageItemContainer.edit qt) container [.rotateRight 0] =
        .ok before ∧
      before.edit qt (.mirror 0) = .ok after ∧
      shown (after.heap 0).transform image =
        Change.flipDown.onScreen (shown (before.heap 0).transform image) ∧
      ¬ FollowsTooltip .mirror image (before.heap 0).transform (after.heap 0).transform) := by
  intro qt image container
  have wide : 0 < image.width := by norm_num [image]
  have tall : 0 < image.height := by norm_num [image]
  constructor
  · obtain ⟨before, after, ran, edited, oriented, transform⟩ :=
      run_then_press container 0 [.mirror] .rotateLeft rfl
    refine ⟨before, after, ran, edited, ?_, ?_⟩
    · rw [transform]
      exact shown_change .turnRight (pdfMatrix_press oriented .rotateLeft)
    · rw [transform, followsTooltip_iff oriented wide tall]
      decide
  · obtain ⟨before, after, ran, edited, oriented, transform⟩ :=
      run_then_press container 0 [.rotateRight] .mirror rfl
    refine ⟨before, after, ran, edited, ?_, ?_⟩
    · rw [transform]
      exact shown_change .flipDown (pdfMatrix_press oriented .mirror)
    · rw [transform, followsTooltip_iff oriented wide tall]
      decide

end Presses
end SaneInTheMembrane.ToolbarTransforms

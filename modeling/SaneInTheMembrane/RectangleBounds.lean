import Mathlib.Algebra.Order.Group.MinMax
import Mathlib.Algebra.Order.Ring.Defs
import Mathlib.Order.Bounds.Basic
import Mathlib.Tactic.Linarith
import Mathlib.Tactic.Ring

/-!
A linear function on a rectangle with one corner at the origin. Its least and its
greatest value are taken at corners; turning the rectangle over or negating the
function moves them.
-/

namespace SaneInTheMembrane.RectangleBounds

section Values
variable {Scalar : Type} [CommRing Scalar] [LinearOrder Scalar]

/-- The values of `p * x + q * y` on the rectangle of width `w` and height `h`. -/
def values (p q w h : Scalar) : Set Scalar :=
  {value | ∃ x y, (0 ≤ x ∧ x ≤ w) ∧ (0 ≤ y ∧ y ≤ h) ∧ value = p * x + q * y}

variable {p q w h : Scalar}

theorem corner_mem (wide : 0 ≤ w) (tall : 0 ≤ h) {x y : Scalar} (xCorner : x = 0 ∨ x = w)
    (yCorner : y = 0 ∨ y = h) : p * x + q * y ∈ values p q w h := by
  refine ⟨x, y, ?_, ?_, rfl⟩
  · rcases xCorner with rfl | rfl
    · exact ⟨le_refl _, wide⟩
    · exact ⟨wide, le_refl _⟩
  · rcases yCorner with rfl | rfl
    · exact ⟨le_refl _, tall⟩
    · exact ⟨tall, le_refl _⟩

theorem values_neg (value : Scalar) :
    value ∈ values (-p) (-q) w h ↔ -value ∈ values p q w h := by
  constructor
  · rintro ⟨x, y, inWidth, inHeight, rfl⟩
    exact ⟨x, y, inWidth, inHeight, by ring⟩
  · rintro ⟨x, y, inWidth, inHeight, same⟩
    refine ⟨x, y, inWidth, inHeight, ?_⟩
    rw [← neg_neg value, same]
    ring

end Values

section Extremes
variable {Scalar : Type} [CommRing Scalar] [LinearOrder Scalar] [IsStrictOrderedRing Scalar]
variable {p q w h extreme : Scalar}

theorem end_le_mul (p w x : Scalar) (low : 0 ≤ x) (high : x ≤ w) :
    ∃ corner, (corner = 0 ∨ corner = w) ∧ p * corner ≤ p * x := by
  rcases le_total 0 p with positive | negative
  · exact ⟨0, Or.inl rfl, mul_le_mul_of_nonneg_left low positive⟩
  · exact ⟨w, Or.inr rfl, mul_le_mul_of_nonpos_left high negative⟩

theorem corners_least (wide : 0 ≤ w) (tall : 0 ≤ h) :
    IsLeast (values p q w h)
      (min (min (min (p * 0 + q * 0) (p * w + q * 0)) (p * 0 + q * h)) (p * w + q * h)) := by
  constructor
  · -- The minimum is one of the four.
    rcases min_choice (min (min (p * 0 + q * 0) (p * w + q * 0)) (p * 0 + q * h))
      (p * w + q * h) with three | last
    · rw [three]
      rcases min_choice (min (p * 0 + q * 0) (p * w + q * 0)) (p * 0 + q * h) with two | third
      · rw [two]
        rcases min_choice (p * 0 + q * 0) (p * w + q * 0) with first | second
        · rw [first]
          exact corner_mem wide tall (Or.inl rfl) (Or.inl rfl)
        · rw [second]
          exact corner_mem wide tall (Or.inr rfl) (Or.inl rfl)
      · rw [third]
        exact corner_mem wide tall (Or.inl rfl) (Or.inr rfl)
    · rw [last]
      exact corner_mem wide tall (Or.inr rfl) (Or.inr rfl)
  · rintro value ⟨x, y, ⟨xLow, xHigh⟩, ⟨yLow, yHigh⟩, rfl⟩
    obtain ⟨xCorner, xEnd, xLe⟩ := end_le_mul p w x xLow xHigh
    obtain ⟨yCorner, yEnd, yLe⟩ := end_le_mul q h y yLow yHigh
    refine le_trans ?_ (add_le_add xLe yLe)
    rcases xEnd with rfl | rfl <;> rcases yEnd with rfl | rfl <;> simp

theorem greatest_neg (least : IsLeast (values p q w h) extreme) :
    IsGreatest (values (-p) (-q) w h) (-extreme) := by
  constructor
  · rw [values_neg, neg_neg]
    exact least.1
  · intro value member
    exact le_neg.mpr (least.2 ((values_neg value).mp member))

theorem least_neg (greatest : IsGreatest (values p q w h) extreme) :
    IsLeast (values (-p) (-q) w h) (-extreme) := by
  constructor
  · rw [values_neg, neg_neg]
    exact greatest.1
  · intro value member
    exact neg_le.mpr (greatest.2 ((values_neg value).mp member))

theorem corners_greatest (wide : 0 ≤ w) (tall : 0 ≤ h) :
    IsGreatest (values p q w h)
      (max (max (max (p * 0 + q * 0) (p * w + q * 0)) (p * 0 + q * h)) (p * w + q * h)) := by
  have negated : IsLeast (values (-p) (-q) w h) _ := corners_least wide tall
  have corner (x y : Scalar) : -p * x + -q * y = -(p * x + q * y) := by ring
  have greatest := greatest_neg negated
  simpa only [corner, min_neg_neg, neg_neg] using greatest

/-- The rectangle turned over: the values of `p * x + q * (h - y)`, moved by `q * h`. -/
theorem values_turned (value : Scalar) :
    value ∈ values p (-q) w h ↔ value + q * h ∈ values p q w h := by
  constructor
  · rintro ⟨x, y, inWidth, ⟨low, high⟩, rfl⟩
    exact ⟨x, h - y, inWidth, ⟨by linarith, by linarith⟩, by ring⟩
  · rintro ⟨x, y, inWidth, ⟨low, high⟩, same⟩
    refine ⟨x, h - y, inWidth, ⟨by linarith, by linarith⟩, ?_⟩
    have moved := congrArg (· - q * h) same
    simp only [add_sub_cancel_right] at moved
    rw [moved]
    ring

theorem least_turned (least : IsLeast (values p q w h) extreme) :
    IsLeast (values p (-q) w h) (extreme - q * h) := by
  constructor
  · rw [values_turned, sub_add_cancel]
    exact least.1
  · intro value member
    exact sub_le_iff_le_add.mpr (least.2 ((values_turned value).mp member))

theorem greatest_turned (greatest : IsGreatest (values p q w h) extreme) :
    IsGreatest (values p (-q) w h) (extreme - q * h) := by
  constructor
  · rw [values_turned, sub_add_cancel]
    exact greatest.1
  · intro value member
    exact le_sub_iff_add_le.mpr (greatest.2 ((values_turned value).mp member))

end Extremes
end SaneInTheMembrane.RectangleBounds

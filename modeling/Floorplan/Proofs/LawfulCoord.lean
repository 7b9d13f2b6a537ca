import Mathlib.Algebra.Order.Field.Rat
import Mathlib.Data.Rat.Floor
import Floorplan.Coord.Rational
import Floorplan.Rect

/-!
What the geometry takes from arithmetic. The laws are those that rounding keeps: an order on the
coordinates that are numbers, sums with a length or with the slack that do not go down, and bucket
numbers that grow with the coordinate. Exact coordinates have all of them.
-/

set_option autoImplicit false

namespace Floorplan

open Coord (epsilon)

class LawfulCoord (α : Type) [Coord α] : Prop where
  -- a coordinate that is no number compares with nothing, itself included
  number_of_le : ∀ a b : α, a ≤ b → a ≤ a ∧ b ≤ b
  number_of_finite : ∀ a : α, Coord.isFinite a = true → a ≤ a
  number_of_add : ∀ a b : α, Coord.isFinite a = true → Coord.isFinite b = true → a + b ≤ a + b
  le_trans : ∀ a b c : α, a ≤ b → b ≤ c → a ≤ c
  le_total : ∀ a b : α, a ≤ a → b ≤ b → a ≤ b ∨ b ≤ a
  le_add_length : ∀ a b : α, Coord.zero ≤ b → a + b ≤ a + b → a ≤ a + b
  le_add_epsilon : ∀ a : α, a ≤ a → a ≤ a + epsilon
  cell_mono : ∀ a b c : α, Coord.zero < c → a ≤ b → Coord.floorCell (a / c) ≤ Coord.floorCell (b / c)

namespace Rational

@[simp] theorem zero_eq : (Coord.zero : Rat) = 0 := Rat.intCast_zero

theorem floor_cell_eq (x : Rat) :
    Coord.floorCell x = Number.clampInt Number.cellMin Number.cellMax ⌊x⌋ := by
  rw [Rat.floor_def']
  rfl

theorem clamp_int_mono (lo hi m n : Int) (le : m ≤ n) :
    Number.clampInt lo hi m ≤ Number.clampInt lo hi n := by
  unfold Number.clampInt
  omega

instance : LawfulCoord Rat where
  number_of_le _ _ _ := ⟨Rat.le_refl, Rat.le_refl⟩
  number_of_finite _ _ := Rat.le_refl
  number_of_add _ _ _ _ := Rat.le_refl
  le_trans _ _ _ := Rat.le_trans
  le_total _ _ _ _ := Rat.le_total
  le_add_length a b length _ := by
    rw [zero_eq] at length
    exact le_add_of_nonneg_right length
  le_add_epsilon a _ := le_add_of_nonneg_right (show (0 : Rat) ≤ 1 / 1000000000 by norm_num)
  cell_mono a b c positive le := by
    rw [zero_eq] at positive
    have divided : a / c ≤ b / c := div_le_div_of_nonneg_right le (le_of_lt positive)
    rw [floor_cell_eq, floor_cell_eq]
    exact clamp_int_mono _ _ _ _ (Int.floor_mono divided)

end Rational

namespace Rect

variable {α : Type} [Coord α]

structure Sized (r : Rect α) : Prop where
  finite_x : Coord.isFinite r.x = true
  finite_y : Coord.isFinite r.y = true
  finite_width : Coord.isFinite r.width = true
  finite_height : Coord.isFinite r.height = true
  width_nonneg : Coord.zero ≤ r.width
  height_nonneg : Coord.zero ≤ r.height

theorem overlaps_comm (r s : Rect α) : r.overlaps s = s.overlaps r := by
  unfold overlaps
  ac_rfl

theorem sized_of_nonneg (r : Rect Rat) (width : 0 ≤ r.width) (height : 0 ≤ r.height) : r.Sized where
  finite_x := BEq.rfl
  finite_y := BEq.rfl
  finite_width := BEq.rfl
  finite_height := BEq.rfl
  width_nonneg := width
  height_nonneg := height

variable [LawfulCoord α]

theorem sized_horizontal (r : Rect α) (sized : r.Sized) : r.left ≤ r.right :=
  LawfulCoord.le_add_length _ _ sized.width_nonneg
    (LawfulCoord.number_of_add _ _ sized.finite_x sized.finite_width)

theorem sized_vertical (r : Rect α) (sized : r.Sized) : r.top ≤ r.bottom :=
  LawfulCoord.le_add_length _ _ sized.height_nonneg
    (LawfulCoord.number_of_add _ _ sized.finite_y sized.finite_height)

theorem le_of_beyond_slack (a b : α) (aNumber : a ≤ a) (bNumber : b ≤ b) (beyond : ¬ a ≤ b + epsilon) :
    b ≤ a := by
  have slack := LawfulCoord.le_add_epsilon b bNumber
  rcases LawfulCoord.le_total a (b + epsilon) aNumber (LawfulCoord.number_of_le _ _ slack).2 with le | ge
  · exact absurd le beyond
  · exact LawfulCoord.le_trans _ _ _ slack ge

theorem overlaps_meet (r s : Rect α) (rSized : r.Sized) (sSized : s.Sized) (overlap : r.overlaps s = true) :
    (r.left ≤ s.right ∧ s.left ≤ r.right) ∧ (r.top ≤ s.bottom ∧ s.top ≤ r.bottom) := by
  simp only [overlaps, Bool.not_eq_true', Bool.or_eq_false_iff, decide_eq_false_iff_not] at overlap
  obtain ⟨⟨⟨rs, sr⟩, rsDown⟩, srDown⟩ := overlap
  have rx := LawfulCoord.number_of_le _ _ (sized_horizontal r rSized)
  have sx := LawfulCoord.number_of_le _ _ (sized_horizontal s sSized)
  have ry := LawfulCoord.number_of_le _ _ (sized_vertical r rSized)
  have sy := LawfulCoord.number_of_le _ _ (sized_vertical s sSized)
  exact ⟨⟨le_of_beyond_slack _ _ sx.2 rx.1 sr, le_of_beyond_slack _ _ rx.2 sx.1 rs⟩,
    le_of_beyond_slack _ _ sy.2 ry.1 srDown, le_of_beyond_slack _ _ ry.2 sy.1 rsDown⟩

end Rect

end Floorplan

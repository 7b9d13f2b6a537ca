import Mathlib.Tactic.Linarith
import Mathlib.Tactic.NormNum
import Floorplan.Proofs.LawfulCoord
import Floorplan.Wall

set_option autoImplicit false

namespace Floorplan.Rational

open Coord (epsilon)
open Floorplan.Random (Draw Rng)

@[simp] theorem of_int_eq (i : Int) : (Coord.ofInt i : Rat) = i := rfl

@[simp] theorem one_eq : (Coord.one : Rat) = 1 := Rat.intCast_one

@[simp] theorem two_eq : (Coord.two : Rat) = 2 := rfl

@[simp] theorem half_eq (x : Rat) : Coord.half x = x / 2 := rfl

theorem epsilon_eq : (epsilon : Rat) = 1 / 1000000000 := rfl

theorem epsilon_pos : (0 : Rat) < epsilon := by decide +kernel

@[simp] theorem lesser_eq (x y : Rat) : Coord.lesser x y = min x y := by
  rw [Coord.lesser, min_comm, min_def]
  simp

@[simp] theorem greater_eq (x y : Rat) : Coord.greater x y = max x y := by
  rw [Coord.greater, max_def]
  simp

@[simp] theorem abs_eq (x : Rat) : Coord.abs x = |x| := by
  change (if x < 0 then -x else x) = |x|
  split
  next negative => exact (abs_of_neg negative).symm
  next nonneg => exact (abs_of_nonneg (not_lt.mp nonneg)).symm

theorem floor_cell_whole (n : Int) :
    Coord.floorCell (n : Rat) = Number.clampInt Number.cellMin Number.cellMax n := by
  rw [floor_cell_eq, Int.floor_intCast]

theorem ceil_cell_whole (n : Int) :
    Coord.ceilCell (n : Rat) = Number.clampInt Number.cellMin Number.cellMax n := by
  change Number.clampInt Number.cellMin Number.cellMax (-(-(n : Rat).num / ((n : Rat).den : Int))) = _
  rw [Rat.num_intCast, Rat.den_intCast, Nat.cast_one, Int.ediv_one, Int.neg_neg]

theorem whole_lt_iff (m n : Int) : (m : Rat) + epsilon < n ↔ m < n := by
  rw [epsilon_eq]
  constructor
  · intro beyond
    have less : (m : Rat) < n := by linarith
    exact Int.cast_lt.mp less
  · intro less
    have step : (m : Rat) + 1 ≤ n := by exact_mod_cast less
    linarith

theorem whole_le_iff (m n : Int) : (m : Rat) ≤ n + epsilon ↔ m ≤ n := by
  rw [← not_lt, whole_lt_iff, not_lt]

theorem whole_sub_le_iff (m n : Int) : (m : Rat) - epsilon ≤ n ↔ m ≤ n := by
  rw [sub_le_iff_le_add, whole_le_iff]

theorem uniform_mem (lo hi : Rat) (proper : lo ≤ hi) (rng : Rng) :
    lo ≤ ((Coord.uniform lo hi : Draw Rat).run rng).1 ∧ ((Coord.uniform lo hi : Draw Rat).run rng).1 ≤ hi := by
  change lo ≤ ((uniform lo hi).run rng).1 ∧ ((uniform lo hi).run rng).1 ≤ hi
  rw [uniform]
  split
  next => exact ⟨le_rfl, proper⟩
  next wide =>
    -- twelve bits of the word are dropped, so what is left is at most the number of steps
    change lo ≤ lo + (hi - lo) * (((Random.Rng.longWord rng).1 >>> 12).toNat : Rat) / (steps : Rat)
      ∧ lo + (hi - lo) * (((Random.Rng.longWord rng).1 >>> 12).toNat : Rat) / (steps : Rat) ≤ hi
    generalize (Random.Rng.longWord rng).1 = word
    have bound : (word >>> 12).toNat ≤ steps := by
      have shifted : (word >>> 12).toNat = word.toNat / 2 ^ 12 := by
        rw [UInt64.toNat_shiftRight, Nat.shiftRight_eq_div_pow]
        rfl
      have size := word.toNat_lt
      rw [shifted, steps]
      omega
    have part : ((word >>> 12).toNat : Rat) ≤ (steps : Rat) := Nat.cast_le.mpr bound
    have positive : (0 : Rat) < (steps : Rat) := Nat.cast_pos.mpr (by decide)
    have low : 0 ≤ (hi - lo) * ((word >>> 12).toNat : Rat) / (steps : Rat) :=
      div_nonneg (mul_nonneg (sub_nonneg.mpr proper) (Nat.cast_nonneg _)) (le_of_lt positive)
    have high : (hi - lo) * ((word >>> 12).toNat : Rat) / (steps : Rat) ≤ hi - lo := by
      rw [div_le_iff₀ positive]
      exact mul_le_mul_of_nonneg_left part (sub_nonneg.mpr proper)
    constructor
    · linarith
    · linarith

end Floorplan.Rational

namespace Floorplan.Rect

open Coord (epsilon)

structure Solid (r : Rect Rat) : Prop where
  width : 0 < r.width
  height : 0 < r.height

theorem Solid.sized {r : Rect Rat} (solid : r.Solid) : r.Sized :=
  sized_of_nonneg r (le_of_lt solid.width) (le_of_lt solid.height)

theorem overlaps_iff (r s : Rect Rat) : r.overlaps s = true ↔
    (s.left + epsilon < r.right ∧ r.left + epsilon < s.right)
      ∧ s.top + epsilon < r.bottom ∧ r.top + epsilon < s.bottom := by
  simp only [overlaps, Bool.not_eq_true', Bool.or_eq_false_iff, decide_eq_false_iff_not, not_le, and_assoc]

theorem contains_rect_iff (r s : Rect Rat) : r.containsRect s = true ↔
    (r.left - epsilon ≤ s.left ∧ s.right ≤ r.right + epsilon)
      ∧ r.top - epsilon ≤ s.top ∧ s.bottom ≤ r.bottom + epsilon := by
  simp only [containsRect, Bool.and_eq_true, decide_eq_true_eq, and_assoc]

theorem contains_point_iff (r : Rect Rat) (p : Point Rat) : r.containsPoint p = true ↔
    (r.left ≤ p.x ∧ p.x ≤ r.right) ∧ r.top ≤ p.y ∧ p.y ≤ r.bottom := by
  simp only [containsPoint, Bool.and_eq_true, decide_eq_true_eq, and_assoc]

theorem expand_edges (r : Rect Rat) (margin : Rat) :
    (r.expand margin).left = r.left - margin ∧ (r.expand margin).right = r.right + margin
      ∧ (r.expand margin).top = r.top - margin ∧ (r.expand margin).bottom = r.bottom + margin := by
  refine ⟨rfl, ?_, rfl, ?_⟩
  · simp only [expand, right, Rational.two_eq]
    ring
  · simp only [expand, bottom, Rational.two_eq]
    ring

theorem overlaps_expand (r s : Rect Rat) (margin : Rat) (nonneg : 0 ≤ margin) (overlap : r.overlaps s = true) :
    (r.expand margin).overlaps s = true := by
  obtain ⟨left, right, top, bottom⟩ := expand_edges r margin
  obtain ⟨⟨rs, sr⟩, rsDown, srDown⟩ := (overlaps_iff r s).mp overlap
  rw [overlaps_iff, left, right, top, bottom]
  exact ⟨⟨by linarith, by linarith⟩, by linarith, by linarith⟩

theorem expand_sized (r : Rect Rat) (margin : Rat) (nonneg : 0 ≤ margin) (width : 0 ≤ r.width)
    (height : 0 ≤ r.height) : (r.expand margin).Sized := by
  apply sized_of_nonneg
  · change 0 ≤ r.width + Coord.two * margin
    rw [Rational.two_eq]
    linarith
  · change 0 ≤ r.height + Coord.two * margin
    rw [Rational.two_eq]
    linarith

end Floorplan.Rect

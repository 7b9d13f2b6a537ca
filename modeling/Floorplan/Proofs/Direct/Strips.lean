import Floorplan.DirectRoute
import Floorplan.Proofs.Contact
import Floorplan.Proofs.Mirror

set_option autoImplicit false

namespace Floorplan

open Coord (epsilon)

namespace Rect

variable (p q : Point Rat)

theorem min_add_abs (u v : Rat) : min u v + |u - v| = max u v := by
  rw [abs_sub_comm, ← max_sub_min_eq_abs, add_sub_cancel]

theorem left_of_corners : (ofCorners p q).left = min p.x q.x := Rational.lesser_eq _ _

theorem top_of_corners : (ofCorners p q).top = min p.y q.y := Rational.lesser_eq _ _

theorem right_of_corners : (ofCorners p q).right = max p.x q.x := by
  rw [← min_add_abs, ← Rational.lesser_eq, ← Rational.abs_eq]
  rfl

theorem bottom_of_corners : (ofCorners p q).bottom = max p.y q.y := by
  rw [← min_add_abs, ← Rational.lesser_eq, ← Rational.abs_eq]
  rfl

end Rect

namespace Wall

theorem outward_cases (wall : Wall) : (wall.outward : Rat) = 1 ∨ (wall.outward : Rat) = -1 := by
  cases wall <;> simp [outward]

theorem holds_point (wall side : Wall) (turn : side.facesHorizontally = !wall.facesHorizontally) (r : Rect Rat)
    (line along : Rat) (across : (side.extent r).1 ≤ line ∧ line ≤ (side.extent r).2)
    (within : (wall.extent r).1 ≤ along ∧ along ≤ (wall.extent r).2) :
    r.containsPoint (wall.pointOn line along) = true := by
  rw [Rect.contains_point_iff]
  cases wall <;> cases side <;> simp only [facesHorizontally, Bool.not_true, Bool.not_false, reduceCtorEq] at turn
  all_goals first | exact ⟨across, within⟩ | exact ⟨within, across⟩

theorem outward_square (wall : Wall) : (wall.outward : Rat) * wall.outward = 1 := by
  rcases wall.outward_cases with forward | back
  · rw [forward, one_mul]
  · rw [back, neg_mul_neg, one_mul]

theorem abs_outward (wall : Wall) : |(wall.outward : Rat)| = 1 := by
  rcases wall.outward_cases with forward | back
  · rw [forward, abs_one]
  · rw [back, abs_neg, abs_one]

@[simp] theorem outward_opposite (wall : Wall) : (wall.opposite.outward : Rat) = -wall.outward := by
  cases wall <;> simp [opposite, outward]

theorem line_extent (wall side : Wall) (turn : side.facesHorizontally = !wall.facesHorizontally) (r : Rect Rat) :
    wall.line r
      = ((side.extent r).1 + (side.extent r).2 + wall.outward * ((side.extent r).2 - (side.extent r).1)) / 2 := by
  cases wall <;> cases side <;> simp only [facesHorizontally, Bool.not_true, Bool.not_false, reduceCtorEq] at turn <;>
    simp only [line, extent, facesHorizontally, outward, Rational.of_int_eq, Rational.one_eq, Int.cast_neg,
      Int.cast_one, if_true, Bool.false_eq_true, if_false] <;> ring

theorem beyond_clear (wall : Wall) (r s : Rect Rat)
    (beyond : 0 ≤ (wall.opposite.line s - wall.line r) * wall.outward) : s.overlaps r = false := by
  have slack := Rational.epsilon_pos
  rw [Bool.eq_false_iff]
  intro overlap
  obtain ⟨⟨left, right⟩, top, bottom⟩ := (Rect.overlaps_iff s r).mp overlap
  cases wall <;> simp only [opposite, line, outward, Rational.of_int_eq, Rational.one_eq, Int.cast_neg, Int.cast_one]
    at beyond <;> linarith

theorem edge_apart (wall : Wall) (r s : Rect Rat) (line : wall.line s = wall.opposite.line r) :
    r.overlaps s = false := by
  rw [Rect.overlaps_comm]
  refine beyond_clear wall.opposite r s ?_
  rw [opposite_opposite, line, sub_self, zero_mul]

theorem edge_touches (wall : Wall) (r s : Rect Rat) (line : wall.line s = wall.opposite.line r)
    (starts : (wall.extent r).1 ≤ (wall.extent s).1) (ends : (wall.extent s).2 ≤ (wall.extent r).2)
    (wide : epsilon < (wall.extent s).2 - (wall.extent s).1) : r.touches s = true := by
  refine (Rect.touches_iff r s).mpr ⟨wall.edge_apart r s line, wall.opposite, ?_, ?_⟩
  · rw [opposite_opposite, line]
    exact near_self _
  · have proper : (wall.extent s).1 ≤ (wall.extent s).2 := by linarith [Rational.epsilon_pos]
    rwa [shared_of_faces wall.opposite wall wall.opposite_faces, shared,
      span_overlap_within _ _ _ _ starts ends proper]

end Wall

namespace Direct

def strip (wall : Wall) (start stop middle half : Rat) : Rect Rat :=
  .ofCorners (wall.pointOn start (middle - half)) (wall.pointOn stop (middle + half))

section Strip

variable (wall side : Wall) (start stop middle half : Rat)

@[simp] theorem strip_transposed :
    strip wall.transposed start stop middle half = (strip wall start stop middle half).transposed := by
  rw [strip, Wall.point_on_transposed, Wall.point_on_transposed, Rect.of_corners_transposed, strip]

theorem strip_reversed : strip wall start stop middle half = strip wall stop start middle half := by
  cases faces : wall.facesHorizontally <;>
    simp [strip, Wall.pointOn, faces, Rect.ofCorners, min_comm start stop, abs_sub_comm start stop]

theorem strip_opposite : strip wall.opposite start stop middle half = strip wall start stop middle half := by
  simp [strip, Wall.pointOn]

theorem strip_across (turn : side.facesHorizontally = !wall.facesHorizontally) :
    side.extent (strip wall start stop middle half) = (min start stop, max start stop) := by
  cases wall <;> cases side <;>
    simp only [Wall.facesHorizontally, Bool.not_true, Bool.not_false, reduceCtorEq] at turn <;>
    simp only [Wall.extent, strip, Wall.pointOn, Wall.facesHorizontally, if_true, Bool.false_eq_true, if_false,
      Rect.left_of_corners, Rect.right_of_corners, Rect.top_of_corners, Rect.bottom_of_corners]

theorem strip_lines (runs : 0 ≤ (stop - start) * wall.outward) :
    wall.opposite.line (strip wall start stop middle half) = start
      ∧ wall.line (strip wall start stop middle half) = stop := by
  have across := strip_across wall wall.transposed start stop middle half wall.transposed_faces
  have turned : wall.transposed.facesHorizontally = !wall.opposite.facesHorizontally := by
    rw [wall.opposite_faces, wall.transposed_faces]
  rw [wall.line_extent wall.transposed wall.transposed_faces, wall.opposite.line_extent wall.transposed turned, across,
    wall.outward_opposite]
  rcases wall.outward_cases with forward | back
  · rw [forward, mul_one, sub_nonneg] at runs
    rw [forward, min_eq_left runs, max_eq_right runs]
    constructor <;> ring
  · have runs : stop ≤ start := by
      rw [back] at runs
      linarith
    rw [back, min_eq_right runs, max_eq_left runs]
    constructor <;> ring

variable (half_nonneg : 0 ≤ half)

include half_nonneg

theorem strip_extent : wall.extent (strip wall start stop middle half) = (middle - half, middle + half) := by
  have low : min (middle - half) (middle + half) = middle - half := min_eq_left (by linarith)
  have high : max (middle - half) (middle + half) = middle + half := max_eq_right (by linarith)
  cases wall <;> simp only [Wall.extent, strip, Wall.pointOn, Wall.facesHorizontally, if_true, Bool.false_eq_true,
    if_false, Rect.left_of_corners, Rect.right_of_corners, Rect.top_of_corners, Rect.bottom_of_corners, low, high]

theorem strip_side (turn : wall.facesHorizontally = !side.facesHorizontally) :
    side.line (strip wall start stop middle half) = middle + side.outward * half := by
  rw [side.line_extent wall turn, strip_extent wall start stop middle half half_nonneg]
  ring

end Strip

structure Leaves (rect : Rect Rat) (door : Door Rat) (thickness : Rat) (piece : Rect Rat) : Prop where
  line : door.wall.opposite.line piece = door.wall.line rect
  wide : (door.wall.extent piece).2 - (door.wall.extent piece).1 = thickness
  middle : door.anchor = door.wall.opposite.pointAt piece (door.wall.midpoint piece)

theorem strip_leaves (rect : Rect Rat) (wall : Wall) (stop middle thickness : Rat) (nonneg : 0 ≤ thickness)
    (runs : 0 ≤ (stop - wall.line rect) * wall.outward) :
    Leaves rect { wall, anchor := wall.pointAt rect middle } thickness
      (strip wall (wall.line rect) stop middle (thickness / 2)) := by
  have lines := strip_lines wall (wall.line rect) stop middle (thickness / 2) runs
  have extent := strip_extent wall (wall.line rect) stop middle (thickness / 2) (by linarith)
  refine ⟨lines.1, ?_, ?_⟩
  · simp only [extent]
    ring
  · have centre : wall.midpoint (strip wall (wall.line rect) stop middle (thickness / 2)) = middle := by
      simp only [Wall.midpoint, extent, Rational.half_eq]
      ring
    simp [Wall.pointAt, lines.1, centre, Wall.pointOn]

end Direct

end Floorplan

import Floorplan.Proofs.Exact
import Floorplan.Proofs.Mirror

set_option autoImplicit false

namespace Floorplan

open Coord (epsilon)

theorem near_iff (u v : Rat) : near u v = true ↔ |u - v| ≤ epsilon := by
  rw [near, Rational.abs_eq, decide_eq_true_eq]

theorem near_comm (u v : Rat) : near u v = near v u := by
  rw [near, near, Rational.abs_eq, Rational.abs_eq, abs_sub_comm]

@[simp] theorem near_self (u : Rat) : near u u = true := by
  rw [near_iff, sub_self, abs_zero]
  exact le_of_lt Rational.epsilon_pos

section Span

variable (a0 a1 b0 b1 : Rat)

theorem span_overlap_eq : spanOverlap a0 a1 b0 b1 = max (min a1 b1 - max a0 b0) 0 := by
  rw [spanOverlap, Rational.greater_eq, Rational.greater_eq, Rational.lesser_eq, Rational.zero_eq]

theorem span_overlap_comm : spanOverlap a0 a1 b0 b1 = spanOverlap b0 b1 a0 a1 := by
  rw [span_overlap_eq, span_overlap_eq, min_comm, max_comm a0 b0]

theorem span_overlap_within (low : a0 ≤ b0) (high : b1 ≤ a1) (proper : b0 ≤ b1) :
    spanOverlap a0 a1 b0 b1 = b1 - b0 := by
  rw [span_overlap_eq, min_eq_right high, max_eq_right low, max_eq_left (sub_nonneg.mpr proper)]

theorem lt_span_overlap_iff (length : Rat) (nonneg : 0 ≤ length) (aLong : length < a1 - a0)
    (bLong : length < b1 - b0) : length < spanOverlap a0 a1 b0 b1 ↔ b0 + length < a1 ∧ a0 + length < b1 := by
  rw [span_overlap_eq, lt_max_iff, or_iff_left (not_lt.mpr nonneg), lt_sub_iff_add_lt, add_comm, ← lt_sub_iff_add_lt,
    max_lt_iff, lt_sub_iff_add_lt, lt_sub_iff_add_lt, lt_min_iff, lt_min_iff]
  constructor
  · exact fun both => ⟨both.2.1, both.1.2⟩
  · exact fun both => ⟨⟨by linarith, both.2⟩, both.1, by linarith⟩

theorem lt_span_overlap_common (length : Rat) (nonneg : 0 ≤ length) : length < spanOverlap a0 a1 b0 b1
    ↔ ∃ u v, (a0 ≤ u ∧ b0 ≤ u) ∧ (v ≤ a1 ∧ v ≤ b1) ∧ length < v - u := by
  rw [span_overlap_eq, lt_max_iff, or_iff_left (not_lt.mpr nonneg)]
  constructor
  · intro long
    exact ⟨max a0 b0, min a1 b1, ⟨le_max_left _ _, le_max_right _ _⟩, ⟨min_le_left _ _, min_le_right _ _⟩, long⟩
  · rintro ⟨u, v, ⟨aStart, bStart⟩, ⟨aEnd, bEnd⟩, long⟩
    exact long.trans_le (sub_le_sub (le_min aEnd bEnd) (max_le aStart bStart))

def spanGap : Rat := max (b0 - a1) (a0 - b1)

theorem apart_iff_gap (margin : Rat) : ¬ (b0 + epsilon < a1 + margin ∧ a0 - margin + epsilon < b1)
    ↔ margin - epsilon ≤ spanGap a0 a1 b0 b1 := by
  rw [spanGap, le_max_iff, not_and_or, not_lt, not_lt]
  refine or_congr ⟨fun before => ?_, fun gap => ?_⟩ ⟨fun behind => ?_, fun gap => ?_⟩ <;> linarith

end Span

namespace Wall

def shared (wall : Wall) (r s : Rect Rat) : Rat :=
  spanOverlap (wall.extent r).1 (wall.extent r).2 (wall.extent s).1 (wall.extent s).2

theorem shared_comm (wall : Wall) (r s : Rect Rat) : wall.shared r s = wall.shared s r :=
  span_overlap_comm _ _ _ _

@[simp] theorem opposite_faces (wall : Wall) : wall.opposite.facesHorizontally = wall.facesHorizontally := by
  cases wall <;> rfl

@[simp] theorem opposite_opposite (wall : Wall) : wall.opposite.opposite = wall := by cases wall <;> rfl

theorem extent_long (wall : Wall) (r : Rect Rat) (length : Rat) (wide : length < r.width) (high : length < r.height) :
    length < (wall.extent r).2 - (wall.extent r).1 := by
  cases wall <;> simpa [extent, facesHorizontally, Rect.left, Rect.right, Rect.top, Rect.bottom]

theorem shared_of_faces (wall side : Wall) (same : wall.facesHorizontally = side.facesHorizontally) (r s : Rect Rat) :
    wall.shared r s = side.shared r s := by
  simp only [shared, extent, same]

end Wall

namespace Rect

theorem overlaps_iff_shared (wall side : Wall) (turn : side.facesHorizontally = !wall.facesHorizontally)
    (r s : Rect Rat) (rLong : ∀ wall : Wall, epsilon < (wall.extent r).2 - (wall.extent r).1)
    (sLong : ∀ wall : Wall, epsilon < (wall.extent s).2 - (wall.extent s).1) :
    r.overlaps s = true ↔ epsilon < wall.shared r s ∧ epsilon < side.shared r s := by
  have nonneg := le_of_lt Rational.epsilon_pos
  rw [overlaps_iff, Wall.shared, Wall.shared,
    lt_span_overlap_iff _ _ _ _ _ nonneg (rLong wall) (sLong wall),
    lt_span_overlap_iff _ _ _ _ _ nonneg (rLong side) (sLong side)]
  cases faces : wall.facesHorizontally <;> rw [faces] at turn <;> simp only [Wall.extent, faces, turn, Bool.not_true,
    Bool.not_false, Bool.false_eq_true, if_true, if_false]
  exact and_comm

theorem touches_iff (r s : Rect Rat) : r.touches s = true ↔ r.overlaps s = false
    ∧ ∃ wall : Wall, near (wall.line r) (wall.opposite.line s) = true ∧ epsilon < wall.shared r s := by
  rw [touches, near_comm s.right, near_comm s.bottom]
  simp only [Bool.and_eq_true, Bool.or_eq_true, Bool.not_eq_true', decide_eq_true_eq]
  refine and_congr_right fun _ => ⟨?_, ?_⟩
  · rintro (⟨line | line, long⟩ | ⟨line | line, long⟩)
    · exact ⟨.right, line, long⟩
    · exact ⟨.left, line, long⟩
    · exact ⟨.bottom, line, long⟩
    · exact ⟨.top, line, long⟩
  · rintro ⟨wall, line, long⟩
    cases wall with
    | left => exact .inl ⟨.inr line, long⟩
    | right => exact .inl ⟨.inl line, long⟩
    | top => exact .inr ⟨.inr line, long⟩
    | bottom => exact .inr ⟨.inl line, long⟩

theorem touches_comm (r s : Rect Rat) : r.touches s = s.touches r := by
  have turned : ∀ r s : Rect Rat, r.touches s = true → s.touches r = true := by
    intro r s touch
    obtain ⟨apart, wall, line, long⟩ := (touches_iff r s).mp touch
    refine (touches_iff s r).mpr ⟨(overlaps_comm s r).trans apart, wall.opposite, ?_, ?_⟩
    · rw [near_comm, wall.opposite_opposite]
      exact line
    · rwa [Wall.shared_of_faces wall.opposite wall wall.opposite_faces, Wall.shared_comm]
  exact Bool.eq_iff_iff.mpr ⟨turned r s, turned s r⟩

theorem expand_clear_iff (r s : Rect Rat) (margin : Rat) : (r.expand margin).overlaps s = false
    ↔ margin - epsilon ≤ spanGap r.left r.right s.left s.right
      ∨ margin - epsilon ≤ spanGap r.top r.bottom s.top s.bottom := by
  obtain ⟨left, right, top, bottom⟩ := expand_edges r margin
  rw [Bool.eq_false_iff, ne_eq, overlaps_iff, left, right, top, bottom, not_and_or, apart_iff_gap, apart_iff_gap]

theorem overlaps_iff_common (r s : Rect Rat) (rLong : ∀ wall : Wall, epsilon < (wall.extent r).2 - (wall.extent r).1)
    (sLong : ∀ wall : Wall, epsilon < (wall.extent s).2 - (wall.extent s).1) :
    r.overlaps s = true ↔ ∃ p q : Point Rat, (r.containsPoint p = true ∧ s.containsPoint p = true)
      ∧ (r.containsPoint q = true ∧ s.containsPoint q = true) ∧ epsilon < q.x - p.x ∧ epsilon < q.y - p.y := by
  have positive := Rational.epsilon_pos
  have common := fun wall : Wall => lt_span_overlap_common (wall.extent r).1 (wall.extent r).2 (wall.extent s).1
    (wall.extent s).2 epsilon (le_of_lt positive)
  simp only [overlaps_iff_shared .top .left rfl r s rLong sLong, Wall.shared, common, contains_point_iff]
  constructor
  · rintro ⟨⟨x, x', ⟨rLeft, sLeft⟩, ⟨rRight, sRight⟩, wide⟩, y, y', ⟨rTop, sTop⟩, ⟨rBottom, sBottom⟩, high⟩
    have across : x ≤ x' := by linarith
    have down : y ≤ y' := by linarith
    exact ⟨⟨x, y⟩, ⟨x', y'⟩,
      ⟨⟨⟨rLeft, across.trans rRight⟩, rTop, down.trans rBottom⟩,
        ⟨sLeft, across.trans sRight⟩, sTop, down.trans sBottom⟩,
      ⟨⟨⟨rLeft.trans across, rRight⟩, rTop.trans down, rBottom⟩,
        ⟨sLeft.trans across, sRight⟩, sTop.trans down, sBottom⟩,
      wide, high⟩
  · rintro ⟨p, q, ⟨⟨⟨rLeft, _⟩, rTop, _⟩, ⟨sLeft, _⟩, sTop, _⟩, ⟨⟨⟨_, rRight⟩, _, rBottom⟩, ⟨_, sRight⟩, _, sBottom⟩,
      wide, high⟩
    exact ⟨⟨p.x, q.x, ⟨rLeft, sLeft⟩, ⟨rRight, sRight⟩, wide⟩, p.y, q.y, ⟨rTop, sTop⟩, ⟨rBottom, sBottom⟩, high⟩

end Rect

-- Overlapping and touching, by what rectangles longer than the slack have in common.
theorem contact_as_shared (a b : Rect Rat) (aWide : epsilon < a.width) (aHigh : epsilon < a.height)
    (bWide : epsilon < b.width) (bHigh : epsilon < b.height) :
    (a.overlaps b = true ↔ epsilon < spanOverlap a.left a.right b.left b.right
      ∧ epsilon < spanOverlap a.top a.bottom b.top b.bottom)
    ∧ (a.overlaps b = true ↔ ∃ p q : Point Rat, (a.containsPoint p = true ∧ b.containsPoint p = true)
      ∧ (a.containsPoint q = true ∧ b.containsPoint q = true) ∧ epsilon < q.x - p.x ∧ epsilon < q.y - p.y)
    ∧ (a.touches b = true ↔ a.overlaps b = false
      ∧ ∃ wall : Wall, |wall.line a - wall.opposite.line b| ≤ epsilon ∧ epsilon < wall.shared a b)
    ∧ (a.overlaps b = b.overlaps a ∧ a.touches b = b.touches a)
    ∧ ¬ (a.overlaps b = true ∧ a.touches b = true)
    ∧ (a.transposed.overlaps b.transposed = a.overlaps b ∧ a.transposed.touches b.transposed = a.touches b)
    ∧ ∀ margin, 0 ≤ margin →
      ((a.expand margin).overlaps b = false ↔ margin - epsilon ≤ spanGap a.left a.right b.left b.right
        ∨ margin - epsilon ≤ spanGap a.top a.bottom b.top b.bottom)
      ∧ ((a.expand margin).overlaps b = false → a.overlaps b = false) := by
  have aLong (wall : Wall) := wall.extent_long a epsilon aWide aHigh
  have bLong (wall : Wall) := wall.extent_long b epsilon bWide bHigh
  refine ⟨Rect.overlaps_iff_shared .top .left rfl a b aLong bLong, Rect.overlaps_iff_common a b aLong bLong, ?_,
    ⟨Rect.overlaps_comm a b, Rect.touches_comm a b⟩, ?_,
    ⟨Rect.overlaps_transposed a b, Rect.touches_transposed a b⟩, fun margin nonneg => ⟨?_, fun clear => ?_⟩⟩
  · simp only [Rect.touches_iff, near_iff]
  · rintro ⟨overlap, touch⟩
    exact absurd overlap (Bool.eq_false_iff.mp ((Rect.touches_iff a b).mp touch).1)
  · exact Rect.expand_clear_iff a b margin
  · rw [Bool.eq_false_iff] at clear ⊢
    exact fun overlap => clear (Rect.overlaps_expand a b margin nonneg overlap)

def hall : Rect Rat := ⟨0, 0, 10, 10⟩

def annex : Rect Rat := ⟨10, 2, 5, 5⟩

theorem hall_touches_annex :
    (epsilon < hall.width ∧ epsilon < hall.height ∧ epsilon < annex.width ∧ epsilon < annex.height ∧ (0 : Rat) ≤ 1)
    ∧ (hall.touches annex = true ∧ ∃ wall : Wall, |wall.line hall - wall.opposite.line annex| ≤ epsilon
      ∧ epsilon < wall.shared hall annex)
    ∧ (hall.expand 1).overlaps annex = true
    ∧ ¬ (1 - epsilon ≤ spanGap hall.left hall.right annex.left annex.right
      ∨ 1 - epsilon ≤ spanGap hall.top hall.bottom annex.top annex.bottom) := by
  have sizes : epsilon < hall.width ∧ epsilon < hall.height ∧ epsilon < annex.width ∧ epsilon < annex.height
      ∧ (0 : Rat) ≤ 1 := by
    decide +kernel
  have touch : hall.touches annex = true := by decide +kernel
  have covered : (hall.expand 1).overlaps annex = true := by decide +kernel
  obtain ⟨-, -, touching, -, -, -, clear⟩ := contact_as_shared hall annex sizes.1 sizes.2.1 sizes.2.2.1 sizes.2.2.2.1
  refine ⟨sizes, ⟨touch, (touching.mp touch).2⟩, covered, fun gap => ?_⟩
  exact Bool.eq_false_iff.mp ((clear 1 sizes.2.2.2.2).1.mpr gap) covered

end Floorplan

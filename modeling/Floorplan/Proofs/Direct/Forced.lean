import Mathlib.Algebra.Order.Group.MinMax
import Floorplan.Proofs.Direct.Joins

/-!
Forced corridors. Their corner lies at the midpoints of both walls, wherever that is, so a leg may run back into the
room that it starts from. The legs join the doors unless the square around the corner is behind the first wall and in
front of the second, where they meet in a point, or one leg is left out and the other passes its door by.
-/

set_option autoImplicit false

namespace Floorplan

open Coord (epsilon)
open Floorplan.Random (Draw Rng)

namespace Wall

theorem point_on_opposite (wall : Wall) (line along : Rat) :
    wall.opposite.pointOn line along = wall.pointOn line along := by
  simp [pointOn]

theorem midpoint_opposite (wall : Wall) (r : Rect Rat) : wall.opposite.midpoint r = wall.midpoint r := by
  rw [midpoint, midpoint, extent, extent, wall.opposite_faces]

@[simp] theorem midpoint_transposed (wall : Wall) (r : Rect Rat) : wall.transposed.midpoint r.transposed = wall.midpoint r := by
  cases wall <;> rfl

theorem midpoint_center (wall : Wall) (r : Rect Rat) :
    wall.midpoint r = if wall.facesHorizontally then r.center.y else r.center.x := by
  cases faces : wall.facesHorizontally <;> simp only [midpoint, extent, faces, Bool.false_eq_true, if_true, if_false]
  · change (r.x + (r.x + r.width)) / 2 = r.x + r.width / 2
    ring
  · change (r.y + (r.y + r.height)) / 2 = r.y + r.height / 2
    ring

theorem sideways_toward (d : Rat) : (sideways d).facesHorizontally = true ∧ 0 ≤ d * (sideways d).outward := by
  rw [sideways, Rational.zero_eq]
  rcases le_or_gt 0 d with ahead | back
  · rw [if_pos ahead]
    exact ⟨rfl, mul_nonneg ahead (by decide)⟩
  · rw [if_neg (not_le.mpr back)]
    exact ⟨rfl, mul_nonneg_of_nonpos_of_nonpos (le_of_lt back) (by decide)⟩

theorem upright_toward (d : Rat) : (upright d).facesHorizontally = false ∧ 0 ≤ d * (upright d).outward := by
  rw [upright, Rational.zero_eq]
  rcases le_or_gt 0 d with ahead | back
  · rw [if_pos ahead]
    exact ⟨rfl, mul_nonneg ahead (by decide)⟩
  · rw [if_neg (not_le.mpr back)]
    exact ⟨rfl, mul_nonneg_of_nonpos_of_nonpos (le_of_lt back) (by decide)⟩

theorem near_point_iff (wall side : Wall) (turn : side.facesHorizontally = !wall.facesHorizontally) (r : Rect Rat)
    (line along : Rat) : (r.expand epsilon).containsPoint (wall.pointOn line along) = true ↔
      ((side.extent r).1 - epsilon ≤ line ∧ line ≤ (side.extent r).2 + epsilon)
        ∧ (wall.extent r).1 - epsilon ≤ along ∧ along ≤ (wall.extent r).2 + epsilon := by
  obtain ⟨left, right, top, bottom⟩ := r.expand_edges epsilon
  rw [Rect.contains_point_iff, left, right, top, bottom]
  cases faces : wall.facesHorizontally <;> rw [faces] at turn <;> simp only [pointOn, extent, faces, turn,
    Bool.not_true, Bool.not_false, Bool.false_eq_true, if_true, if_false]
  exact and_comm

end Wall

namespace Direct

theorem shared_to_end (start stop width : Rat) (nonneg : 0 ≤ width) :
    stop - max (min start stop) (stop - width) = max (min (stop - start) width) 0 := by
  rcases le_total start stop with ahead | behind
  · rw [min_eq_left ahead, max_eq_left (a := min (stop - start) width) (le_min (sub_nonneg.mpr ahead) nonneg)]
    rcases le_total start (stop - width) with clear | inside
    · rw [max_eq_right clear, min_eq_right (by linarith), sub_sub_cancel]
    · rw [max_eq_left inside, min_eq_left (by linarith)]
  · rw [min_eq_right behind, max_eq_left (sub_le_self stop nonneg), sub_self,
      max_eq_right (min_le_of_left_le (sub_nonpos.mpr behind))]

theorem shared_from_end (start stop width : Rat) (nonneg : 0 ≤ width) :
    min (max start stop) (stop + width) - stop = max (min (start - stop) width) 0 := by
  have mirrored := shared_to_end (-start) (-stop) width nonneg
  rw [min_neg_neg, ← neg_add' stop width, max_neg_neg, neg_sub_neg, neg_sub_neg] at mirrored
  exact mirrored

section Run

variable (wall : Wall) (start middle half : Rat)

theorem run_length : max start (middle + wall.outward * half) - min start (middle + wall.outward * half)
    = |reach wall start middle half| := by
  rw [max_sub_min_eq_abs, reach]
  rcases wall.outward_cases with forward | back
  · rw [forward, one_mul, mul_one]
    congr 1
    ring
  · rw [back, abs_sub_comm]
    congr 1
    ring

theorem run_shared (nonneg : 0 ≤ half) :
    spanOverlap (min start (middle + wall.outward * half)) (max start (middle + wall.outward * half))
      (middle - half) (middle + half) = max (min (reach wall start middle half) (2 * half)) 0 := by
  rw [span_overlap_eq, reach]
  rcases wall.outward_cases with forward | back
  · have shared := shared_to_end start (middle + half) (2 * half) (by linarith)
    rw [forward, one_mul, mul_one, min_eq_right (le_max_right _ _), show middle - half = middle + half - 2 * half by ring,
      shared, show middle - start + half = middle + half - start by ring, max_assoc, max_self]
  · have shared := shared_from_end start (middle - half) (2 * half) (by linarith)
    rw [back, neg_one_mul, ← sub_eq_add_neg, max_eq_right (min_le_right start (middle - half)),
      show middle + half = middle - half + 2 * half by ring, shared,
      show (middle - start) * -1 + half = start - (middle - half) by ring, max_assoc, max_self]

def Passes (run half : Rat) : Prop := min 0 run ≤ run - half + epsilon

theorem run_passes_iff (nonneg : 0 ≤ half) :
    (min start (middle + wall.outward * half) - epsilon ≤ middle
      ∧ middle ≤ max start (middle + wall.outward * half) + epsilon) ↔ Passes (reach wall start middle half) half := by
  have slack := Rational.epsilon_pos
  rw [Passes, reach, min_le_iff, sub_le_iff_le_add, min_le_iff, ← sub_le_iff_le_add (a := middle), le_max_iff]
  -- the run ends on one side of the middle, so only the bound on the other side says anything
  rcases wall.outward_cases with forward | back
  · rw [forward, one_mul, mul_one, and_iff_left (.inr (by linarith))]
    constructor
    · rintro (low | low)
      · exact .inl (by linarith)
      · exact .inr (by linarith)
    · rintro (low | low)
      · exact .inl (by linarith)
      · exact .inr (by linarith)
  · rw [back, neg_one_mul, mul_neg_one, and_iff_right (.inr (by linarith))]
    constructor
    · rintro (high | high)
      · exact .inl (by linarith)
      · exact .inr (by linarith)
    · rintro (low | low)
      · exact .inl (by linarith)
      · exact .inr (by linarith)
end Run

def legTo (wall : Wall) (start middle across half : Rat) : Rect Rat :=
  strip wall start (middle + wall.outward * half) across half

section Leg

variable (wall side : Wall) (start middle across half : Rat) (nonneg : 0 ≤ half)

theorem leg_across (turn : side.facesHorizontally = !wall.facesHorizontally) : side.extent (legTo wall start middle across half)
    = (min start (middle + wall.outward * half), max start (middle + wall.outward * half)) :=
  strip_across wall side _ _ across half turn

include nonneg

theorem leg_long (thick : epsilon < 2 * half) (long : epsilon < |reach wall start middle half|) (other : Wall) :
    epsilon < (other.extent (legTo wall start middle across half)).2
      - (other.extent (legTo wall start middle across half)).1 := by
  by_cases same : other.facesHorizontally = wall.facesHorizontally
  · have along : other.extent (legTo wall start middle across half) = (across - half, across + half) := by
      rw [Wall.extent, same]
      exact strip_extent wall _ _ across half nonneg
    rw [along]
    linarith
  · have turned : other.facesHorizontally = !wall.facesHorizontally := Bool.eq_not.mpr same
    rwa [leg_across wall other start middle across half turned, run_length]

theorem leg_starts (turn : side.facesHorizontally = !wall.facesHorizontally) :
    ((legTo wall start middle across half).expand epsilon).containsPoint (wall.pointOn start across) = true := by
  have slack := le_of_lt Rational.epsilon_pos
  rw [Wall.near_point_iff wall side turn, leg_across wall side start middle across half turn, legTo,
    strip_extent wall _ _ across half nonneg]
  exact ⟨⟨sub_le_iff_le_add.mpr (min_le_of_left_le (le_add_of_nonneg_right slack)),
    le_add_of_le_of_nonneg (le_max_left _ _) slack⟩, by linarith, by linarith⟩

end Leg

section Legs

variable (wall side : Wall) (start stop x y half : Rat) (nonneg : 0 ≤ half)
  (turn : side.facesHorizontally = !wall.facesHorizontally)

include nonneg turn

-- Where the other leg is left out, this one is at the line of its door, and holds the door when it passes the middle
-- of the square.
theorem leg_passes_iff (short : |reach side stop y half| ≤ epsilon) :
    ((legTo wall start x y half).expand epsilon).containsPoint (side.pointOn stop x) = true ↔
      Passes (reach wall start x half) half := by
  have turned : wall.facesHorizontally = !side.facesHorizontally := by rw [turn, Bool.not_not]
  have line : y - half - epsilon ≤ stop ∧ stop ≤ y + half + epsilon := by
    obtain ⟨low, high⟩ := abs_le.mp short
    rw [reach] at low high
    rcases side.outward_cases with forward | back
    · rw [forward] at low high
      constructor <;> linarith
    · rw [back] at low high
      constructor <;> linarith
  rw [Wall.near_point_iff side wall turned, leg_across wall side start x y half turn, legTo,
    strip_extent wall _ _ y half nonneg, and_iff_right line]
  exact run_passes_iff wall start x half nonneg

theorem legs_shared : side.shared (legTo wall start x y half) (legTo side stop y x half)
    = max (min (reach wall start x half) (2 * half)) 0 := by
  have band : side.extent (legTo side stop y x half) = (x - half, x + half) := strip_extent side _ _ x half nonneg
  rw [Wall.shared, leg_across wall side start x y half turn, band]
  exact run_shared wall start x half nonneg

theorem legs_shared_back : wall.shared (legTo wall start x y half) (legTo side stop y x half)
    = max (min (reach side stop y half) (2 * half)) 0 := by
  have turned : wall.facesHorizontally = !side.facesHorizontally := by rw [turn, Bool.not_not]
  rw [Wall.shared_comm]
  exact legs_shared side wall stop start y x half nonneg turned

variable (thick : epsilon < 2 * half)

include thick

omit nonneg turn in
theorem lt_shared_iff (run : Rat) : epsilon < max (min run (2 * half)) 0 ↔ epsilon < run := by
  rw [lt_max_iff, or_iff_left (not_lt.mpr (le_of_lt Rational.epsilon_pos)), lt_min_iff, and_iff_left thick]

theorem legs_overlap_iff (firstLong : epsilon < |reach wall start x half|)
    (secondLong : epsilon < |reach side stop y half|) :
    (legTo wall start x y half).overlaps (legTo side stop y x half) = true ↔
      epsilon < reach wall start x half ∧ epsilon < reach side stop y half := by
  have turned : wall.facesHorizontally = !side.facesHorizontally := by rw [turn, Bool.not_not]
  rw [Rect.overlaps_iff_shared wall side turn _ _ (leg_long wall start x y half nonneg thick firstLong)
      (leg_long side stop y x half nonneg thick secondLong),
    legs_shared wall side start stop x y half nonneg turn, legs_shared_back wall side start stop x y half nonneg turn,
    lt_shared_iff half thick, lt_shared_iff half thick, and_comm]

-- A leg that runs back from its line ends on the side of the square, and so on the side of the other leg.
theorem legs_touch (firstLong : epsilon < |reach wall start x half|) (back : reach wall start x half ≤ 0)
    (through : epsilon < reach side stop y half) :
    (legTo wall start x y half).touches (legTo side stop y x half) = true := by
  have secondLong : epsilon < |reach side stop y half| := lt_abs.mpr (.inl through)
  have apart : (legTo wall start x y half).overlaps (legTo side stop y x half) = false := by
    rw [Bool.eq_false_iff]
    intro overlap
    obtain ⟨ahead, -⟩ := (legs_overlap_iff wall side start stop x y half nonneg turn thick firstLong secondLong).mp overlap
    linarith [Rational.epsilon_pos]
  have turned : side.facesHorizontally = !wall.facesHorizontally := turn
  have runs : 0 ≤ (x + wall.outward * half - start) * wall.opposite.outward := by
    rw [wall.outward_opposite]
    rw [reach] at back
    linear_combination back + half * wall.outward_square
  have ends := (strip_lines wall.opposite start (x + wall.outward * half) y half runs).2
  rw [strip_opposite] at ends
  have edge : wall.line (legTo side stop y x half) = x + wall.outward * half :=
    strip_side side wall _ _ x half nonneg turned
  refine (Rect.touches_iff _ _).mpr ⟨apart, wall.opposite, ?_, ?_⟩
  · rw [wall.opposite_opposite, legTo, ends, edge]
    exact near_self _
  · rw [Wall.shared_of_faces wall.opposite wall wall.opposite_faces,
      legs_shared_back wall side start stop x y half nonneg turn, lt_shared_iff half thick]
    exact through

theorem legs_meet_iff (firstLong : epsilon < |reach wall start x half|)
    (secondLong : epsilon < |reach side stop y half|) :
    (legTo wall start x y half).overlaps (legTo side stop y x half) = true
        ∨ (legTo wall start x y half).touches (legTo side stop y x half) = true ↔
      0 < reach wall start x half ∨ 0 < reach side stop y half := by
  have turned : wall.facesHorizontally = !side.facesHorizontally := by rw [turn, Bool.not_not]
  have slack := Rational.epsilon_pos
  have overlap := legs_overlap_iff wall side start stop x y half nonneg turn thick firstLong secondLong
  have forward : ∀ run : Rat, epsilon < |run| → 0 < run → epsilon < run := fun run long ahead => by
    rwa [abs_of_pos ahead] at long
  constructor
  · rintro (area | edge)
    · exact .inl (slack.trans (overlap.mp area).1)
    · -- a shared edge is longer than the slack, and so is what one leg reaches into the square
      obtain ⟨-, other, -, long⟩ := (Rect.touches_iff _ _).mp edge
      by_cases same : other.facesHorizontally = wall.facesHorizontally
      · rw [Wall.shared_of_faces other wall same, legs_shared_back wall side start stop x y half nonneg turn,
          lt_shared_iff half thick] at long
        exact .inr (slack.trans long)
      · have beside : other.facesHorizontally = side.facesHorizontally := (Bool.eq_not.mpr same).trans turn.symm
        rw [Wall.shared_of_faces other side beside, legs_shared wall side start stop x y half nonneg turn,
          lt_shared_iff half thick] at long
        exact .inl (slack.trans long)
  · intro ahead
    by_cases first : 0 < reach wall start x half
    · by_cases second : 0 < reach side stop y half
      · exact .inl (overlap.mpr ⟨forward _ firstLong first, forward _ secondLong second⟩)
      · rw [Rect.touches_comm]
        exact .inr (legs_touch side wall stop start y x half nonneg turned thick secondLong (not_lt.mp second)
          (forward _ firstLong first))
    · have second := ahead.resolve_left first
      exact .inr (legs_touch wall side start stop x y half nonneg turn thick firstLong (not_lt.mp first)
        (forward _ secondLong second))

end Legs

-- The pieces of a corridor link its doors: both doors are on a piece, up to the slack, and pieces overlap or touch.
structure Connects (doors : Door Rat × Door Rat) (pieces : List (Rect Rat)) : Prop where
  first : ∃ piece ∈ pieces, (piece.expand epsilon).containsPoint doors.1.anchor = true
  second : ∃ piece ∈ pieces, (piece.expand epsilon).containsPoint doors.2.anchor = true
  joined : pieces.Pairwise fun p q => p.overlaps q = true ∨ p.touches q = true

-- When the legs of a corner link the doors, by how far the square around the corner reaches out of the first wall and
-- in behind the second: two legs if one of them runs into the square, one leg if it passes the middle of the square.
def Meets (half first second : Rat) : Prop :=
  if epsilon < |first| then
    if epsilon < |second| then 0 < first ∨ 0 < second else Passes first half
  else epsilon < |second| ∧ Passes second half

@[simp] theorem reach_transposed (wall : Wall) (line middle half : Rat) :
    reach wall.transposed line middle half = reach wall line middle half := by
  rw [reach, reach, wall.outward_transposed]

theorem meets_ahead (half first second : Rat) (thick : epsilon < half) (ahead : half ≤ first) :
    Meets half first second := by
  have slack := Rational.epsilon_pos
  have long : epsilon < |first| := lt_abs.mpr (.inl (by linarith))
  rw [Meets, if_pos long]
  rcases lt_or_ge epsilon |second| with otherLong | otherShort
  · rw [if_pos otherLong]
    exact .inl (by linarith)
  · rw [if_neg (not_lt.mpr otherShort), Passes]
    exact min_le_of_left_le (by linarith)

theorem not_meets_behind (half first second : Rat) (thick : epsilon < half) (behind : first ≤ 0)
    (before : second ≤ epsilon) : ¬ Meets half first second := by
  have back : ∀ run : Rat, run ≤ 0 → ¬ Passes run half := by
    intro run negative passes
    rw [Passes, min_eq_right negative] at passes
    linarith
  intro meets
  rw [Meets] at meets
  rcases lt_or_ge epsilon |second| with long | short
  · have negative : second ≤ 0 := by
      by_contra positive
      rw [abs_of_pos (not_le.mp positive)] at long
      exact absurd before (not_le.mpr long)
    rw [if_pos long] at meets
    split at meets
    · exact meets.elim (not_lt.mpr behind) (not_lt.mpr negative)
    · exact back second negative meets.2
  · rw [if_neg (not_lt.mpr short)] at meets
    split at meets
    · exact back first behind meets
    · exact absurd meets.1 (not_lt.mpr short)

section Corner

variable (a b : Rect Rat) (wallA wallB : Wall) (thickness x y : Rat)

def cornerDoors : Door Rat × Door Rat :=
  ({ wall := wallA, anchor := wallA.pointAt a y }, { wall := wallB, anchor := wallB.pointAt b x })

def firstReach : Rat := reach wallA (wallA.line a) x (thickness / 2)

def secondReach : Rat := reach wallB.opposite (wallB.line b) y (thickness / 2)

theorem second_leg_back :
    secondLeg b wallB thickness x y = legTo wallB.opposite (wallB.line b) y x (thickness / 2) := by
  rw [secondLeg, legTo, strip_opposite, wallB.outward_opposite, neg_mul, ← sub_eq_add_neg]

theorem corner_connects_iff (turn : wallB.facesHorizontally = !wallA.facesHorizontally) (thick : epsilon < thickness) :
    Connects (cornerDoors a b wallA wallB x y) (cornerLegs a b wallA wallB thickness x y) ↔
      Meets (thickness / 2) (firstReach a wallA thickness x) (secondReach b wallB thickness y) := by
  have nonneg : 0 ≤ thickness / 2 := by linarith [Rational.epsilon_pos]
  have wide : epsilon < 2 * (thickness / 2) := by linarith
  have turnBack : wallB.opposite.facesHorizontally = !wallA.facesHorizontally := by rw [wallB.opposite_faces, turn]
  have turned : wallA.facesHorizontally = !wallB.opposite.facesHorizontally := by rw [turnBack, Bool.not_not]
  have starts := leg_starts wallA wallB (wallA.line a) x y (thickness / 2) nonneg turn
  have ends := leg_starts wallB.opposite wallA (wallB.line b) y x (thickness / 2) nonneg turned
  have passes := leg_passes_iff wallA wallB.opposite (wallA.line a) (wallB.line b) x y (thickness / 2) nonneg turnBack
  have passesBack :=
    leg_passes_iff wallB.opposite wallA (wallB.line b) (wallA.line a) y x (thickness / 2) nonneg turned
  have meet := legs_meet_iff wallA wallB.opposite (wallA.line a) (wallB.line b) x y (thickness / 2) nonneg turnBack wide
  rw [Wall.point_on_opposite] at ends passes
  have legs : cornerLegs a b wallA wallB thickness x y =
      (if epsilon < |firstReach a wallA thickness x| then [legTo wallA (wallA.line a) x y (thickness / 2)] else [])
        ++ if epsilon < |secondReach b wallB thickness y| then
          [legTo wallB.opposite (wallB.line b) y x (thickness / 2)] else [] := by
    rw [cornerLegs, second_leg_back]
    rfl
  rw [legs, Meets]
  rcases lt_or_ge epsilon |firstReach a wallA thickness x| with firstLong | firstShort
  · rw [if_pos firstLong, if_pos firstLong]
    rcases lt_or_ge epsilon |secondReach b wallB thickness y| with secondLong | secondShort
    · rw [if_pos secondLong, if_pos secondLong]
      refine .trans ⟨?_, ?_⟩ (meet firstLong secondLong)
      · exact fun connects => List.rel_of_pairwise_cons connects.joined (List.mem_singleton_self _)
      · exact fun through => ⟨⟨_, by simp, starts⟩, ⟨_, by simp, ends⟩, List.pairwise_pair.mpr through⟩
    · rw [if_neg (not_lt.mpr secondShort), if_neg (not_lt.mpr secondShort)]
      refine .trans ⟨?_, ?_⟩ (passes secondShort)
      · intro connects
        obtain ⟨piece, member, near⟩ := connects.second
        rwa [List.mem_singleton.mp member] at near
      · exact fun near => ⟨⟨_, by simp, starts⟩, ⟨_, by simp, near⟩, List.pairwise_singleton _ _⟩
  · rw [if_neg (not_lt.mpr firstShort), if_neg (not_lt.mpr firstShort)]
    rcases lt_or_ge epsilon |secondReach b wallB thickness y| with secondLong | secondShort
    · rw [if_pos secondLong, and_iff_right secondLong]
      refine .trans ⟨?_, ?_⟩ (passesBack firstShort)
      · intro connects
        obtain ⟨piece, member, near⟩ := connects.first
        rwa [List.mem_singleton.mp member] at near
      · exact fun near => ⟨⟨_, by simp, near⟩, ⟨_, by simp, ends⟩, List.pairwise_singleton _ _⟩
    · rw [if_neg (not_lt.mpr secondShort)]
      constructor
      · intro connects
        obtain ⟨piece, member, -⟩ := connects.first
        cases member
      · exact fun near => absurd near.1 (not_lt.mpr secondShort)

theorem corner_legs_transposed :
    cornerLegs a.transposed b.transposed wallA.transposed wallB.transposed thickness x y
      = (cornerLegs a b wallA wallB thickness x y).map Rect.transposed := by
  simp [cornerLegs, firstLeg, secondLeg, apply_ite (List.map Rect.transposed)]

theorem forced_angle_eq (turn : wallB.facesHorizontally = !wallA.facesHorizontally) (thick : epsilon < thickness) :
    forcedAngle a b wallA wallB thickness =
      { doors := cornerDoors a b wallA wallB (wallB.midpoint b) (wallA.midpoint a)
        geometry := .segments (cornerLegs a b wallA wallB thickness (wallB.midpoint b) (wallA.midpoint a)) } := by
  have sidewaysCase : ∀ (a b : Rect Rat) (wallA wallB : Wall), wallA.facesHorizontally = true →
      wallB.facesHorizontally = false → forcedSideways thickness a b wallA wallB =
        { doors := cornerDoors a b wallA wallB (wallB.midpoint b) (wallA.midpoint a)
          geometry := .segments (cornerLegs a b wallA wallB thickness (wallB.midpoint b) (wallA.midpoint a)) } :=
    fun a b wallA wallB sideways upright =>
      congrArg (Proposal.mk _) (bend_legs a b wallA wallB thickness _ _ sideways upright thick)
  rw [forcedAngle]
  cases faces : wallA.facesHorizontally with
  | true =>
      rw [faces] at turn
      exact sidewaysCase a b wallA wallB faces turn
  | false =>
      have sideways : wallA.transposed.facesHorizontally = true := by simp [Wall.transposed_faces, faces]
      have upright : wallB.transposed.facesHorizontally = false := by simp [Wall.transposed_faces, turn, faces]
      rw [if_neg Bool.false_ne_true, sidewaysCase _ _ _ _ sideways upright]
      simp [Proposal.transposed, Geometry.transposed, cornerDoors, Door.transposed, corner_legs_transposed, Function.comp_def]

end Corner

def preferredElbow (a b : Room Rat) : Wall × Wall :=
  let across := Wall.sideways (b.center.x - a.center.x)
  let down := Wall.upright (b.center.y - a.center.y)
  if |b.center.y - a.center.y| ≤ |b.center.x - a.center.x| then (across, down.opposite) else (down, across.opposite)

theorem propose_forced_eq (a b : Room Rat) (thickness : Rat) : proposeForced a b thickness =
    some (forcedAngle a.rect b.rect (preferredElbow a b).1 (preferredElbow a b).2 thickness) := by
  rw [proposeForced, approaches, preferredElbow, Rational.abs_eq, Rational.abs_eq]
  split <;> rfl

theorem preferred_elbow_toward (a b : Room Rat) : ∃ wall side : Wall, preferredElbow a b = (wall, side.opposite)
    ∧ side.facesHorizontally = !wall.facesHorizontally
    ∧ 0 ≤ (side.midpoint b.rect - side.midpoint a.rect) * wall.outward
    ∧ 0 ≤ (wall.midpoint b.rect - wall.midpoint a.rect) * side.outward := by
  obtain ⟨sideways, across⟩ := Wall.sideways_toward (b.center.x - a.center.x)
  obtain ⟨upright, down⟩ := Wall.upright_toward (b.center.y - a.center.y)
  rw [preferredElbow]
  generalize Wall.sideways (b.center.x - a.center.x) = h at sideways across ⊢
  generalize Wall.upright (b.center.y - a.center.y) = v at upright down ⊢
  have middleH : ∀ r : Rect Rat, h.midpoint r = r.center.y := fun r => by rw [h.midpoint_center, if_pos sideways]
  have middleV : ∀ r : Rect Rat, v.midpoint r = r.center.x := fun r => by
    rw [v.midpoint_center, upright, if_neg Bool.false_ne_true]
  have turn : v.facesHorizontally = !h.facesHorizontally ∧ h.facesHorizontally = !v.facesHorizontally := by
    rw [sideways, upright]
    exact ⟨rfl, rfl⟩
  split
  · refine ⟨h, v, rfl, turn.1, ?_, ?_⟩
    · rwa [middleV, middleV]
    · rwa [middleH, middleH]
  · refine ⟨v, h, rfl, turn.2, ?_, ?_⟩
    · rwa [middleH, middleH]
    · rwa [middleV, middleV]

theorem square_ahead (wall side : Wall) (turn : side.facesHorizontally = !wall.facesHorizontally) (r s : Rect Rat)
    (solid : s.Solid) (apart : r.overlaps s = false) (half : Rat) (thick : epsilon < half)
    (toward : 0 ≤ (side.midpoint s - side.midpoint r) * wall.outward)
    (beyond : 0 ≤ (wall.midpoint s - wall.midpoint r) * side.outward)
    (long : 2 * half ≤ (wall.extent r).2 - (wall.extent r).1)
    (behind : reach wall (wall.line r) (side.midpoint s) half ≤ 0) :
    reach side (side.opposite.line s) (wall.midpoint r) half ≤ epsilon := by
  by_contra inside
  rw [not_le] at inside
  obtain ⟨width, height⟩ := solid
  have slack := Rational.epsilon_pos
  have overlap : r.overlaps s = true := by
    rw [Rect.overlaps_iff]
    cases wall <;> cases side <;> simp only [Wall.facesHorizontally, Bool.not_true, Bool.not_false, reduceCtorEq] at turn
    all_goals
      simp only [reach, Wall.midpoint, Wall.extent, Wall.line, Wall.opposite, Wall.outward, Wall.facesHorizontally,
        if_true, Bool.false_eq_true, if_false, Rational.half_eq, Rational.of_int_eq, Rational.one_eq, Int.cast_neg,
        Int.cast_one, Rect.left, Rect.right, Rect.top, Rect.bottom] at toward beyond long behind inside ⊢
      refine ⟨⟨?_, ?_⟩, ?_, ?_⟩ <;> linarith
  rw [apart] at overlap
  cases overlap

end Direct

-- The pieces link the doors when the corner is not behind the first wall, and do not when the
-- square is behind it and the rooms are apart.
theorem forced_corridors_connect_iff (context : RouteContext Rat) (a b : RoomId) (roomA roomB : Room Rat)
    (readA : context.rooms[a.index]? = some roomA) (readB : context.rooms[b.index]? = some roomB)
    (thick : epsilon < context.thickness) (rng : Rng) :
    let walls := Direct.preferredElbow roomA roomB
    let x := walls.2.midpoint roomB.rect
    let y := walls.1.midpoint roomA.rect
    let first := Direct.firstReach roomA.rect walls.1 context.thickness x
    let second := Direct.secondReach roomB.rect walls.2 context.thickness y
    let doors := Direct.cornerDoors roomA.rect roomB.rect walls.1 walls.2 x y
    ∃ pieces, (Direct.strategy.proposeForced context a b ()).run rng
        = ((some { doors, geometry := .segments pieces }, ()), rng)
      ∧ (Direct.Connects doors pieces ↔ Direct.Meets (context.thickness / 2) first second)
      ∧ (2 * epsilon < context.thickness → context.thickness / 2 ≤ first → Direct.Connects doors pieces)
      ∧ (2 * epsilon < context.thickness → roomB.rect.Solid → roomA.rect.overlaps roomB.rect = false →
          context.thickness ≤ (walls.1.extent roomA.rect).2 - (walls.1.extent roomA.rect).1 → first ≤ 0 →
          ¬ Direct.Connects doors pieces) := by
  obtain ⟨wall, side, chosen, turn, toward, beyond⟩ := Direct.preferred_elbow_toward roomA roomB
  have turned : side.opposite.facesHorizontally = !wall.facesHorizontally := by rw [side.opposite_faces, turn]
  have offer := Direct.forced_angle_eq roomA.rect roomB.rect wall side.opposite context.thickness turned thick
  have connects := Direct.corner_connects_iff roomA.rect roomB.rect wall side.opposite context.thickness
    (side.opposite.midpoint roomB.rect) (wall.midpoint roomA.rect) turned thick
  rw [chosen]
  refine ⟨_, ?_, connects, ?_, ?_⟩
  · simp only [Direct.strategy, readA, readB, Direct.propose_forced_eq, chosen, offer]
    rfl
  · intro wide ahead
    exact connects.mpr (Direct.meets_ahead _ _ _ (by linarith) ahead)
  · intro wide solid apart long behind
    refine fun linked => Direct.not_meets_behind _ _ _ (by linarith) behind ?_ (connects.mp linked)
    rw [Direct.secondReach, side.opposite_opposite]
    rw [Direct.firstReach, side.midpoint_opposite] at behind
    exact Direct.square_ahead wall side turn roomA.rect roomB.rect solid apart (context.thickness / 2) (by linarith)
      toward beyond (by linarith) behind

def besideLeft : Room Rat := .new ⟨0⟩ ⟨0, 0, 4, 10⟩

def besideRight : Room Rat := .new ⟨1⟩ ⟨10, 3, 4, 6⟩

def besideRooms : RouteContext Rat :=
  { rooms := #[besideLeft, besideRight], index := .new 4, bounds := ⟨0, 0, 16, 16⟩, thickness := 1, crossing := .forbid }

theorem beside_rooms_linked :
    let doors : Door Rat × Door Rat := ({ wall := .right, anchor := ⟨4, 5⟩ }, { wall := .top, anchor := ⟨12, 3⟩ })
    let pieces : List (Rect Rat) := [⟨4, 9 / 2, 17 / 2, 1⟩, ⟨23 / 2, 3, 1, 5 / 2⟩]
    ((Direct.strategy.proposeForced besideRooms ⟨0⟩ ⟨1⟩ ()).run (.ofSeed 7)).1.1
        = some { doors, geometry := .segments pieces }
      ∧ Direct.Connects doors pieces := by
  intro doors pieces
  have offer : ((Direct.strategy.proposeForced besideRooms ⟨0⟩ ⟨1⟩ ()).run (.ofSeed 7)).1.1
      = some { doors, geometry := .segments pieces } := by
    decide +kernel
  obtain ⟨made, forced, -, ahead, -⟩ := forced_corridors_connect_iff besideRooms ⟨0⟩ ⟨1⟩ besideLeft besideRight rfl rfl
    (by decide +kernel) (.ofSeed 7)
  have linked := ahead (by decide +kernel) (by decide +kernel)
  obtain ⟨sameDoors, sameGeometry⟩ :=
    Proposal.mk.inj (Option.some.inj ((congrArg (·.1.1) forced).symm.trans offer))
  rw [sameDoors, Geometry.segments.inj sameGeometry] at linked
  exact ⟨offer, linked⟩

-- A small room below the far end of a long one: the square lies behind the right wall, and the legs meet in its corner.
theorem square_behind_parts_legs :
    let long : Rect Rat := ⟨0, 0, 40, 4⟩
    let small : Rect Rat := ⟨28, 8, 4, 4⟩
    let context : RouteContext Rat :=
      { rooms := #[.new ⟨0⟩ long, .new ⟨1⟩ small], index := .new 4, bounds := ⟨0, 0, 50, 20⟩, thickness := 2
        crossing := .forbid }
    let first : Rect Rat := ⟨31, 1, 9, 2⟩
    let second : Rect Rat := ⟨29, 3, 2, 5⟩
    long.overlaps small = false
      ∧ ((Direct.strategy.proposeForced context ⟨0⟩ ⟨1⟩ ()).run (.ofSeed 7)).1.1
        = some { doors := ({ wall := .right, anchor := ⟨40, 2⟩ }, { wall := .top, anchor := ⟨30, 8⟩ })
                 geometry := .segments [first, second] }
      ∧ first.overlaps second = false ∧ first.touches second = false := by
  decide +kernel

end Floorplan

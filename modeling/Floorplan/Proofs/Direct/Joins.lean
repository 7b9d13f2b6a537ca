import Mathlib.Tactic.LinearCombination
import Floorplan.Proofs.Direct.Strips
import Floorplan.Proofs.Door.Offers
import Floorplan.Proofs.Grid.Pairs

set_option autoImplicit false

namespace Floorplan

open Coord (epsilon)
open Floorplan.Random (Draw Rng)

namespace Rational

@[reducible] def drawnBy (uniform : Rat → Rat → Draw Rat) : Coord Rat := { (inferInstance : Coord Rat) with uniform }

def DrawsBetween (uniform : Rat → Rat → Draw Rat) : Prop :=
  ∀ lo hi, lo ≤ hi → ∀ rng, lo ≤ ((uniform lo hi).run rng).1 ∧ ((uniform lo hi).run rng).1 ≤ hi

end Rational

namespace DoorSpan

theorem drawn_mem (uniform : Rat → Rat → Draw Rat) (between : Rational.DrawsBetween uniform) (span : DoorSpan Rat)
    (proper : span.Proper) (rng : Rng) :
    span.contains ((@sample Rat (Rational.drawnBy uniform) span).run rng).1 = true := by
  cases span with
  | range lo hi => exact (contains_range lo hi _).mpr (between lo hi proper rng)
  | midpoint m => exact (contains_midpoint m m).mpr rfl

end DoorSpan

namespace Direct

theorem outside_clear (span s : DoorSpan Rat) (wall : Wall) (line half : Rat)
    (left : outside span line wall.outward half = some s) :
    s.Proper ∧ ∀ v, s.contains v = true → half ≤ (v - line) * wall.outward := by
  obtain ⟨proper, held⟩ := outside_spec span s line wall.outward half left
  refine ⟨proper, fun v inside => ?_⟩
  obtain ⟨-, above, below⟩ := held v inside
  rcases wall.outward_cases with forward | back
  · rw [forward] at above ⊢
    linarith [above one_pos]
  · rw [back] at below ⊢
    linarith [below (by norm_num)]

section Bend

variable (a b : Rect Rat) (wallA wallB : Wall) (thickness x y : Rat)

def firstLeg : Rect Rat :=
  strip wallA (wallA.line a) (x + wallA.outward * (thickness / 2)) y (thickness / 2)

def secondLeg : Rect Rat :=
  strip wallB (wallB.line b) (y - wallB.outward * (thickness / 2)) x (thickness / 2)

def elbowAt : Proposal Rat :=
  { doors := ({ wall := wallA, anchor := wallA.pointAt a y }, { wall := wallB, anchor := wallB.pointAt b x })
    geometry := .segments (firstLeg a wallA thickness x y ::
      if epsilon < (y - wallB.line b) * wallB.outward - thickness / 2 then [secondLeg b wallB thickness x y] else []) }

theorem elbow_at_transposed :
    (elbowAt a.transposed b.transposed wallA.transposed wallB.transposed thickness x y).transposed
      = elbowAt a b wallA wallB thickness x y := by
  simp only [elbowAt, firstLeg, secondLeg, Proposal.transposed, Geometry.transposed, Door.transposed,
    Wall.transposed_transposed, Wall.point_at_transposed, Wall.line_transposed, Wall.outward_transposed,
    strip_transposed, List.map_cons, Rect.transposed_transposed, Point.transposed_transposed]
  split <;> rfl

structure Clear : Prop where
  first : thickness / 2 ≤ (x - wallA.line a) * wallA.outward
  second : thickness / 2 ≤ (y - wallB.line b) * wallB.outward

def reach (wall : Wall) (line middle half : Rat) : Rat := (middle - line) * wall.outward + half

def cornerLegs : List (Rect Rat) :=
  (if epsilon < |reach wallA (wallA.line a) x (thickness / 2)| then [firstLeg a wallA thickness x y] else [])
    ++ if epsilon < |reach wallB.opposite (wallB.line b) y (thickness / 2)| then [secondLeg b wallB thickness x y]
      else []

theorem bend_legs (sideways : wallA.facesHorizontally = true) (upright : wallB.facesHorizontally = false)
    (thick : epsilon < thickness) :
    (bend a b wallA wallB { x, y } (thickness / 2)).geometry = .segments (cornerLegs a b wallA wallB thickness x y) := by
  have wide : ∀ u : Rat, |u - thickness / 2 - (u + thickness / 2)| = thickness := by
    intro u
    rw [abs_sub_comm, show u + thickness / 2 - (u - thickness / 2) = thickness by ring,
      abs_of_pos (Rational.epsilon_pos.trans thick)]
  have firstRun : |wallA.line a - (x + wallA.outward * (thickness / 2))| = |reach wallA (wallA.line a) x (thickness / 2)| := by
    have run : wallA.line a - (x + wallA.outward * (thickness / 2))
        = -reach wallA (wallA.line a) x (thickness / 2) * wallA.outward := by
      rw [reach]
      linear_combination (x - wallA.line a) * wallA.outward_square
    rw [run, abs_mul, wallA.abs_outward, mul_one, abs_neg]
  have secondRun : |y - wallB.outward * (thickness / 2) - wallB.line b|
      = |reach wallB.opposite (wallB.line b) y (thickness / 2)| := by
    have run : y - wallB.outward * (thickness / 2) - wallB.line b
        = -reach wallB.opposite (wallB.line b) y (thickness / 2) * wallB.outward := by
      rw [reach, wallB.outward_opposite]
      linear_combination -(y - wallB.line b) * wallB.outward_square
    rw [run, abs_mul, wallB.abs_outward, mul_one, abs_neg]
  have first : firstLeg a wallA thickness x y = .ofCorners { x := wallA.line a, y := y - thickness / 2 }
        { x := x + wallA.outward * (thickness / 2), y := y + thickness / 2 } := by
    simp only [firstLeg, strip, Wall.pointOn, sideways, if_true]
  have second : secondLeg b wallB thickness x y =
      .ofCorners { x := x - thickness / 2, y := y - wallB.outward * (thickness / 2) }
        { x := x + thickness / 2, y := wallB.line b } := by
    rw [secondLeg, strip_reversed]
    simp only [strip, Wall.pointOn, upright, Bool.false_eq_true, if_false]
  simp only [bend, legs, cornerLegs, List.filter_cons, List.filter_nil, Rational.abs_eq, wide, firstRun, secondRun,
    decide_eq_true thick, Bool.true_and, Bool.and_true, decide_eq_true_eq, first, second]
  split <;> split <;> rfl

theorem bend_eq (sideways : wallA.facesHorizontally = true) (upright : wallB.facesHorizontally = false)
    (thick : epsilon < thickness) (clear : Clear a b wallA wallB thickness x y) :
    bend a b wallA wallB { x, y } (thickness / 2) = elbowAt a b wallA wallB thickness x y := by
  have firstLong : epsilon < |reach wallA (wallA.line a) x (thickness / 2)| := by
    rw [lt_abs, reach]
    exact .inl (by linarith [clear.first])
  have secondLong : |reach wallB.opposite (wallB.line b) y (thickness / 2)|
      = (y - wallB.line b) * wallB.outward - thickness / 2 := by
    rw [reach, wallB.outward_opposite, abs_of_nonpos (by linarith [clear.second])]
    ring
  have legs := bend_legs a b wallA wallB thickness x y sideways upright thick
  rw [cornerLegs, if_pos firstLong, secondLong] at legs
  exact congrArg (Proposal.mk _) legs

end Bend

-- How the pieces of an approach join the doors: one piece from wall to wall, or two legs of which the second lies with
-- a whole edge on the first, or the first alone where the second would be no longer than the slack.
inductive Joins (a b : Rect Rat) (thickness : Rat) (doors : Door Rat × Door Rat) : Approach → List (Rect Rat) → Prop
  | straight (piece : Rect Rat) (opposite : doors.2.wall = doors.1.wall.opposite)
      (leaves : Leaves a doors.1 thickness piece) (enters : Leaves b doors.2 thickness piece) :
      Joins a b thickness doors (.facing doors.1.wall) [piece]
  | bent (first second : Rect Rat) (turn : doors.2.wall.facesHorizontally = !doors.1.wall.facesHorizontally)
      (leaves : Leaves a doors.1 thickness first) (enters : Leaves b doors.2 thickness second)
      (long : epsilon < (doors.2.wall.opposite.line first - doors.2.wall.line b) * doors.2.wall.outward)
      (apart : first.overlaps second = false) (touches : first.touches second = true)
      (edge : doors.2.wall.line second = doors.2.wall.opposite.line first)
      (starts : (doors.2.wall.extent first).1 ≤ (doors.2.wall.extent second).1)
      (stops : (doors.2.wall.extent second).2 ≤ (doors.2.wall.extent first).2) :
      Joins a b thickness doors (.elbow doors.1.wall doors.2.wall) [first, second]
  | short (first : Rect Rat) (turn : doors.2.wall.facesHorizontally = !doors.1.wall.facesHorizontally)
      (leaves : Leaves a doors.1 thickness first)
      (ahead : 0 ≤ (doors.2.wall.opposite.line first - doors.2.wall.line b) * doors.2.wall.outward)
      (close : (doors.2.wall.opposite.line first - doors.2.wall.line b) * doors.2.wall.outward ≤ epsilon)
      (anchor : doors.2.anchor = doors.2.wall.pointAt b doors.2.along)
      (within : first.containsPoint (doors.2.wall.pointOn (doors.2.wall.opposite.line first) doors.2.along) = true) :
      Joins a b thickness doors (.elbow doors.1.wall doors.2.wall) [first]

section Elbow

variable {a b : Rect Rat} {wallA wallB : Wall} {thickness x y : Rat} (positive : 0 < thickness)
  (clear : Clear a b wallA wallB thickness x y)

include positive clear

theorem first_leg_runs : 0 ≤ (x + wallA.outward * (thickness / 2) - wallA.line a) * wallA.outward := by
  linear_combination clear.first + positive - thickness / 2 * wallA.outward_square

omit positive in
theorem second_leg_runs : 0 ≤ (y - wallB.outward * (thickness / 2) - wallB.line b) * wallB.outward := by
  linear_combination clear.second + thickness / 2 * wallB.outward_square

theorem first_leg_leaves :
    Leaves a { wall := wallA, anchor := wallA.pointAt a y } thickness (firstLeg a wallA thickness x y) :=
  strip_leaves a wallA _ y thickness (le_of_lt positive) (first_leg_runs positive clear)

theorem second_leg_enters :
    Leaves b { wall := wallB, anchor := wallB.pointAt b x } thickness (secondLeg b wallB thickness x y) :=
  strip_leaves b wallB _ x thickness (le_of_lt positive) (second_leg_runs clear)

variable (turn : wallB.facesHorizontally = !wallA.facesHorizontally)

include turn

omit clear in
theorem first_leg_side :
    wallB.opposite.line (firstLeg a wallA thickness x y) = y - wallB.outward * (thickness / 2) := by
  have turned : wallA.facesHorizontally = !wallB.opposite.facesHorizontally := by
    rw [wallB.opposite_faces, turn, Bool.not_not]
  rw [firstLeg, strip_side wallA wallB.opposite _ _ y (thickness / 2) (by linarith) turned, wallB.outward_opposite]
  ring

omit clear in
theorem second_leg_side :
    wallA.opposite.line (secondLeg b wallB thickness x y) = x - wallA.outward * (thickness / 2) := by
  have turned : wallB.facesHorizontally = !wallA.opposite.facesHorizontally := by
    rw [wallA.opposite_faces, turn]
  rw [secondLeg, strip_side wallB wallA.opposite _ _ x (thickness / 2) (by linarith) turned, wallA.outward_opposite]
  ring

theorem first_leg_clear : (firstLeg a wallA thickness x y).overlaps a = false
    ∧ (firstLeg a wallA thickness x y).overlaps b = false := by
  refine ⟨wallA.beyond_clear a _ ?_, wallB.beyond_clear b _ ?_⟩
  · rw [(first_leg_leaves positive clear).line, sub_self, zero_mul]
  · rw [first_leg_side positive turn]
    exact second_leg_runs clear

theorem second_leg_clear : (secondLeg b wallB thickness x y).overlaps a = false
    ∧ (secondLeg b wallB thickness x y).overlaps b = false := by
  refine ⟨wallA.beyond_clear a _ ?_, wallB.beyond_clear b _ ?_⟩
  · rw [second_leg_side positive turn]
    linear_combination clear.first + thickness / 2 * wallA.outward_square
  · rw [(second_leg_enters positive clear).line, sub_self, zero_mul]

theorem legs_meet :
    let first := firstLeg a wallA thickness x y
    let second := secondLeg b wallB thickness x y
    wallB.line second = wallB.opposite.line first ∧ (wallB.extent first).1 ≤ (wallB.extent second).1
      ∧ (wallB.extent second).2 ≤ (wallB.extent first).2 := by
  intro first second
  have across : wallB.extent first = (min (wallA.line a) (x + wallA.outward * (thickness / 2)),
      max (wallA.line a) (x + wallA.outward * (thickness / 2))) :=
    strip_across wallA wallB _ _ y (thickness / 2) turn
  have ends : wallB.extent second = (x - thickness / 2, x + thickness / 2) :=
    strip_extent wallB _ _ x (thickness / 2) (by linarith)
  have away := clear.first
  refine ⟨?_, ?_⟩
  · rw [first_leg_side positive turn]
    exact (strip_lines wallB _ _ x (thickness / 2) (second_leg_runs clear)).2
  · rw [across, ends]
    rcases wallA.outward_cases with forward | back
    · rw [forward] at away ⊢
      exact ⟨min_le_of_left_le (by linarith), le_max_of_le_right (by linarith)⟩
    · rw [back] at away ⊢
      exact ⟨min_le_of_right_le (by linarith), le_max_of_le_left (by linarith)⟩

theorem first_leg_ahead :
    (firstLeg a wallA thickness x y).containsPoint
      (wallB.pointOn (wallB.opposite.line (firstLeg a wallA thickness x y)) x) = true := by
  have turned : wallA.facesHorizontally = !wallB.facesHorizontally := by
    rw [turn, Bool.not_not]
  have across : wallA.extent (firstLeg a wallA thickness x y) = (y - thickness / 2, y + thickness / 2) :=
    strip_extent wallA _ _ y (thickness / 2) (by linarith)
  have ends : wallB.extent (secondLeg b wallB thickness x y) = (x - thickness / 2, x + thickness / 2) :=
    strip_extent wallB _ _ x (thickness / 2) (by linarith)
  obtain ⟨-, starts, stops⟩ := legs_meet positive clear turn
  rw [ends] at starts stops
  refine wallB.holds_point wallA turned _ _ _ ?_ ⟨by linarith, by linarith⟩
  rw [across, first_leg_side positive turn]
  rcases wallB.outward_cases with forward | back
  · rw [forward]
    constructor <;> linarith
  · rw [back]
    constructor <;> linarith

end Elbow

theorem elbow_at_joins (a b : Rect Rat) (wallA wallB : Wall) (thickness x y : Rat)
    (turn : wallB.facesHorizontally = !wallA.facesHorizontally) (thick : epsilon < thickness)
    (clear : Clear a b wallA wallB thickness x y) (segments : List (Rect Rat))
    (pieces : (elbowAt a b wallA wallB thickness x y).geometry = .segments segments) :
    (∀ piece ∈ segments, piece.overlaps a = false ∧ piece.overlaps b = false)
      ∧ Joins a b thickness (elbowAt a b wallA wallB thickness x y).doors (.elbow wallA wallB) segments := by
  have positive : 0 < thickness := Rational.epsilon_pos.trans thick
  have gap : (wallB.opposite.line (firstLeg a wallA thickness x y) - wallB.line b) * wallB.outward
      = (y - wallB.line b) * wallB.outward - thickness / 2 := by
    rw [first_leg_side positive turn]
    linear_combination -(thickness / 2) * wallB.outward_square
  have leaves := first_leg_leaves positive clear
  have firstClear := first_leg_clear positive clear turn
  obtain rfl := Geometry.segments.inj pieces
  rw [← gap]
  by_cases long : Coord.epsilon < (wallB.opposite.line (firstLeg a wallA thickness x y) - wallB.line b) * wallB.outward
  · rw [if_pos long]
    have enters := second_leg_enters positive clear
    obtain ⟨edge, starts, stops⟩ := legs_meet positive clear turn
    have touches := wallB.edge_touches _ _ edge starts stops (by rwa [enters.wide])
    exact ⟨List.forall_mem_cons.mpr ⟨firstClear, List.forall_mem_singleton.mpr (second_leg_clear positive clear turn)⟩,
      .bent _ _ turn leaves enters long (wallB.edge_apart _ _ edge) touches edge starts stops⟩
  · rw [if_neg long]
    have ahead : 0 ≤ (wallB.opposite.line (firstLeg a wallA thickness x y) - wallB.line b) * wallB.outward := by
      rw [gap]
      exact sub_nonneg.mpr clear.second
    have along : Door.along { wall := wallB, anchor := wallB.pointAt b x } = x := by cases wallB <;> rfl
    refine ⟨List.forall_mem_singleton.mpr firstClear, .short _ turn leaves ahead (not_lt.mp long) ?_ ?_⟩
    · exact congrArg (wallB.pointAt b) along.symm
    · exact along.symm ▸ first_leg_ahead positive clear turn

section Drawn

variable {uniform : Rat → Rat → Draw Rat} {thickness : Rat} {rng : Rng} {proposal : Proposal Rat}
  {segments : List (Rect Rat)}

-- Nothing but the drawn numbers depends on how they are drawn, so the cases are those of exact coordinates.
theorem straight_joins (a b : Room Rat) (wall : Wall) (nonneg : 0 ≤ thickness)
    (drawn : ((@straight Rat (Rational.drawnBy uniform) a b wall thickness).run rng).1 = some proposal)
    (pieces : proposal.geometry = .segments segments) :
    (∀ piece ∈ segments, piece.overlaps a.rect = false ∧ piece.overlaps b.rect = false)
      ∧ Joins a.rect b.rect thickness proposal.doors (.facing wall) segments := by
  rcases @straight_cases Rat (Rational.drawnBy uniform) a b wall thickness rng proposal drawn with
    shared | ⟨ahead, span, _, rfl⟩
  · rw [@Grid.doorway_geometry Rat (Rational.drawnBy uniform) a b wall thickness rng proposal shared] at pieces
    cases pieces
  let along := ((@DoorSpan.sample Rat (Rational.drawnBy uniform) span).run rng).1
  have only : segments = [strip wall (wall.line a.rect) (wall.opposite.line b.rect) along (thickness / 2)] :=
    (Geometry.segments.inj pieces).symm
  have runs : 0 ≤ (wall.opposite.line b.rect - wall.line a.rect) * wall.outward := not_lt.mp ahead
  have back : 0 ≤ (wall.line a.rect - wall.opposite.line b.rect) * wall.opposite.outward := by
    rw [wall.outward_opposite]
    linarith
  have leaves := strip_leaves a.rect wall _ along thickness nonneg runs
  have enters := strip_leaves b.rect wall.opposite _ along thickness nonneg back
  rw [strip_opposite, strip_reversed] at enters
  rw [only]
  refine ⟨List.forall_mem_singleton.mpr ⟨wall.beyond_clear a.rect _ ?_, wall.opposite.beyond_clear b.rect _ ?_⟩,
    .straight _ rfl leaves enters⟩
  · rw [leaves.line, sub_self, zero_mul]
  · rw [enters.line, sub_self, zero_mul]

variable (between : Rational.DrawsBetween uniform) (thick : epsilon < thickness) (a b : Rect Rat) (wallA wallB : Wall)

include between thick

theorem elbow_sideways_at (sideways : wallA.facesHorizontally = true) (upright : wallB.facesHorizontally = false)
    (drawn : ((@elbowSideways Rat (Rational.drawnBy uniform) thickness a b wallA wallB).run rng).1 = some proposal) :
    ∃ x y, Clear a b wallA wallB thickness x y ∧ proposal = elbowAt a b wallA wallB thickness x y := by
  obtain ⟨across, down, rng', acrossMet, downMet, same⟩ :=
    @elbow_cases Rat (Rational.drawnBy uniform) thickness a b wallA wallB rng proposal drawn
  obtain ⟨acrossProper, acrossClear⟩ :=
    outside_clear (DoorSpan.forWall b wallB thickness) across wallA (wallA.line a) (thickness / 2) acrossMet
  obtain ⟨downProper, downClear⟩ :=
    outside_clear (DoorSpan.forWall a wallA thickness) down wallB (wallB.line b) (thickness / 2) downMet
  have clear : Clear a b wallA wallB thickness ((@DoorSpan.sample Rat (Rational.drawnBy uniform) across).run rng').1
      ((@DoorSpan.sample Rat (Rational.drawnBy uniform) down).run rng).1 :=
    ⟨acrossClear _ (across.drawn_mem uniform between acrossProper rng'),
      downClear _ (down.drawn_mem uniform between downProper rng)⟩
  exact ⟨_, _, clear, same.trans (bend_eq a b wallA wallB thickness _ _ sideways upright thick clear)⟩

theorem angled_at (turn : wallB.facesHorizontally = !wallA.facesHorizontally)
    (drawn : ((@angled Rat (Rational.drawnBy uniform) a b wallA wallB thickness).run rng).1 = some proposal) :
    ∃ x y, Clear a b wallA wallB thickness x y ∧ proposal = elbowAt a b wallA wallB thickness x y := by
  rcases @angled_cases Rat (Rational.drawnBy uniform) thickness a b wallA wallB rng proposal drawn with
    ⟨sideways, elbow⟩ | ⟨upright, mirrored, elbow, rfl⟩
  · rw [sideways] at turn
    exact elbow_sideways_at between thick a b wallA wallB sideways turn elbow
  · rw [upright] at turn
    have leaves : wallA.transposed.facesHorizontally = true := by simp [Wall.transposed_faces, upright]
    have enters : wallB.transposed.facesHorizontally = false := by simp [Wall.transposed_faces, turn]
    obtain ⟨x, y, ⟨first, second⟩, rfl⟩ := elbow_sideways_at between thick a.transposed b.transposed wallA.transposed
      wallB.transposed leaves enters elbow
    rw [Wall.line_transposed, Wall.outward_transposed] at first second
    exact ⟨x, y, ⟨first, second⟩, elbow_at_transposed a b wallA wallB thickness x y⟩

end Drawn

theorem strategy_offers {α : Type} [Coord α] (context : RouteContext α) (a b : RoomId) (roomA roomB : Room α)
    (readA : context.rooms[a.index]? = some roomA) (readB : context.rooms[b.index]? = some roomB) (attempt : Nat)
    (rng : Rng) (proposal : Proposal α)
    (offered : ((strategy.propose context a b attempt ()).run rng).1.1 = some proposal) :
    ((((approaches roomA roomB).get ⟨attempt % 4, Nat.mod_lt attempt (by decide)⟩).propose roomA roomB
      context.thickness).run rng).1 = some proposal := by
  simp only [strategy, readA, readB] at offered
  exact offered

theorem approaches_drawn_by (uniform : Rat → Rat → Draw Rat) (a b : Room Rat) :
    @approaches Rat (Rational.drawnBy uniform) a b = approaches a b := rfl

theorem approaches_turn (a b : Room Rat) (i : Fin 4) (wallA wallB : Wall)
    (chosen : (approaches a b).get i = .elbow wallA wallB) : wallB.facesHorizontally = !wallA.facesHorizontally := by
  rw [approaches] at chosen
  rcases Wall.sideways_cases (b.center.x - a.center.x) with sideways | sideways <;>
    rcases Wall.upright_cases (b.center.y - a.center.y) with upright | upright <;>
    simp only [sideways, upright] at chosen <;> split at chosen
  all_goals
    match i with
    | 0 | 1 | 2 | 3 => cases chosen <;> rfl

end Direct

-- The second leg of a bend is left out only where the first comes as near to the wall as the slack,
-- and then to the door as well.
theorem direct_corridors_join (uniform : Rat → Rat → Draw Rat) (between : Rational.DrawsBetween uniform)
    (context : RouteContext Rat) (a b : RoomId) (roomA roomB : Room Rat)
    (readA : context.rooms[a.index]? = some roomA) (readB : context.rooms[b.index]? = some roomB)
    (thick : epsilon < context.thickness) (attempt : Nat) (rng : Rng) (proposal : Proposal Rat)
    (segments : List (Rect Rat))
    (offered : (((@Direct.strategy Rat (Rational.drawnBy uniform)).propose context a b attempt ()).run rng).1.1
      = some proposal)
    (pieces : proposal.geometry = .segments segments) :
    (∀ piece ∈ segments, piece.overlaps roomA.rect = false ∧ piece.overlaps roomB.rect = false)
      ∧ Direct.Joins roomA.rect roomB.rect context.thickness proposal.doors
        ((Direct.approaches roomA roomB).get ⟨attempt % 4, Nat.mod_lt attempt (by decide)⟩) segments := by
  have chosen := @Direct.strategy_offers Rat (Rational.drawnBy uniform) context a b roomA roomB readA readB attempt rng
    proposal offered
  rw [Direct.approaches_drawn_by] at chosen
  have positive : 0 < context.thickness := Rational.epsilon_pos.trans thick
  have turn := Direct.approaches_turn roomA roomB ⟨attempt % 4, Nat.mod_lt attempt (by decide)⟩
  generalize (Direct.approaches roomA roomB).get _ = approach at chosen turn ⊢
  cases approach with
  | facing wall => exact Direct.straight_joins roomA roomB wall (le_of_lt positive) chosen pieces
  | elbow wallA wallB =>
      obtain ⟨x, y, clear, rfl⟩ :=
        Direct.angled_at between thick roomA.rect roomB.rect wallA wallB (turn wallA wallB rfl) chosen
      exact Direct.elbow_at_joins roomA.rect roomB.rect wallA wallB context.thickness x y (turn wallA wallB rfl) thick
        clear segments pieces

def cornerUpper : Room Rat := .new ⟨0⟩ ⟨0, 0, 4, 4⟩

def cornerLower : Room Rat := .new ⟨1⟩ ⟨10, 8, 4, 4⟩

def cornerRooms : RouteContext Rat :=
  { rooms := #[cornerUpper, cornerLower], index := .new 4, bounds := ⟨0, 0, 16, 16⟩, thickness := 1
    crossing := .forbid }

def middleOf (lo hi : Rat) : Draw Rat := pure ((lo + hi) / 2)

theorem corner_rooms_joined :
    let doors : Door Rat × Door Rat := ({ wall := .bottom, anchor := ⟨2, 4⟩ }, { wall := .left, anchor := ⟨10, 10⟩ })
    let first : Rect Rat := ⟨3 / 2, 4, 1, 13 / 2⟩
    let second : Rect Rat := ⟨5 / 2, 19 / 2, 15 / 2, 1⟩
    (((@Direct.strategy Rat (Rational.drawnBy middleOf)).propose cornerRooms ⟨0⟩ ⟨1⟩ 2 ()).run (.ofSeed 7)).1.1
        = some { doors, geometry := .segments [first, second] }
      ∧ (∀ piece ∈ [first, second], piece.overlaps cornerUpper.rect = false ∧ piece.overlaps cornerLower.rect = false)
      ∧ Direct.Joins cornerUpper.rect cornerLower.rect 1 doors (.elbow .bottom .left) [first, second] := by
  intro doors first second
  have between : Rational.DrawsBetween middleOf := by
    intro lo hi proper _
    constructor
    · change lo ≤ (lo + hi) / 2
      linarith
    · change (lo + hi) / 2 ≤ hi
      linarith
  have offered : (((@Direct.strategy Rat (Rational.drawnBy middleOf)).propose cornerRooms ⟨0⟩ ⟨1⟩ 2 ()).run
      (.ofSeed 7)).1.1 = some { doors, geometry := .segments [first, second] } := by
    decide +kernel
  have turn : (Direct.approaches cornerUpper cornerLower).get 2 = .elbow .bottom .left := by decide +kernel
  have joined := direct_corridors_join middleOf between cornerRooms ⟨0⟩ ⟨1⟩ cornerUpper cornerLower rfl rfl
    (by decide +kernel) 2 (.ofSeed 7) _ _ offered rfl
  exact ⟨offered, joined.1, turn ▸ joined.2⟩

end Floorplan

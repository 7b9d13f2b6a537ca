import Floorplan.DirectRoute
import Floorplan.GridRoute
import Floorplan.Proofs.Door.Margin
import Floorplan.Proofs.Route.Call

set_option autoImplicit false

namespace Floorplan

open Floorplan.Random (Draw Rng)

def Proposal.Anchored (proposal : Proposal Rat) (a b : Rect Rat) (thickness : Rat) : Prop :=
  proposal.doors.1.Anchored a thickness ∧ proposal.doors.2.Anchored b thickness

def Proposal.KeepsMargins (proposal : Proposal Rat) (a b : Room Rat) (thickness : Rat) : Prop :=
  a.admits proposal.doors.1 thickness = true ∧ b.admits proposal.doors.2 thickness = true

theorem Proposal.Anchored.keeps {proposal : Proposal Rat} {a b : Room Rat} {thickness : Rat}
    (anchored : proposal.Anchored a.rect b.rect thickness) (first : a.rect.Sized) (second : b.rect.Sized)
    (thick : 0 ≤ thickness) : proposal.KeepsMargins a b thickness :=
  ⟨anchored.1.admitted first.width_nonneg first.height_nonneg thick,
    anchored.2.admitted second.width_nonneg second.height_nonneg thick⟩

theorem Proposal.anchored_transposed (proposal : Proposal Rat) (a b : Rect Rat) (thickness : Rat)
    (anchored : proposal.Anchored a.transposed b.transposed thickness) : proposal.transposed.Anchored a b thickness :=
  ⟨Door.anchored_transposed _ _ _ anchored.1, Door.anchored_transposed _ _ _ anchored.2⟩

theorem shared_point (a b : Rect Rat) (wall : Wall) (along : Rat) (line : wall.line a = wall.opposite.line b) :
    wall.pointAt a along = wall.opposite.pointAt b along := by
  rw [Wall.pointAt, line]
  cases wall <;> rfl

theorem doorway_anchored (a b : Room Rat) (wall : Wall) (thickness : Rat) (rng : Rng) (proposal : Proposal Rat)
    (drawn : ((doorway a b wall thickness).run rng).1 = some proposal) :
    proposal.Anchored a.rect b.rect thickness := by
  rw [doorway] at drawn
  split at drawn
  next line =>
    cases met : (a.doorSpan wall thickness).intersect (b.doorSpan wall.opposite thickness) with
    | none =>
        rw [met] at drawn
        cases drawn
    | some span =>
        obtain ⟨proper, both⟩ := DoorSpan.intersect_spec _ _ span met
        have held := (both _).mp (span.sample_mem proper rng)
        rw [met] at drawn
        cases drawn
        refine ⟨Door.anchored_at _ wall thickness _ held.1, ?_⟩
        have point := shared_point a.rect b.rect wall (span.sample.run rng).1 (beq_iff_eq.mp line)
        exact ⟨_, held.2, point⟩
  next => cases drawn

namespace Direct

section Cases

variable {α : Type} [Coord α]

theorem straight_cases (a b : Room α) (wall : Wall) (thickness : α) (rng : Rng) (proposal : Proposal α)
    (drawn : ((straight a b wall thickness).run rng).1 = some proposal) :
    let start := wall.line a.rect
    let stop := wall.opposite.line b.rect
    ((doorway a b wall thickness).run rng).1 = some proposal
      ∨ ¬ (stop - start) * wall.outward < Coord.zero ∧ ∃ span,
        (a.doorSpan wall thickness).intersect (b.doorSpan wall.opposite thickness) = some span
          ∧ let along := (span.sample.run rng).1
            proposal =
              { doors := ({ wall, anchor := wall.pointAt a.rect along },
                  { wall := wall.opposite, anchor := wall.opposite.pointAt b.rect along })
                geometry := .segments [.ofCorners (wall.pointOn start (along - Coord.half thickness))
                  (wall.pointOn stop (along + Coord.half thickness))] } := by
  rw [straight] at drawn
  split at drawn
  · cases drawn
  next ahead =>
    split at drawn
    · exact .inl drawn
    · split at drawn
      · cases drawn
      next span met =>
        cases drawn
        exact .inr ⟨ahead, span, met, rfl⟩

-- An offer with a bend has its corner in the parts of the two spans that are clear of the walls.
theorem elbow_cases (thickness : α) (a b : Rect α) (wallA wallB : Wall) (rng : Rng) (proposal : Proposal α)
    (drawn : ((elbowSideways thickness a b wallA wallB).run rng).1 = some proposal) :
    ∃ across down rng',
      outside (DoorSpan.forWall b wallB thickness) (wallA.line a) wallA.outward (Coord.half thickness) = some across
        ∧ outside (DoorSpan.forWall a wallA thickness) (wallB.line b) wallB.outward (Coord.half thickness) = some down
        ∧ proposal = bend a b wallA wallB { x := (across.sample.run rng').1, y := (down.sample.run rng).1 }
          (Coord.half thickness) := by
  simp only [elbowSideways] at drawn
  split at drawn
  next across down acrossMet downMet =>
    cases drawn
    exact ⟨across, down, _, acrossMet, downMet, rfl⟩
  next => cases drawn

theorem angled_cases (thickness : α) (a b : Rect α) (wallA wallB : Wall) (rng : Rng) (proposal : Proposal α)
    (drawn : ((angled a b wallA wallB thickness).run rng).1 = some proposal) :
    (wallA.facesHorizontally = true ∧ ((elbowSideways thickness a b wallA wallB).run rng).1 = some proposal)
      ∨ wallA.facesHorizontally = false ∧ ∃ mirrored,
        ((elbowSideways thickness a.transposed b.transposed wallA.transposed wallB.transposed).run rng).1
            = some mirrored
          ∧ proposal = mirrored.transposed := by
  rw [angled] at drawn
  split at drawn
  next sideways => exact .inl ⟨sideways, drawn⟩
  next upright =>
    obtain ⟨mirrored, mirroredDrawn, same⟩ := Option.map_eq_some_iff.mp drawn
    exact .inr ⟨Bool.eq_false_iff.mpr upright, mirrored, mirroredDrawn, same.symm⟩

end Cases

theorem straight_anchored (a b : Room Rat) (wall : Wall) (thickness : Rat) (rng : Rng) (proposal : Proposal Rat)
    (drawn : ((straight a b wall thickness).run rng).1 = some proposal) :
    proposal.Anchored a.rect b.rect thickness := by
  rcases straight_cases a b wall thickness rng proposal drawn with shared | ⟨_, span, met, rfl⟩
  · exact doorway_anchored a b wall thickness rng proposal shared
  · obtain ⟨proper, both⟩ := DoorSpan.intersect_spec _ _ span met
    have held := (both _).mp (span.sample_mem proper rng)
    exact ⟨Door.anchored_at _ wall thickness _ held.1, Door.anchored_at _ wall.opposite thickness _ held.2⟩

theorem bend_anchored (a b : Rect Rat) (wallA wallB : Wall) (corner : Point Rat) (half thickness : Rat)
    (first : (DoorSpan.forWall a wallA thickness).contains corner.y = true)
    (second : (DoorSpan.forWall b wallB thickness).contains corner.x = true) :
    (bend a b wallA wallB corner half).Anchored a b thickness :=
  ⟨Door.anchored_at a wallA thickness _ first, Door.anchored_at b wallB thickness _ second⟩

theorem outside_spec (span s : DoorSpan Rat) (line sign half : Rat) (left : outside span line sign half = some s) :
    s.Proper ∧ ∀ v, s.contains v = true →
      span.contains v = true ∧ (0 < sign → line + half ≤ v) ∧ (sign ≤ 0 → v ≤ line - half) := by
  rw [outside] at left
  split at left
  next forward =>
    obtain ⟨proper, same⟩ := DoorSpan.clamp_spec span s _ _ left
    refine ⟨proper, fun v held => ⟨((same v).mp held).1, fun _ => of_decide_eq_true ((same v).mp held).2.1, ?_⟩⟩
    exact fun back => absurd forward (not_lt.mpr back)
  next back =>
    obtain ⟨proper, same⟩ := DoorSpan.clamp_spec span s _ _ left
    refine ⟨proper, fun v held => ⟨((same v).mp held).1, ?_, fun _ => of_decide_eq_true ((same v).mp held).2.2⟩⟩
    exact fun forward => absurd forward back

theorem elbow_sideways_anchored (thickness : Rat) (a b : Rect Rat) (wallA wallB : Wall) (rng : Rng)
    (proposal : Proposal Rat)
    (drawn : ((elbowSideways thickness a b wallA wallB).run rng).1 = some proposal) :
    proposal.Anchored a b thickness := by
  obtain ⟨across, down, rng', acrossMet, downMet, rfl⟩ := elbow_cases thickness a b wallA wallB rng proposal drawn
  obtain ⟨acrossProper, acrossHeld⟩ := outside_spec _ across _ _ _ acrossMet
  obtain ⟨downProper, downHeld⟩ := outside_spec _ down _ _ _ downMet
  exact bend_anchored a b wallA wallB _ _ thickness (downHeld _ (down.sample_mem downProper rng)).1
    (acrossHeld _ (across.sample_mem acrossProper rng')).1

theorem forced_sideways_anchored (thickness : Rat) (a b : Rect Rat) (wallA wallB : Wall) :
    (forcedSideways thickness a b wallA wallB).Anchored a b thickness :=
  bend_anchored a b wallA wallB _ _ thickness (DoorSpan.for_wall_midpoint a wallA thickness)
    (DoorSpan.for_wall_midpoint b wallB thickness)

theorem angled_anchored (a b : Rect Rat) (wallA wallB : Wall) (thickness : Rat) (rng : Rng)
    (proposal : Proposal Rat) (drawn : ((angled a b wallA wallB thickness).run rng).1 = some proposal) :
    proposal.Anchored a b thickness := by
  rcases angled_cases thickness a b wallA wallB rng proposal drawn with ⟨_, elbow⟩ | ⟨_, mirrored, elbow, rfl⟩
  · exact elbow_sideways_anchored thickness a b wallA wallB rng proposal elbow
  · exact mirrored.anchored_transposed a b thickness (elbow_sideways_anchored thickness _ _ _ _ rng mirrored elbow)

theorem forced_angle_anchored (a b : Rect Rat) (wallA wallB : Wall) (thickness : Rat) :
    (forcedAngle a b wallA wallB thickness).Anchored a b thickness := by
  rw [forcedAngle]
  split
  · exact forced_sideways_anchored thickness a b wallA wallB
  · exact Proposal.anchored_transposed _ a b thickness (forced_sideways_anchored thickness _ _ _ _)

theorem propose_anchored (a b : Room Rat) (thickness : Rat) (attempt : Nat) (rng : Rng) (proposal : Proposal Rat)
    (drawn : ((propose a b thickness attempt).run rng).1 = some proposal) :
    proposal.Anchored a.rect b.rect thickness := by
  rw [propose] at drawn
  generalize (approaches a b).get _ = approach at drawn
  cases approach with
  | facing wall => exact straight_anchored a b wall thickness rng proposal drawn
  | elbow wallA wallB => exact angled_anchored a.rect b.rect wallA wallB thickness rng proposal drawn

theorem propose_forced_anchored (a b : Room Rat) (thickness : Rat) (proposal : Proposal Rat)
    (made : proposeForced a b thickness = some proposal) : proposal.Anchored a.rect b.rect thickness := by
  rw [proposeForced] at made
  obtain ⟨approach, _, chosen⟩ := List.exists_of_findSome?_eq_some made
  cases approach with
  | facing wall => cases chosen
  | elbow wallA wallB =>
      cases chosen
      exact forced_angle_anchored a.rect b.rect wallA wallB thickness

end Direct

namespace Grid

theorem door_places_held (span : DoorSpan Rat) (lo hi i : Int) (along : Rat)
    (listed : (i, along) ∈ doorPlaces span lo hi) :
    span.contains along = true := by
  cases span with
  | range start stop =>
      obtain ⟨j, kept, same⟩ := List.mem_map.mp listed
      cases same
      have within := (List.mem_filter.mp kept).2
      simp only [Bool.and_eq_true, decide_eq_true_eq] at within
      exact (DoorSpan.contains_range start stop _).mpr within
  | midpoint m =>
      obtain rfl : along = m := congrArg Prod.snd (List.mem_singleton.mp listed)
      exact (DoorSpan.contains_midpoint along along).mpr rfl

theorem door_cells_anchored (raster : Raster) (crossing : CrossingPolicy) (room : Room Rat) (wall : Wall)
    (thickness : Rat) (forced : Bool) (found : DoorCell Rat)
    (listed : found ∈ doorCells raster crossing room wall thickness forced) :
    found.door.Anchored room.rect thickness := by
  rw [doorCells] at listed
  obtain ⟨⟨i, along⟩, place, rfl⟩ := List.mem_map.mp (List.mem_of_mem_filter listed)
  exact Door.anchored_at room.rect wall thickness along (door_places_held _ _ _ i along place)

theorem route_pair_doors {α : Type} [Coord α] (raster : Raster) (crossing : CrossingPolicy) (a b : Room α)
    (walls : Wall × Wall) (thickness : α) (forced : Bool) (proposal : Proposal α)
    (made : routePair raster crossing a b walls thickness forced = some proposal) :
    ∃ source ∈ doorCells raster crossing a walls.1 thickness forced,
      ∃ goal ∈ doorCells raster crossing b walls.2 thickness forced,
        ∃ path, GridPath.shortest
            { raster, crossing, forced
              goals := (doorCells raster crossing b walls.2 thickness forced).map (·.cell) }
            ((doorCells raster crossing a walls.1 thickness forced).map (·.cell)) = some path
          ∧ path.head? = some source.cell ∧ path.getLast? = some goal.cell
          ∧ proposal = { doors := (source.door, goal.door), geometry := .path path } := by
  simp only [routePair, Option.bind_eq_bind, Option.bind_eq_some_iff] at made
  obtain ⟨path, searched, source, sourceFound, goal, goalFound, same⟩ := made
  exact ⟨source, List.mem_of_find?_eq_some sourceFound, goal, List.mem_of_find?_eq_some goalFound, path, searched,
    by simpa using List.find?_some sourceFound, by simpa using List.find?_some goalFound, (Option.some.inj same).symm⟩

theorem route_pair_anchored (raster : Raster) (crossing : CrossingPolicy) (a b : Room Rat) (walls : Wall × Wall)
    (thickness : Rat) (forced : Bool) (proposal : Proposal Rat)
    (made : routePair raster crossing a b walls thickness forced = some proposal) :
    proposal.Anchored a.rect b.rect thickness := by
  obtain ⟨source, sourceListed, goal, goalListed, path, _, _, _, rfl⟩ :=
    route_pair_doors raster crossing a b walls thickness forced proposal made
  exact ⟨door_cells_anchored raster crossing a _ thickness forced source sourceListed,
    door_cells_anchored raster crossing b _ thickness forced goal goalListed⟩

theorem propose_cases {α : Type} [Coord α] (raster : Raster) (crossing : CrossingPolicy) (a b : Room α)
    (thickness : α) (attempt : Nat) (rng : Rng) (proposal : Proposal α)
    (drawn : ((propose raster crossing a b thickness attempt).run rng).1 = some proposal) :
    (∃ wall, ((doorway a b wall thickness).run rng).1 = some proposal)
      ∨ ∃ walls ∈ wallPairs a b, routePair raster crossing a b walls thickness false = some proposal := by
  simp only [propose] at drawn
  split at drawn
  · cases drawn
  · next walls read =>
      have listed : walls ∈ wallPairs a b := List.mem_of_getElem? read
      by_cases facing : walls.2 = walls.1.opposite
      · simp only [if_pos facing, draw_run_bind] at drawn
        cases shared : ((doorway a b walls.1 thickness).run rng).1 with
        | none =>
            rw [shared] at drawn
            exact .inr ⟨walls, listed, drawn⟩
        | some door =>
            rw [shared] at drawn
            cases drawn
            exact .inl ⟨walls.1, shared⟩
      · simp only [if_neg facing, draw_run_bind] at drawn
        exact .inr ⟨walls, listed, drawn⟩

theorem propose_anchored (raster : Raster) (crossing : CrossingPolicy) (a b : Room Rat) (thickness : Rat)
    (attempt : Nat) (rng : Rng) (proposal : Proposal Rat)
    (drawn : ((propose raster crossing a b thickness attempt).run rng).1 = some proposal) :
    proposal.Anchored a.rect b.rect thickness := by
  rcases propose_cases raster crossing a b thickness attempt rng proposal drawn with
    ⟨wall, shared⟩ | ⟨walls, _, made⟩
  · exact doorway_anchored a b wall thickness rng proposal shared
  · exact route_pair_anchored raster crossing a b walls thickness false proposal made

theorem propose_forced_anchored (raster : Raster) (crossing : CrossingPolicy) (a b : Room Rat) (thickness : Rat)
    (proposal : Proposal Rat) (made : proposeForced raster crossing a b thickness = some proposal) :
    proposal.Anchored a.rect b.rect thickness := by
  rw [proposeForced] at made
  obtain ⟨walls, _, chosen⟩ := List.exists_of_findSome?_eq_some made
  exact route_pair_anchored raster crossing a b walls thickness true proposal chosen

end Grid

namespace RouteBoard

def Anchors (board : RouteBoard Rat) (edge : Edge Rat) (thickness : Rat) (proposal : Proposal Rat) : Prop :=
  ∃ first second, board.rooms[edge.a.index]? = some first ∧ board.rooms[edge.b.index]? = some second
    ∧ proposal.Anchored first.rect second.rect thickness

end RouteBoard

theorem direct_anchors (rules : RouteRules Rat) (edge : Edge Rat) (board : RouteBoard Rat) :
    Serves rules Direct.strategy edge board (fun _ => True) (board.Anchors edge rules.thickness) := by
  constructor
  · intro attempt inner rng _
    refine ⟨trivial, fun proposal offered => ?_⟩
    simp only [Direct.strategy, RouteRules.context] at offered
    split at offered
    next first second firstRead secondRead =>
      exact ⟨first, second, firstRead, secondRead,
        Direct.propose_anchored first second rules.thickness attempt rng proposal offered⟩
    next => cases offered
  · intro inner rng _
    refine ⟨trivial, fun proposal offered => ?_⟩
    simp only [Direct.strategy, RouteRules.context] at offered
    split at offered
    next first second firstRead secondRead =>
      exact ⟨first, second, firstRead, secondRead,
        Direct.propose_forced_anchored first second rules.thickness proposal offered⟩
    next => cases offered

theorem grid_anchors (rules : RouteRules Rat) (crossing : CrossingPolicy) (edge : Edge Rat) (board : RouteBoard Rat) :
    Serves rules (Grid.strategy crossing) edge board (fun _ => True) (board.Anchors edge rules.thickness) := by
  constructor
  · intro attempt raster rng _
    refine ⟨trivial, fun proposal offered => ?_⟩
    simp only [Grid.strategy, RouteRules.context] at offered
    split at offered
    next first second firstRead secondRead =>
      exact ⟨first, second, firstRead, secondRead,
        Grid.propose_anchored raster crossing first second rules.thickness attempt rng proposal offered⟩
    next => cases offered
  · intro raster rng _
    refine ⟨trivial, fun proposal offered => ?_⟩
    simp only [Grid.strategy, RouteRules.context] at offered
    split at offered
    next first second firstRead secondRead =>
      exact ⟨first, second, firstRead, secondRead,
        Grid.propose_forced_anchored raster crossing first second rules.thickness proposal offered⟩
    next => cases offered

end Floorplan

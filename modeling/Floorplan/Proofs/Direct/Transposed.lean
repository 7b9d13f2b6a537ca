import Floorplan.DirectRoute
import Floorplan.Proofs.Double
import Floorplan.Proofs.Mirror

set_option autoImplicit false

namespace Floorplan

open Floorplan.Random (Draw Rng)

variable {α : Type}

@[simp] theorem Geometry.transposed_transposed (geometry : Geometry α) : geometry.transposed.transposed = geometry := by
  cases geometry with
  | segments rects =>
      simp only [transposed, List.map_map]
      exact congrArg segments (List.map_id rects)
  | path cells =>
      simp only [transposed, List.map_map]
      exact congrArg path (List.map_id cells)
  | doorway => rfl

@[simp] theorem Proposal.transposed_transposed (proposal : Proposal α) : proposal.transposed.transposed = proposal := by
  obtain ⟨doors, geometry⟩ := proposal
  simp [transposed]

def Mirrored (draw mirrored : Draw (Option (Proposal α))) : Prop :=
  mirrored = Option.map Proposal.transposed <$> draw

theorem Mirrored.symm {draw mirrored : Draw (Option (Proposal α))} (mirrors : Mirrored draw mirrored) :
    Mirrored mirrored draw := by
  have twice : Option.map Proposal.transposed ∘ Option.map Proposal.transposed = id (α := Option (Proposal α)) := by
    funext offer
    cases offer with
    | none => rfl
    | some proposal => exact congrArg some proposal.transposed_transposed
  rw [Mirrored, mirrors, ← comp_map, twice, id_map]

variable [Coord α]

theorem doorway_transposed (a b : Room α) (wall : Wall) (thickness : α) :
    Mirrored (doorway a b wall thickness) (doorway a.transposed b.transposed wall.transposed thickness) := by
  simp only [Mirrored, doorway, Room.doorSpan, Wall.opposite_transposed, Room.transposed, DoorSpan.for_wall_transposed,
    Wall.line_transposed, Wall.point_at_transposed]
  split
  · split
    · rfl
    · rfl
  · rfl

namespace Direct

theorem straight_transposed (a b : Room α) (wall : Wall) (thickness : α) :
    Mirrored (straight a b wall thickness) (straight a.transposed b.transposed wall.transposed thickness) := by
  simp only [Mirrored, straight, Room.doorSpan, Wall.opposite_transposed, Room.transposed, DoorSpan.for_wall_transposed,
    Wall.line_transposed, Wall.point_at_transposed, Wall.outward_transposed, Wall.point_on_transposed,
    Rect.of_corners_transposed]
  split
  · rfl
  · split
    · exact doorway_transposed a b wall thickness
    · split
      · rfl
      · rfl

-- A bend that leaves along y is made from the mirrored rooms, so mirroring makes and unmakes the same bend.
theorem angled_transposed (a b : Rect α) (wallA wallB : Wall) (thickness : α) :
    Mirrored (angled a b wallA wallB thickness)
      (angled a.transposed b.transposed wallA.transposed wallB.transposed thickness) := by
  have along : ∀ (a b : Rect α) (wallA wallB : Wall), wallA.facesHorizontally = true →
      Mirrored (angled a b wallA wallB thickness)
        (angled a.transposed b.transposed wallA.transposed wallB.transposed thickness) := by
    intro a b wallA wallB horizontal
    simp only [Mirrored, angled, Wall.transposed_faces, horizontal, Bool.not_true, Bool.false_eq_true, if_false, if_true,
      Rect.transposed_transposed, Wall.transposed_transposed]
    rfl
  cases horizontal : wallA.facesHorizontally with
  | true => exact along a b wallA wallB horizontal
  | false =>
      have sideways : wallA.transposed.facesHorizontally = true := by simp [Wall.transposed_faces, horizontal]
      have mirrors := along a.transposed b.transposed wallA.transposed wallB.transposed sideways
      simp only [Rect.transposed_transposed, Wall.transposed_transposed] at mirrors
      exact mirrors.symm

theorem forced_angle_transposed (a b : Rect α) (wallA wallB : Wall) (thickness : α) :
    forcedAngle a.transposed b.transposed wallA.transposed wallB.transposed thickness =
      (forcedAngle a b wallA wallB thickness).transposed := by
  rw [forcedAngle, forcedAngle, Wall.transposed_faces]
  cases wallA.facesHorizontally with
  | true => simp [Rect.transposed_transposed, Wall.transposed_transposed]
  | false => simp [Proposal.transposed_transposed]

theorem approach_transposed (approach : Approach) (a b : Room α) (thickness : α) :
    Mirrored (approach.propose a b thickness) (approach.transposed.propose a.transposed b.transposed thickness) := by
  cases approach with
  | facing wall => exact straight_transposed a b wall thickness
  | elbow wallA wallB => exact angled_transposed a.rect b.rect wallA wallB thickness

def Uneven (a b : Room α) : Prop :=
  let dx := b.center.x - a.center.x
  let dy := b.center.y - a.center.y
  Coord.abs dx ≤ Coord.abs dy ↔ ¬ Coord.abs dy ≤ Coord.abs dx

theorem approaches_transposed (a b : Room α) (uneven : Uneven a b) :
    approaches a.transposed b.transposed = (approaches a b).map Approach.transposed := by
  have uneven : Coord.abs (b.center.x - a.center.x) ≤ Coord.abs (b.center.y - a.center.y) ↔
      ¬ Coord.abs (b.center.y - a.center.y) ≤ Coord.abs (b.center.x - a.center.x) := uneven
  have sideways := Wall.upright_transposed (b.center.y - a.center.y)
  have upright := Wall.sideways_transposed (b.center.x - a.center.x)
  have first : a.transposed.center = a.center.transposed := rfl
  have second : b.transposed.center = b.center.transposed := rfl
  rw [approaches, approaches, first, second]
  simp only [Point.transposed, uneven, ← sideways, ← upright, Wall.opposite_transposed]
  by_cases wide : Coord.abs (b.center.y - a.center.y) ≤ Coord.abs (b.center.x - a.center.x)
  · rw [if_neg (not_not_intro wide), if_pos wide]
    simp [Approach.transposed]
  · rw [if_pos wide, if_neg wide]
    simp [Approach.transposed]

variable (a b : Room α) (thickness : α) (uneven : Uneven a b)

include uneven

theorem propose_transposed (attempt : Nat) :
    Mirrored (propose a b thickness attempt) (propose a.transposed b.transposed thickness attempt) := by
  have turn : ∀ i : Fin 4, (approaches a.transposed b.transposed).get i = ((approaches a b).get i).transposed := by
    intro i
    rw [approaches_transposed a b uneven]
    exact Vector.getElem_map _ _
  rw [propose, propose, turn]
  exact approach_transposed _ a b thickness

theorem propose_forced_transposed :
    proposeForced a.transposed b.transposed thickness = (proposeForced a b thickness).map Proposal.transposed := by
  rw [proposeForced, proposeForced, approaches_transposed a b uneven, Vector.toList_map, List.findSome?_map,
    List.map_findSome?]
  congr 1
  funext approach
  cases approach with
  | facing wall => rfl
  | elbow wallA wallB => exact congrArg some (forced_angle_transposed a.rect b.rect wallA wallB thickness)

omit uneven in
theorem uneven_of_numbers (a b : Room Float) (across : (b.center.x - a.center.x).isNaN = false)
    (down : (b.center.y - a.center.y).isNaN = false)
    (different : ((b.center.x - a.center.x).abs == (b.center.y - a.center.y).abs) = false) : Uneven a b :=
  Double.le_iff_not_le _ _ (Double.abs_number _ across) (Double.abs_number _ down) different

end Direct

-- To the last bit and with the same draws.
theorem direct_routing_mirrors (context image : RouteContext Float) (a b : RoomId) (first second : Room Float)
    (rooms : image.rooms = context.rooms.map Room.transposed) (thickness : image.thickness = context.thickness)
    (firstRead : context.rooms[a.index]? = some first) (secondRead : context.rooms[b.index]? = some second)
    (across : (second.center.x - first.center.x).isNaN = false)
    (down : (second.center.y - first.center.y).isNaN = false)
    (different : ((second.center.x - first.center.x).abs == (second.center.y - first.center.y).abs) = false)
    (attempt : Nat) (rng : Rng) :
    let offer := (Direct.strategy.propose context a b attempt ()).run rng
    let forced := (Direct.strategy.proposeForced context a b ()).run rng
    (Direct.strategy.propose image a b attempt ()).run rng = ((offer.1.1.map Proposal.transposed, ()), offer.2)
      ∧ (Direct.strategy.proposeForced image a b ()).run rng =
          ((forced.1.1.map Proposal.transposed, ()), forced.2) := by
  have uneven := Direct.uneven_of_numbers first second across down different
  have proposed := Direct.propose_transposed first second context.thickness uneven attempt
  have forced := Direct.propose_forced_transposed first second context.thickness uneven
  simp only [Direct.strategy, rooms, thickness, Array.getElem?_map, firstRead, secondRead, Option.map_some, forced]
  rw [proposed]
  exact ⟨rfl, rfl⟩

def sideLeft : Room Float := .new ⟨0⟩ ⟨0, 0, 4, 4⟩

def sideRight : Room Float := .new ⟨1⟩ ⟨10, 1, 4, 4⟩

def sideRooms : RouteContext Float :=
  { rooms := #[sideLeft, sideRight], index := .new 4, bounds := ⟨0, 0, 16, 16⟩, thickness := 1, crossing := .forbid }

theorem side_rooms_mirrored :
    let image := { sideRooms with rooms := sideRooms.rooms.map Room.transposed }
    ∃ proposal rng, (Direct.strategy.propose sideRooms ⟨0⟩ ⟨1⟩ 0 ()).run (.ofSeed 7) = ((some proposal, ()), rng)
      ∧ (Direct.strategy.propose image ⟨0⟩ ⟨1⟩ 0 ()).run (.ofSeed 7) = ((some proposal.transposed, ()), rng) := by
  intro image
  have across : (sideRight.center.x - sideLeft.center.x).isNaN = false := by decide +kernel
  have down : (sideRight.center.y - sideLeft.center.y).isNaN = false := by decide +kernel
  have different : ((sideRight.center.x - sideLeft.center.x).abs ==
      (sideRight.center.y - sideLeft.center.y).abs) = false := by decide +kernel
  obtain ⟨mirrors, _⟩ := direct_routing_mirrors sideRooms image ⟨0⟩ ⟨1⟩ sideLeft sideRight rfl rfl rfl rfl across down
    different 0 (.ofSeed 7)
  have offered : ((Direct.strategy.propose sideRooms ⟨0⟩ ⟨1⟩ 0 ()).run (.ofSeed 7)).1.1.isSome = true := by
    decide +kernel
  rw [mirrors]
  generalize (Direct.strategy.propose sideRooms ⟨0⟩ ⟨1⟩ 0 ()).run (.ofSeed 7) = answer at offered ⊢
  obtain ⟨⟨offer, _⟩, rng⟩ := answer
  cases offer with
  | none => cases offered
  | some proposal => exact ⟨proposal, rng, rfl, rfl⟩

end Floorplan

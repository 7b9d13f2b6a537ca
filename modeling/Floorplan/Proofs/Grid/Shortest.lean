import Floorplan.Proofs.Grid.Pairs
import Floorplan.Proofs.Words.Route

set_option autoImplicit false

namespace Floorplan

namespace Grid

open GridPath (Leads Trail Turn)

variable {α : Type} [Coord α]

theorem up_to_once (lo hi : Int) : (upTo lo hi).Nodup :=
  List.nodup_range.map fun _ _ same => Int.natCast_inj.mp (Int.add_left_cancel same)

theorem door_places_once (span : DoorSpan α) (lo hi : Int) : ((doorPlaces span lo hi).map (·.1)).Nodup := by
  cases span with
  | range start stop =>
      simp only [doorPlaces, List.map_map, Function.comp_def, List.map_id']
      exact (up_to_once lo hi).filter _
  | midpoint m => exact List.nodup_singleton _

theorem outside_cell_injective (s : CellSpan) (wall : Wall) : Function.Injective (outsideCell s wall) := by
  intro i j same
  cases wall <;> simpa [outsideCell] using same

theorem door_cells_once (raster : Raster) (crossing : CrossingPolicy) (room : Room α) (wall : Wall) (thickness : α)
    (forced : Bool) : ((doorCells raster crossing room wall thickness forced).map (·.cell)).Nodup := by
  simp only [doorCells]
  refine List.Nodup.sublist (List.filter_sublist.map _) ?_
  have places := (door_places_once (room.doorSpan wall thickness)
    (if wall.facesHorizontally then (CellSpan.ofRect room.rect).y0 else (CellSpan.ofRect room.rect).x0)
    (if wall.facesHorizontally then (CellSpan.ofRect room.rect).y1 else (CellSpan.ofRect room.rect).x1)).map
      (outside_cell_injective (CellSpan.ofRect room.rect) wall)
  simpa only [List.map_map, Function.comp_def] using places

theorem door_of_cell (raster : Raster) (crossing : CrossingPolicy) (room : Room α) (wall : Wall) (thickness : α)
    (forced : Bool) (door other : DoorCell α) (listed : door ∈ doorCells raster crossing room wall thickness forced)
    (otherListed : other ∈ doorCells raster crossing room wall thickness forced) (same : other.cell = door.cell) :
    door.door = other.door :=
  congrArg DoorCell.door
    (List.inj_on_of_nodup_map (door_cells_once raster crossing room wall thickness forced) listed otherListed same.symm)

-- The search in words answers with as few cells as any way between the walls has, or with nothing
-- where there is no way, and it ends.
theorem route_pair_shortest (raster : Raster) (framed : Words.Framed raster) (crossing : CrossingPolicy) (a b : Room α)
    (nearA : Words.Near raster a.rect) (nearB : Words.Near raster b.rect) (walls : Wall × Wall) (thickness : α)
    (forced : Bool) :
    let sources := doorCells raster crossing a walls.1 thickness forced
    let goals := doorCells raster crossing b walls.2 thickness forced
    let starts := sources.map (·.cell)
    let ends := goals.map (·.cell)
    let fits cell := raster.Passable crossing forced cell ∨ cell ∈ starts ∨ cell ∈ ends
    let problem : GridPath.Problem := { raster, crossing, forced, goals := ends }
    let box := GridPath.boxAround ends
    ∃ answer, Words.routePair? raster crossing a b walls thickness forced = some answer
      ∧ (answer = none ↔ ∀ path, ¬ Leads fits starts ends path)
      ∧ (∀ proposal, answer = some proposal → ∃ path, proposal.geometry = .path path
        ∧ Leads (fun cell => raster.Passable crossing forced cell ∧ cell ∉ ends) starts ends path
        ∧ path.Nodup
        ∧ (∀ other, Leads fits starts ends other → path.length ≤ other.length)
        ∧ (∀ source ∈ sources, path.head? = some source.cell → proposal.doors.1 = source.door)
        ∧ (∀ goal ∈ goals, path.getLast? = some goal.cell → proposal.doors.2 = goal.door)
        ∧ ∃ labels goal places,
            GridPath.run problem problem.goalPlaces box (GridPath.start problem box starts) = some (labels, goal)
              ∧ Trail labels goal places ∧ path = places.map raster.cellAt)
      ∧ WellFounded fun later earlier => Turn problem box earlier later := by
  intro sources goals starts ends fits problem box
  have onMap := door_cells_on_map raster crossing a b walls thickness forced
  refine ⟨_, Words.route_pair_answers framed crossing forced a b nearA nearB walls thickness, ?_, ?_,
    GridPath.turns_end problem box⟩
  · exact (route_pair_none_iff raster crossing a b walls thickness forced).trans
      (GridPath.shortest_none_iff problem starts onMap)
  · intro proposal made
    obtain ⟨source, sourceListed, goal, goalListed, path, searched, first, last, rfl⟩ :=
      route_pair_doors raster crossing a b walls thickness forced proposal made
    obtain ⟨labels, arrived, label, places, ran, _, _, _, trail, _, cells⟩ := GridPath.shortest_trail path searched
    have leads := GridPath.shortest_leads path searched
    have once := GridPath.shortest_once path searched
    have least := GridPath.shortest_least problem starts onMap path searched
    refine ⟨path, rfl, leads, once, least, fun other listed starts => ?_, fun other listed ends => ?_, labels, arrived,
      places, ran, trail, cells⟩
    · exact door_of_cell raster crossing a walls.1 thickness forced source other sourceListed listed
        (Option.some.inj (starts.symm.trans first))
    · exact door_of_cell raster crossing b walls.2 thickness forced goal other goalListed listed
        (Option.some.inj (ends.symm.trans last))

end Grid

def apartLeft : Room Rat := .new ⟨0⟩ ⟨-2, 0, 1, 1⟩

def apartRight : Room Rat := .new ⟨1⟩ ⟨1, 0, 1, 1⟩

def apartMap : Raster := .ofRooms (⟨-2, -1, 4, 3⟩ : Rect Rat) #[apartLeft, apartRight]

def apartPath : Proposal Rat :=
  { doors := ({ wall := .right, anchor := ⟨-1, 1 / 2⟩ }, { wall := .left, anchor := ⟨1, 1 / 2⟩ })
    geometry := .path [⟨-1, 0⟩, ⟨0, 0⟩] }

theorem apart_rooms_routed :
    Words.Framed apartMap ∧ Words.Near apartMap apartLeft.rect ∧ Words.Near apartMap apartRight.rect
      ∧ Words.routePair? apartMap .forbid apartLeft apartRight (.right, .left) 1 false = some (some apartPath) := by
  have framed : Words.Framed apartMap := by constructor <;> decide +kernel
  have nearLeft : Words.Near apartMap apartLeft.rect := by
    refine Words.Ringed.near_of_corners ⟨?_, ?_, ?_⟩ ?_ <;> first | decide +kernel | (constructor <;> decide +kernel)
  have nearRight : Words.Near apartMap apartRight.rect := by
    refine Words.Ringed.near_of_corners ⟨?_, ?_, ?_⟩ ?_ <;> first | decide +kernel | (constructor <;> decide +kernel)
  refine ⟨framed, nearLeft, nearRight, ?_⟩
  have sources : Grid.doorCells apartMap .forbid apartLeft .right (1 : Rat) false =
      [{ cell := ⟨-1, 0⟩, door := apartPath.doors.1 }] := by decide +kernel
  have goals : Grid.doorCells apartMap .forbid apartRight .left (1 : Rat) false =
      [{ cell := ⟨0, 0⟩, door := apartPath.doors.2 }] := by decide +kernel
  obtain ⟨answer, answered, none, found, _⟩ := Grid.route_pair_shortest apartMap framed .forbid apartLeft apartRight
    nearLeft nearRight (.right, .left) (1 : Rat) false
  rw [sources, goals] at none found
  have straight : ∀ between, GridPath.Leads between [⟨-1, 0⟩] [⟨0, 0⟩] [⟨-1, 0⟩, ⟨0, 0⟩] := fun between =>
    ⟨⟨_, List.mem_singleton_self _, rfl⟩, ⟨_, List.mem_singleton_self _, rfl⟩,
      .cons_cons (by simp [GridPath.Beside, GridPath.neighbours]) (.singleton _),
      fun _ inner => absurd inner List.not_mem_nil⟩
  cases answer with
  | none => exact absurd (straight _) (none.mp rfl _)
  | some proposal =>
      obtain ⟨path, geometry, leads, _, least, source, goal, _⟩ := found proposal rfl
      obtain ⟨⟨first, firstListed, starts⟩, ⟨last, lastListed, ends⟩, _, _⟩ := leads
      obtain rfl := List.mem_singleton.mp firstListed
      obtain rfl := List.mem_singleton.mp lastListed
      have doors : proposal.doors = apartPath.doors :=
        Prod.ext (source _ (List.mem_singleton_self _) starts) (goal _ (List.mem_singleton_self _) ends)
      have short : path.length ≤ 2 := least _ (straight _)
      have cells : path = [⟨-1, 0⟩, ⟨0, 0⟩] := by
        cases path with
        | nil => cases starts
        | cons head rest =>
            cases starts
            cases rest with
            | nil => cases ends
            | cons second more =>
                obtain rfl : more = [] := by simpa using short
                cases ends
                rfl
      rw [answered]
      obtain ⟨_, _⟩ := proposal
      cases doors
      cases geometry
      rw [cells]
      rfl

end Floorplan

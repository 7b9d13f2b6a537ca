import Floorplan.Proofs.Route.Call
import Floorplan.Proofs.Words.Path
import Floorplan.Words.Route

set_option autoImplicit false

namespace Floorplan.Words

open Grid (DoorCell doorPlaces wallPairs)
open Floorplan.Random (Draw Rng)

variable {α : Type} [Coord α] (raster : Raster) (crossing : CrossingPolicy) (forced : Bool)

section Sound

theorem outside_cell_sound (s : CellSpan) (wall : Wall) (i : Int) :
    Sound (outsideCell? s wall i) (Grid.outsideCell s wall i) := by
  cases wall with
  | left => exact (word_sound _).map _
  | right => exact .pure _
  | top => exact (word_sound _).map _
  | bottom => exact .pure _

theorem usable_sound (cell : Cell) :
    Sound (usable? raster crossing forced cell) (Grid.usable raster crossing forced cell) := by
  refine (state_sound raster cell).bind ?_
  rw [Grid.usable]
  cases raster.state? cell with
  | none => exact .pure false
  | some state => cases state <;> exact .pure _

theorem door_places_sound (span : DoorSpan α) (lo hi : Int) :
    Sound (doorPlaces? span lo hi) (doorPlaces span lo hi) := by
  cases span with
  | range start stop => exact .pure _
  | midpoint m => exact (word_sound (hi - 1)).map fun _ => doorPlaces (.midpoint m) lo hi

def doorCell (room : Room α) (wall : Wall) (place : Int × α) : Option (DoorCell α) :=
  let cell := Grid.outsideCell (CellSpan.ofRect room.rect) wall place.1
  if Grid.usable raster crossing forced cell then
    some { cell, door := { wall, anchor := wall.pointAt room.rect place.2 } }
  else none

theorem door_cells_eq (room : Room α) (wall : Wall) (thickness : α) :
    let s := CellSpan.ofRect room.rect
    let lo := if wall.facesHorizontally then s.y0 else s.x0
    let hi := if wall.facesHorizontally then s.y1 else s.x1
    Grid.doorCells raster crossing room wall thickness forced =
      ((doorPlaces (room.doorSpan wall thickness) lo hi).map
        (doorCell raster crossing forced room wall)).filterMap id := by
  simp only [Grid.doorCells, List.filterMap_map]
  generalize doorPlaces (room.doorSpan wall thickness) _ _ = places
  induction places with
  | nil => rfl
  | cons place rest ih =>
      rw [List.map_cons, List.filter_cons, List.filterMap_cons, ih]
      simp only [Function.comp, id, doorCell]
      split <;> rfl

theorem door_cell_sound (room : Room α) (wall : Wall) (place : Int × α) :
    Sound (doorCell? raster crossing room wall forced place) (doorCell raster crossing forced room wall place) :=
  (outside_cell_sound _ wall place.1).bind ((usable_sound raster crossing forced _).bind (.pure _))

theorem door_cells_sound (room : Room α) (wall : Wall) (thickness : α) :
    Sound (doorCells? raster crossing room wall thickness forced)
      (Grid.doorCells raster crossing room wall thickness forced) := by
  rw [door_cells_eq]
  exact (door_places_sound _ _ _).bind
    ((Sound.mapList _ (door_cell_sound raster crossing forced room wall)).bind (.pure _))

theorem route_pair_sound (a b : Room α) (walls : Wall × Wall) (thickness : α) :
    Sound (routePair? raster crossing a b walls thickness forced)
      (Grid.routePair raster crossing a b walls thickness forced) :=
  (door_cells_sound raster crossing forced a walls.1 thickness).bind
    ((door_cells_sound raster crossing forced b walls.2 thickness).bind
      ((shortest_sound _ _).bind (.pure _)))

theorem propose_sound (a b : Room α) (thickness : α) (attempt : Nat) (rng : Rng) :
    let drawn := (Grid.propose raster crossing a b thickness attempt).run rng
    let answer := (propose? raster crossing a b thickness attempt).run rng
    answer.2 = drawn.2 ∧ Sound answer.1 drawn.1 := by
  simp only [propose?, Grid.propose]
  cases (wallPairs a b)[attempt % (wallPairs a b).length]? with
  | none => exact ⟨rfl, .pure none⟩
  | some walls =>
      have routed := route_pair_sound raster crossing false a b walls thickness
      by_cases facing : walls.2 = walls.1.opposite
      · simp only [if_pos facing, draw_run_bind]
        generalize (doorway a b walls.1 thickness).run rng = drawn
        obtain ⟨shared, rng'⟩ := drawn
        cases shared with
        | none => exact ⟨rfl, routed⟩
        | some proposal => exact ⟨rfl, .pure _⟩
      · simp only [if_neg facing]
        exact ⟨rfl, routed⟩

theorem first_path_sound (a b : Room α) (thickness : α) (pairs : List (Wall × Wall)) :
    Sound (firstPath? raster crossing a b thickness pairs)
      (pairs.findSome? fun walls => Grid.routePair raster crossing a b walls thickness true) := by
  induction pairs with
  | nil => exact .pure none
  | cons walls rest ih =>
      rw [List.findSome?_cons]
      refine (route_pair_sound raster crossing true a b walls thickness).bind ?_
      cases Grid.routePair raster crossing a b walls thickness true with
      | none => exact ih
      | some proposal => exact .pure _

omit [Coord α] in
theorem mark_corridor_sound (connector : Connector α) :
    Sound (markCorridor? connector raster) (Grid.markCorridor connector raster) := by
  rw [markCorridor?, Grid.markCorridor]
  cases connector.geometry with
  | path cells => exact set_all_sound raster .corridor cells
  | segments rects => exact .pure raster
  | doorway => exact .pure raster

end Sound

section Answers

variable {raster : Raster}

theorem door_place_bounds (span : DoorSpan α) (lo hi : Int) (place : Int × α) (listed : place ∈ doorPlaces span lo hi) :
    lo ≤ place.1 ∧ place.1 ≤ max (hi - 1) lo := by
  cases span with
  | range start stop =>
      obtain ⟨i, kept, rfl⟩ := List.mem_map.mp listed
      have within := (up_to_mem lo hi i).mp (List.mem_filter.mp kept).1
      simp only
      omega
  | midpoint m =>
      obtain rfl := List.mem_singleton.mp listed
      simp only [Number.clampInt]
      omega

theorem door_places_answer (span : DoorSpan α) (lo hi : Int) (low : Number.cellMin < hi) (high : hi ≤ Number.cellMax) :
    doorPlaces? span lo hi = some (doorPlaces span lo hi) := by
  cases span with
  | range start stop => rfl
  | midpoint m =>
      rw [doorPlaces?, word_eq _ (by omega) (by omega)]
      rfl

theorem outside_cell_answers (r : Rect α) (near : Near raster r) (wall : Wall) (i : Int) (along :
    let s := CellSpan.ofRect r
    let lo := if wall.facesHorizontally then s.y0 else s.x0
    let hi := if wall.facesHorizontally then s.y1 else s.x1
    lo ≤ i ∧ i ≤ max (hi - 1) lo) :
    outsideCell? (CellSpan.ofRect r) wall i = some (Grid.outsideCell (CellSpan.ofRect r) wall i)
      ∧ InReach raster (Grid.outsideCell (CellSpan.ofRect r) wall i) := by
  obtain ⟨⟨wide, tall, left, top, right, bottom⟩, reach⟩ := near
  simp only [CellSpan.grow, Raster.ring, CellSpan.words] at left top right bottom
  constructor
  · cases wall with
    | left =>
        rw [outsideCell?, word_eq _ left (by omega)]
        rfl
    | right => rfl
    | top =>
        rw [outsideCell?, word_eq _ top (by omega)]
        rfl
    | bottom => rfl
  · apply reach
    cases wall <;> simp only [Wall.facesHorizontally, if_true, Bool.false_eq_true, if_false] at along <;>
      simp only [CellSpan.Holds, CellSpan.grow, Raster.ring, Grid.outsideCell] <;> omega

section Framed

variable (framed : Framed raster)

include framed

theorem usable_answers (crossing : CrossingPolicy) (forced : Bool) (cell : Cell) (reach : InReach raster cell) :
    usable? raster crossing forced cell = some (Grid.usable raster crossing forced cell) := by
  apply (usable_sound raster crossing forced cell).eq_some
  rw [usable?, state_answers framed.cells cell reach]
  cases raster.state? cell with
  | none => rfl
  | some state => cases state <;> rfl

theorem door_cells_answer (crossing : CrossingPolicy) (forced : Bool) (room : Room α)
    (near : Near raster room.rect) (wall : Wall) (thickness : α) :
    doorCells? raster crossing room wall thickness forced
      = some (Grid.doorCells raster crossing room wall thickness forced) := by
  have along : let s := CellSpan.ofRect room.rect
      let lo := if wall.facesHorizontally then s.y0 else s.x0
      let hi := if wall.facesHorizontally then s.y1 else s.x1
      Number.cellMin ≤ lo ∧ lo ≤ hi ∧ Number.cellMin < hi ∧ hi ≤ Number.cellMax := by
    obtain ⟨wide, tall, left, top, right, bottom⟩ := near.toRinged
    simp only [CellSpan.grow, Raster.ring, CellSpan.words] at left top right bottom
    intro s lo hi
    simp only [lo, hi, s]
    split <;> omega
  obtain ⟨least, ordered, low, high⟩ := along
  rw [door_cells_eq, doorCells?]
  simp only [Option.bind_eq_bind]
  rw [door_places_answer _ _ _ low high, Option.bind_some, map_answers _ fun place listed => ?_]
  · rfl
  · have bounds := door_place_bounds _ _ _ place listed
    obtain ⟨outside, reach⟩ := outside_cell_answers room.rect near wall place.1 bounds
    rw [doorCell?, outside]
    change (usable? raster crossing forced _).bind _ = _
    rw [usable_answers framed crossing forced _ reach]
    rfl

theorem route_pair_answers (crossing : CrossingPolicy) (forced : Bool) (a b : Room α)
    (nearA : Near raster a.rect) (nearB : Near raster b.rect) (walls : Wall × Wall) (thickness : α) :
    routePair? raster crossing a b walls thickness forced
      = some (Grid.routePair raster crossing a b walls thickness forced) := by
  have onMap (room : Room α) (wall : Wall) (cell : Cell)
      (listed : cell ∈ (Grid.doorCells raster crossing room wall thickness forced).map (·.cell)) :
      raster.span.Holds cell := by
    obtain ⟨state, read, _⟩ := Grid.door_cells_open raster crossing room wall thickness forced cell listed
    exact (raster.state_some_iff cell).mp (Option.isSome_iff_exists.mpr ⟨state, read⟩)
  rw [routePair?, door_cells_answer framed crossing forced a nearA, door_cells_answer framed crossing forced b nearB]
  simp only [Option.bind_eq_bind, Option.bind_some]
  rw [shortest_answers]
  · rfl
  · exact framed
  · exact onMap a walls.1
  · exact onMap b walls.2

theorem propose_forced_answers (crossing : CrossingPolicy) (a b : Room α) (nearA : Near raster a.rect)
    (nearB : Near raster b.rect) (thickness : α) :
    proposeForced? raster crossing a b thickness = some (Grid.proposeForced raster crossing a b thickness) := by
  rw [proposeForced?, Grid.proposeForced]
  induction wallPairs a b with
  | nil => rfl
  | cons walls rest ih =>
      rw [firstPath?, route_pair_answers framed crossing true a b nearA nearB, List.findSome?_cons]
      simp only [Option.bind_eq_bind, Option.bind_some]
      cases Grid.routePair raster crossing a b walls thickness true with
      | none => exact ih
      | some proposal => rfl

theorem propose_answers (crossing : CrossingPolicy) (a b : Room α) (nearA : Near raster a.rect)
    (nearB : Near raster b.rect) (thickness : α) (attempt : Nat) (rng : Rng) :
    let drawn := (Grid.propose raster crossing a b thickness attempt).run rng
    (propose? raster crossing a b thickness attempt).run rng = (some drawn.1, drawn.2) := by
  simp only [propose?, Grid.propose, route_pair_answers framed crossing false a b nearA nearB]
  cases (wallPairs a b)[attempt % (wallPairs a b).length]? with
  | none => rfl
  | some walls =>
      by_cases facing : walls.2 = walls.1.opposite
      · simp only [if_pos facing, draw_run_bind]
        generalize (doorway a b walls.1 thickness).run rng = drawn
        obtain ⟨shared, rng'⟩ := drawn
        cases shared <;> rfl
      · simp only [if_neg facing]
        rfl

end Framed

end Answers

end Floorplan.Words

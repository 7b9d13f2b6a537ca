import Floorplan.Proofs.Grid.Cells
import Floorplan.Proofs.Grid.Search
import Floorplan.Proofs.Route.Soundness

/-!
The map and the index agree. Along every sequence of calls the state of each cell says what the rooms and
the committed paths are there, so a path that the map lets through is one that the index has no conflict
with.
-/

set_option autoImplicit false

namespace Floorplan

open Floorplan.Random (Draw Rng)

namespace Cell

def InRoom (rooms : Array (Room Rat)) (cell : Cell) : Prop := ∃ room ∈ rooms, cell.rect.overlaps room.rect = true

def NearRoom (rooms : Array (Room Rat)) (cell : Cell) : Prop :=
  ∃ room ∈ rooms, (room.rect.expand 1).containsRect cell.rect = true

def OnPath (connectors : List (Connector Rat)) (cell : Cell) : Prop :=
  ∃ connector ∈ connectors, ∃ path, connector.geometry = .path path ∧ cell ∈ path

-- What the state of a cell says about the rooms and the committed paths.
structure Marked (rooms : Array (Room Rat)) (connectors : List (Connector Rat)) (cell : Cell)
    (state : CellState) : Prop where
  room : state = .room ↔ cell.InRoom rooms
  corridor : state = .corridor ↔ cell.OnPath connectors
  buffer : state = .buffer ↔ ¬ cell.InRoom rooms ∧ ¬ cell.OnPath connectors ∧ cell.NearRoom rooms
  free : state = .free ↔ ¬ cell.InRoom rooms ∧ ¬ cell.OnPath connectors ∧ ¬ cell.NearRoom rooms

theorem on_path_concat (connectors : List (Connector Rat)) (connector : Connector Rat) (cell : Cell) :
    cell.OnPath (connectors ++ [connector]) ↔
      cell.OnPath connectors ∨ ∃ path, connector.geometry = .path path ∧ cell ∈ path := by
  simp only [OnPath, List.mem_append, List.mem_singleton, or_and_right, exists_or, exists_eq_left]

namespace Marked

variable {rooms : Array (Room Rat)} {connectors : List (Connector Rat)} {cell : Cell} {state : CellState}

theorem corridor_new (connector : Connector Rat)
    (taken : ∃ path, connector.geometry = .path path ∧ cell ∈ path) (clear : ¬ cell.InRoom rooms) :
    cell.Marked rooms (connectors ++ [connector]) .corridor := by
  have here : cell.OnPath (connectors ++ [connector]) := (on_path_concat _ _ _).mpr (.inr taken)
  constructor <;> simp [here, clear]

theorem keep (marked : cell.Marked rooms connectors state) (connector : Connector Rat)
    (apart : ¬ ∃ path, connector.geometry = .path path ∧ cell ∈ path) :
    cell.Marked rooms (connectors ++ [connector]) state := by
  have same : cell.OnPath (connectors ++ [connector]) ↔ cell.OnPath connectors :=
    (on_path_concat _ _ _).trans (or_iff_left apart)
  refine ⟨marked.room, marked.corridor.trans same.symm, ?_, ?_⟩
  · rw [same]
    exact marked.buffer
  · rw [same]
    exact marked.free

end Marked

end Cell

namespace Grid

-- Rooms on whole cells, and an index that holds them and nothing else. The rooms may meet, may be without an
-- area, and may reach beyond the bounds.
structure Floor (rules : RouteRules Rat) (board : RouteBoard Rat) : Prop where
  thick : 0 ≤ rules.thickness
  bounds : ∃ s, rules.bounds.Edges s
  rooms : ∀ room ∈ board.rooms, ∃ s, room.rect.Edges s ∧ s.InWords
  sized : ∀ room ∈ board.rooms, room.rect.Sized
  reached : board.index.Reached
  cell_pos : 0 < board.index.cellSize
  reserved : ∀ entry, entry ∈ board.index.entries.toList ↔
    ∃ room ∈ board.rooms, entry = { rect := room.rect, occupant := .room room.id }

-- The map shows the rooms and the committed connectors, each of which is a doorway or a path on it.
structure Agrees (rules : RouteRules Rat) (rooms : Array (Room Rat)) (connectors : List (Connector Rat))
    (raster : Raster) : Prop where
  span : ∀ cell, raster.span.Holds cell ↔ rules.bounds.containsRect cell.rect = true ∧ CellSpan.words.Holds cell
  marked : ∀ cell state, raster.state? cell = some state → cell.Marked rooms connectors state
  paths : ∀ connector ∈ connectors, connector.geometry = .doorway
    ∨ ∃ path, connector.geometry = .path path ∧ ∀ cell ∈ path, raster.span.Holds cell ∧ ¬ cell.InRoom rooms

namespace Floor

variable {rules : RouteRules Rat} {board : RouteBoard Rat} (floor : Floor rules board)

include floor

theorem in_room_iff (cell : Cell) :
    (∃ room ∈ board.rooms, (CellSpan.ofRect room.rect).Holds cell) ↔ cell.InRoom board.rooms := by
  apply exists_congr
  intro room
  apply and_congr_right
  intro listed
  obtain ⟨s, edges, words⟩ := floor.rooms room listed
  rw [edges.of_rect words (floor.sized room listed), edges.cell_overlaps]

theorem near_room_iff (cell : Cell) :
    (∃ room ∈ board.rooms, ((CellSpan.ofRect room.rect).grow Raster.ring).Holds cell) ↔
      cell.NearRoom board.rooms := by
  apply exists_congr
  intro room
  apply and_congr_right
  intro listed
  obtain ⟨s, edges, words⟩ := floor.rooms room listed
  rw [edges.of_rect words (floor.sized room listed), edges.grow.contains_cell]

theorem near_cells (solid : ∀ room ∈ board.rooms, room.rect.Solid) (cell : Cell) :
    cell.NearRoom board.rooms ↔ ∃ other : Cell, other.InRoom board.rooms ∧ cell.Near other := by
  constructor
  · rintro ⟨room, listed, near⟩
    obtain ⟨s, edges, _⟩ := floor.rooms room listed
    obtain ⟨other, overlap, beside⟩ := (edges.near_iff (solid room listed) cell).mp near
    exact ⟨other, ⟨room, listed, overlap⟩, beside⟩
  · rintro ⟨other, ⟨room, listed, overlap⟩, beside⟩
    obtain ⟨s, edges, _⟩ := floor.rooms room listed
    exact ⟨room, listed, (edges.near_iff (solid room listed) cell).mpr ⟨other, overlap, beside⟩⟩

theorem agrees_start : Agrees rules board.rooms [] (.ofRooms rules.bounds board.rooms) where
  span := by
    intro cell
    obtain ⟨s, edges⟩ := floor.bounds
    rw [Raster.of_rooms_span, edges.of_rect_holds, edges.contains_cell]
  marked := by
    intro cell state read
    have shown := Raster.state_of_rooms rules.bounds board.rooms cell state read
    simp only [floor.in_room_iff, floor.near_room_iff] at shown
    have noPath : ¬ cell.OnPath [] := fun ⟨connector, listed, _⟩ => List.not_mem_nil listed
    rcases shown with ⟨room, rfl⟩ | ⟨outside, near, rfl⟩ | ⟨outside, far, rfl⟩
    · constructor <;> simp [room, noPath]
    · constructor <;> simp [outside, near, noPath]
    · constructor <;> simp [outside, far, noPath]
  paths := fun connector listed => absurd listed List.not_mem_nil

theorem ready : board.Ready where
  reached := floor.reached
  cell_pos := floor.cell_pos
  sized := by
    intro entry member
    obtain ⟨room, listed, rfl⟩ := (floor.reserved entry).mp member
    exact floor.sized room listed
  reserved := fun room listed => (floor.reserved _).mpr ⟨room, listed, rfl⟩
  fresh := by
    intro entry member id same
    obtain ⟨room, _, rfl⟩ := (floor.reserved entry).mp member
    cases same

end Floor

namespace Agrees

variable {rules : RouteRules Rat} {rooms : Array (Room Rat)} {connectors : List (Connector Rat)} {raster : Raster}
  (agrees : Agrees rules rooms connectors raster)

include agrees

theorem open_cell (crossing : CrossingPolicy) (forced : Bool) (cell : Cell) (opens : Opens raster crossing forced cell) :
    raster.span.Holds cell ∧ ¬ cell.InRoom rooms
      ∧ (cell.OnPath connectors → (forced || crossing.allows) = true) := by
  obtain ⟨state, read, noRoom, crosses⟩ := opens
  have marked := agrees.marked cell state read
  exact ⟨(raster.state_some_iff cell).mp (Option.isSome_of_mem read), fun inside => noRoom (marked.room.mpr inside),
    fun taken => crosses (marked.corridor.mpr taken)⟩

theorem commit (crossing : CrossingPolicy) (forced : Bool) (connector : Connector Rat)
    (follows : Follows raster crossing forced connector.geometry) :
    Agrees rules rooms (connectors ++ [connector]) (markCorridor connector raster) := by
  rcases follows with doorway | ⟨path, route, opens⟩
  · have same : markCorridor connector raster = raster := by rw [markCorridor, doorway]
    have noPath : ¬ ∃ path, connector.geometry = .path path := by
      rintro ⟨path, route⟩
      rw [doorway] at route
      cases route
    rw [same]
    refine ⟨agrees.span, fun cell state read => ?_, ?_⟩
    · exact (agrees.marked cell state read).keep connector fun ⟨path, route, _⟩ => noPath ⟨path, route⟩
    · intro other listed
      rcases List.mem_append.mp listed with old | new
      · exact agrees.paths other old
      · rw [List.mem_singleton.mp new]
        exact .inl doorway
  · have painted : markCorridor connector raster = raster.setAll path .corridor := by rw [markCorridor, route]
    have clear := fun cell member => agrees.open_cell crossing forced cell (opens cell member)
    have taken : ∀ cell, (∃ other, connector.geometry = .path other ∧ cell ∈ other) ↔ cell ∈ path := by
      intro cell
      rw [route]
      simp only [Geometry.path.injEq, exists_eq_left']
    rw [painted]
    refine ⟨fun cell => ?_, fun cell state read => ?_, ?_⟩
    · rw [raster.set_all_span]
      exact agrees.span cell
    · rw [raster.state_set_all] at read
      split at read
      next member =>
        obtain ⟨_, _, rfl⟩ := Option.map_eq_some_iff.mp read
        exact Cell.Marked.corridor_new connector ((taken cell).mpr member) (clear cell member).2.1
      next outside => exact (agrees.marked cell state read).keep connector (mt (taken cell).mp outside)
    · rw [raster.set_all_span]
      intro other listed
      rcases List.mem_append.mp listed with old | new
      · exact agrees.paths other old
      · rw [List.mem_singleton.mp new]
        exact .inr ⟨path, route, fun cell member => ⟨(clear cell member).1, (clear cell member).2.1⟩⟩

theorem piece (connector : Connector Rat) (listed : connector ∈ connectors) (rect : Rect Rat)
    (taken : rect ∈ connector.rects) :
    ∃ cell, rect = cell.rect ∧ cell.OnPath connectors ∧ raster.span.Holds cell ∧ ¬ cell.InRoom rooms := by
  rcases agrees.paths connector listed with doorway | ⟨path, route, clear⟩
  · rw [Connector.rects, doorway] at taken
    exact absurd taken List.not_mem_nil
  · rw [Connector.rects, route] at taken
    obtain ⟨cell, member, rfl⟩ := List.mem_map.mp taken
    exact ⟨cell, rfl, ⟨connector, listed, path, route, member⟩, clear cell member⟩

end Agrees

end Grid

end Floorplan

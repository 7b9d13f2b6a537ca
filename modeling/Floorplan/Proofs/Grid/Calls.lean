import Floorplan.Proofs.Grid.Agreement

set_option autoImplicit false

namespace Floorplan

open Floorplan.Random (Draw Rng)

namespace RouteRules

variable {α : Type} [Coord α] (rules : RouteRules α)

theorem rect_conflicts_zero (entries : List (Reservation α)) (rect : Rect α)
    (inside : rules.bounds.containsRect rect = true)
    (clear : ∀ entry ∈ entries, rules.guards entry.occupant = true → entry.rect.overlaps rect = false) :
    rules.rectConflicts entries rect = 0 := by
  have none : (((entries.filter fun entry => entry.rect.overlaps rect).map
      (·.occupant)).eraseDups.filter rules.guards) = [] := by
    apply List.filter_eq_nil_iff.mpr
    intro occupant member guarded
    obtain ⟨entry, passed, rfl⟩ := List.mem_map.mp (List.mem_eraseDups.mp member)
    obtain ⟨listed, overlap⟩ := List.mem_filter.mp passed
    rw [clear entry listed guarded] at overlap
    cases overlap
  rw [rectConflicts, if_pos inside, none]
  rfl

theorem door_conflicts_zero (rooms : Array (Room α)) (id : RoomId) (door : Door α) (room : Room α)
    (read : rooms[id.index]? = some room) (admitted : room.admits door rules.thickness = true) :
    rules.doorConflicts rooms id door = 0 := by
  simp only [doorConflicts, read, admitted, if_true]

end RouteRules

namespace Grid

theorem Follows.forced {raster : Raster} {crossing : CrossingPolicy} {geometry : Geometry Rat}
    (follows : Follows raster crossing false geometry) : Follows raster crossing true geometry := by
  rcases follows with doorway | ⟨path, route, opens⟩
  · exact .inl doorway
  · refine .inr ⟨path, route, fun cell member => ?_⟩
    obtain ⟨state, read, noRoom, _⟩ := opens cell member
    exact ⟨state, read, noRoom, fun _ => rfl⟩

theorem Follows.sized {raster : Raster} {crossing : CrossingPolicy} {forced : Bool} {geometry : Geometry Rat}
    (follows : Follows raster crossing forced geometry) : ∀ rect ∈ geometry.rects, rect.Sized := by
  intro rect member
  rcases follows with rfl | ⟨path, rfl, _⟩
  · exact absurd member List.not_mem_nil
  · obtain ⟨cell, _, rfl⟩ := List.mem_map.mp member
    exact Rect.cell_sized cell

variable {rules : RouteRules Rat} {start board : RouteBoard Rat} {connectors : List (Connector Rat)} {raster : Raster}

theorem Floor.sized_after (floor : Floor rules start) (ledger : Ledger start board connectors) (k : Nat)
    (room : Room Rat) (read : board.rooms[k]? = some room) : room.rect.Sized := by
  rw [ledger.rooms k] at read
  obtain ⟨original, originalRead, rfl⟩ := Option.map_eq_some_iff.mp read
  exact floor.sized original (Array.mem_of_getElem? originalRead)

-- A free cell of the map is free in the index: the rooms and the corridors are on both.
theorem cell_clear (floor : Floor rules start) (ledger : Ledger start board connectors)
    (agrees : Agrees rules start.rooms connectors raster) (cell : Cell)
    (opens : Opens raster rules.crossing false cell) :
    rules.rectConflicts board.index.entries.toList cell.rect = 0 := by
  obtain ⟨held, noRoom, crosses⟩ := agrees.open_cell rules.crossing false cell opens
  apply rules.rect_conflicts_zero _ _ ((agrees.span cell).mp held).1
  intro entry listed guarded
  by_contra overlap
  rw [Bool.not_eq_false, Rect.overlaps_comm] at overlap
  rw [ledger.entries] at listed
  rcases List.mem_append.mp listed with initial | later
  · obtain ⟨room, placed, rfl⟩ := (floor.reserved entry).mp initial
    exact noRoom ⟨room, placed, overlap⟩
  · obtain ⟨connector, committed, reserved⟩ := List.mem_flatMap.mp later
    obtain ⟨rect, taken, rfl⟩ := List.mem_map.mp reserved
    -- both are cells, so they overlap only where they are the same
    obtain ⟨other, rfl, onPath, _⟩ := agrees.piece connector committed rect taken
    obtain rfl := (Rect.cell_overlaps_cell cell other).mp overlap
    have allowed : rules.crossing.allows = true := crosses onPath
    simp [RouteRules.guards, Occupant.isRoom, allowed] at guarded

theorem offer_clear (floor : Floor rules start) (ledger : Ledger start board connectors)
    (agrees : Agrees rules start.rooms connectors raster) (edge : Edge Rat) (proposal : Proposal Rat)
    (anchors : board.Anchors edge rules.thickness proposal)
    (follows : Follows raster rules.crossing false proposal.geometry) :
    (rules.tryReserve edge proposal board).1 = 0 := by
  have pieces : ∀ connector ∈ connectors, ∀ rect ∈ connector.rects, rect.Sized := by
    intro connector committed rect taken
    obtain ⟨cell, rfl, _⟩ := agrees.piece connector committed rect taken
    exact Rect.cell_sized cell
  have ready := floor.ready.after board connectors ledger pieces
  rw [rules.try_reserve_conflicts edge proposal board ready.searchable follows.sized ready.occupant_unused,
    RouteRules.conflicts]
  obtain ⟨first, second, firstRead, secondRead, anchored⟩ := anchors
  obtain ⟨firstAdmits, secondAdmits⟩ := anchored.keeps (floor.sized_after ledger _ first firstRead)
    (floor.sized_after ledger _ second secondRead) floor.thick
  rw [rules.door_conflicts_zero _ _ _ first firstRead firstAdmits,
    rules.door_conflicts_zero _ _ _ second secondRead secondAdmits, Nat.zero_add]
  apply List.sum_eq_zero_iff_forall_eq_nat.mpr
  intro conflicts counted
  obtain ⟨rect, piece, rfl⟩ := List.mem_map.mp counted
  rcases follows with doorway | ⟨path, route, opens⟩
  · rw [doorway] at piece
    exact absurd piece List.not_mem_nil
  · rw [route] at piece
    obtain ⟨cell, member, rfl⟩ := List.mem_map.mp piece
    exact cell_clear floor ledger agrees cell (opens cell member)

theorem strategy_follows (rules : RouteRules Rat) (edge : Edge Rat) (board : RouteBoard Rat) (raster : Raster) :
    (∀ attempt rng,
        let answer := (((strategy rules.crossing).propose (rules.context board) edge.a edge.b attempt raster).run rng).1
        answer.2 = raster ∧ ∀ proposal, answer.1 = some proposal →
          Follows raster rules.crossing false proposal.geometry)
      ∧ ∀ rng,
        let answer := (((strategy rules.crossing).proposeForced (rules.context board) edge.a edge.b raster).run rng).1
        answer.2 = raster ∧ ∀ proposal, answer.1 = some proposal →
          Follows raster rules.crossing true proposal.geometry := by
  constructor
  · intro attempt rng
    simp only [strategy]
    split
    next =>
      refine ⟨rfl, fun proposal made => ?_⟩
      exact propose_follows raster rules.crossing _ _ _ attempt rng proposal made
    next =>
      refine ⟨rfl, fun proposal made => ?_⟩
      cases made
  · intro rng
    simp only [strategy]
    split
    next =>
      refine ⟨rfl, fun proposal made => ?_⟩
      exact propose_forced_follows raster rules.crossing _ _ _ proposal made
    next =>
      refine ⟨rfl, fun proposal made => ?_⟩
      cases made

end Grid

end Floorplan

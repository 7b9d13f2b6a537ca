import Floorplan.Proofs.Door.Offers
import Floorplan.Proofs.Generate.Connected
import Floorplan.Proofs.Generate.Laid
import Floorplan.Proofs.Generate.Valid

set_option autoImplicit false

namespace Floorplan

open Floorplan.Random (Draw Rng)

variable {σ : Type}

def Connector.AnchoredIn (connector : Connector Rat) (rooms : Array (Room Rat)) (thickness : Rat) : Prop :=
  ∀ (k : Nat) (room : Room Rat), rooms[k]? = some room → ∀ door ∈ connector.doorsAt k, door.Anchored room.rect thickness

theorem committed_anchored (board : RouteBoard Rat) (edge : Edge Rat) (thickness : Rat) (proposal : Proposal Rat)
    (forced : Bool) (anchors : board.Anchors edge thickness proposal) :
    (connectorOf board edge proposal forced).AnchoredIn board.rooms thickness := by
  obtain ⟨first, second, firstRead, secondRead, firstAnchored, secondAnchored⟩ := anchors
  intro k room read door member
  rcases List.mem_append.mp member with member | member
  · split at member
    next place =>
      obtain rfl := List.mem_singleton.mp member
      rw [← place] at read
      obtain rfl := Option.some.inj (firstRead.symm.trans read)
      exact firstAnchored
    next => cases member
  · split at member
    next place =>
      obtain rfl := List.mem_singleton.mp member
      rw [← place] at read
      obtain rfl := Option.some.inj (secondRead.symm.trans read)
      exact secondAnchored
    next => cases member

theorem Connector.AnchoredIn.of_bare {connector : Connector Rat} {rooms others : Array (Room Rat)} {thickness : Rat}
    (anchored : connector.AnchoredIn rooms thickness) (same : rooms.map Room.bare = others.map Room.bare) :
    connector.AnchoredIn others thickness := by
  intro k room read
  have bare := congrArg (·[k]?) same
  simp only [Array.getElem?_map, read, Option.map_some] at bare
  obtain ⟨original, originalRead, originalBare⟩ := Option.map_eq_some_iff.mp bare
  rw [← Room.same_rect original room originalBare]
  exact anchored k original originalRead

theorem route_run_anchored (rules : RouteRules Rat) (strategy : Strategy Rat σ)
    (serves : ∀ edge board, Serves rules strategy edge board (fun _ => True) (board.Anchors edge rules.thickness))
    (start : RouteState Rat σ) (faithful : start.board.index.Faithful) (connectors : List (Connector Rat))
    (state : RouteState Rat σ) (ran : RouteRun rules strategy start connectors state) :
    ∀ connector ∈ connectors, connector.AnchoredIn start.board.rooms rules.thickness := by
  refine route_run_keeps rules strategy start faithful (fun _ _ => True)
    (fun state edge => state.board.Anchors edge rules.thickness)
    (fun connectors _ => ∀ connector ∈ connectors, connector.AnchoredIn start.board.rooms rules.thickness)
    (fun state edge => serves edge state.board) (fun _ => trivial)
    (fun connector listed => absurd listed List.not_mem_nil) (fun _ _ _ anchored _ => anchored) ?_ connectors state ran
  intro connectors state edge proposal forced inner ledger anchored _ offered connector member
  rcases List.mem_append.mp member with old | new
  · exact anchored connector old
  · obtain rfl := List.mem_singleton.mp new
    exact (committed_anchored state.board edge rules.thickness proposal forced offered).of_bare ledger.bare_rooms

theorem routed_doors_anchored (rules : RouteRules Rat) (strategy : Strategy Rat σ)
    (serves : ∀ edge board, Serves rules strategy edge board (fun _ => True) (board.Anchors edge rules.thickness))
    (start : RouteState Rat σ) (faithful : start.board.index.Faithful)
    (doorless : ∀ room ∈ start.board.rooms, room.doors = []) (edges : List (Edge Rat)) (rng : Rng) :
    ∀ room ∈ ((routeAll rules strategy edges start).run rng).1.2.board.rooms, ∀ door ∈ room.doors,
      door.Anchored room.rect rules.thickness := by
  obtain ⟨connectors, ran, _⟩ := route_all_run rules strategy start edges [] start .start rng
  have anchored := route_run_anchored rules strategy serves start faithful _ _ ran
  have ledger := route_run_ledger rules strategy start faithful _ _ ran
  intro room listed door member
  obtain ⟨k, read⟩ := Array.getElem?_of_mem listed
  rw [ledger.rooms k] at read
  obtain ⟨original, originalRead, rfl⟩ := Option.map_eq_some_iff.mp read
  simp only [doorless original (Array.mem_of_getElem? originalRead), List.nil_append] at member
  obtain ⟨connector, committed, given⟩ := List.mem_flatMap.mp member
  exact anchored connector committed k original originalRead door given

theorem route_by_kind_anchored (config : Config Rat) (placed : Array (Room Rat)) (index : SpatialIndex Rat)
    (faithful : index.Faithful) (doorless : ∀ room ∈ placed, room.doors = []) (edges : List (Edge Rat)) (rng : Rng)
    (rooms : Array (Room Rat)) (connectors : List (Connector Rat))
    (finished : ((routeByKind config placed index edges).run rng).1 = .ok (rooms, connectors)) :
    ∀ room ∈ rooms, ∀ door ∈ room.doors, door.Anchored room.rect config.corridorThickness := by
  rw [routeByKind] at finished
  split at finished
  · obtain ⟨_, rfl⟩ := route_with_ok config _ _ placed index edges rng rooms connectors finished
    exact routed_doors_anchored (.ofConfig config) _ (direct_anchors (.ofConfig config)) _ faithful doorless edges rng
  · obtain ⟨_, rfl⟩ := route_with_ok config _ _ placed index edges rng rooms connectors finished
    exact routed_doors_anchored (.ofConfig config) _ (grid_anchors (.ofConfig config) config.crossing) _ faithful
      doorless edges rng

theorem generated_doors_anchored (config : Config Rat) (seed : UInt64) (layout : Layout Rat)
    (generated : generate config seed = .ok layout) :
    ∀ room ∈ layout.rooms, room.rect.Sized ∧ ∀ door ∈ room.doors, door.Anchored room.rect config.corridorThickness := by
  obtain ⟨number, finished⟩ := generate_ok config seed layout generated
  obtain ⟨placed, index, rest, placing, routed, _⟩ := attempt_ok config _ _ _ layout finished
  have positive := Config.check_positive_ok _ _ (generate_valid config seed layout generated).cellSize
  have laid := place_rooms_ok_laid (SpatialIndex.new_faithful _) positive nofun _ rest placing
  have doorless := laid.placed.doorless
  have anchored := route_by_kind_anchored config placed index laid.placed.faithful doorless _ _ _ _ routed
  have bare : layout.rooms.map Room.bare = placed := by
    obtain ⟨σ, strategy, inner, _, ended⟩ := route_by_kind_ok config placed index _ _ _ _ routed
    rw [← ended]
    exact (routed_rooms_bare _ _ _ _ laid.placed.faithful _).trans (bare_of_doorless placed doorless)
  intro room listed
  refine ⟨?_, anchored room listed⟩
  have placedRoom : room.bare ∈ placed := by
    rw [← bare]
    exact Array.mem_map_of_mem listed
  exact (laid.fits room.bare placedRoom).sized

theorem doors_keep_margins :
    (∀ (config : Config Rat) (seed : UInt64) (layout : Layout Rat), generate config seed = .ok layout →
      ∀ room ∈ layout.rooms, ∀ door ∈ room.doors,
        room.admits door config.corridorThickness = true ∧ door.OnMargin room.rect config.corridorThickness)
    ∧ ∀ (a b : Room Rat) (thickness : Rat), a.rect.Solid → b.rect.Solid → 0 < thickness →
      ∀ proposal : Proposal Rat,
        ((∃ attempt rng, ((Direct.propose a b thickness attempt).run rng).1 = some proposal)
          ∨ Direct.proposeForced a b thickness = some proposal
          ∨ (∃ raster crossing attempt rng,
              ((Grid.propose raster crossing a b thickness attempt).run rng).1 = some proposal)
          ∨ ∃ raster crossing, Grid.proposeForced raster crossing a b thickness = some proposal) →
        proposal.KeepsMargins a b thickness := by
  constructor
  · intro config seed layout generated room listed door member
    obtain ⟨sized, anchored⟩ := generated_doors_anchored config seed layout generated room listed
    have thick := Config.check_positive_ok _ _ (generate_valid config seed layout generated).thickness
    have admitted := (anchored door member).admitted sized.width_nonneg sized.height_nonneg (le_of_lt thick)
    exact ⟨admitted, (room.admits_iff door _).mp admitted⟩
  · intro a b thickness first second thick proposal offered
    apply Proposal.Anchored.keeps _ first.sized second.sized (le_of_lt thick)
    rcases offered with ⟨attempt, rng, drawn⟩ | made | ⟨raster, crossing, attempt, rng, drawn⟩
      | ⟨raster, crossing, made⟩
    · exact Direct.propose_anchored a b thickness attempt rng proposal drawn
    · exact Direct.propose_forced_anchored a b thickness proposal made
    · exact Grid.propose_anchored raster crossing a b thickness attempt rng proposal drawn
    · exact Grid.propose_forced_anchored raster crossing a b thickness proposal made

theorem strip_doors_on_margin :
    (∃ layout, generate strip 1 = .ok layout ∧ layout.rooms.toList.map (·.doors.length) = [1, 1]
      ∧ ∀ room ∈ layout.rooms, ∀ door ∈ room.doors, room.admits door strip.corridorThickness = true)
    ∧ ∃ proposal, Direct.proposeForced (stripRoom 0) (.new ⟨1⟩ ⟨9, 7, 3, 3⟩) (4 : Rat) = some proposal
      ∧ proposal.doors = ({ wall := .right, anchor := ⟨3, 3 / 2⟩ }, { wall := .top, anchor := ⟨21 / 2, 7⟩ })
      ∧ proposal.KeepsMargins (stripRoom 0) (.new ⟨1⟩ ⟨9, 7, 3, 3⟩) 4 := by
  constructor
  · obtain ⟨layout, generated, doors⟩ := strip_generated_doors
    exact ⟨layout, generated, doors, fun room listed door member =>
      (doors_keep_margins.1 strip 1 layout generated room listed door member).1⟩
  · have made : (Direct.proposeForced (stripRoom 0) (.new ⟨1⟩ ⟨9, 7, 3, 3⟩) (4 : Rat)).map (·.doors) =
        some ({ wall := .right, anchor := ⟨3, 3 / 2⟩ }, { wall := .top, anchor := ⟨21 / 2, 7⟩ }) := by
      decide +kernel
    obtain ⟨proposal, offered, doors⟩ := Option.map_eq_some_iff.mp made
    have solid : ∀ x y : Rat, (⟨x, y, 3, 3⟩ : Rect Rat).Solid := fun x y =>
      ⟨by norm_num, by norm_num⟩
    exact ⟨proposal, offered, doors, doors_keep_margins.2 (stripRoom 0) _ 4 (solid _ _) (solid _ _) (by norm_num)
      proposal (.inr (.inl offered))⟩

end Floorplan

import Floorplan.Proofs.Grid.Calls
import Floorplan.Proofs.Route.First
import Floorplan.Proofs.Words.Limits

set_option autoImplicit false

namespace Floorplan

open Floorplan.Random (Draw Rng)

theorem Rect.Edges.within {bounds r : Rect Rat} {s t : CellSpan} (outer : bounds.Edges s) (inner : r.Edges t)
    (words : t.InWords) (inside : bounds.containsRect r = true) :
    let o := CellSpan.ofRect bounds
    (o.x0 ≤ t.x0 ∧ t.x1 ≤ o.x1) ∧ o.y0 ≤ t.y0 ∧ t.y1 ≤ o.y1 := by
  obtain ⟨left, top, right, bottom⟩ := words
  have reach := (outer.contains_iff inner).mp inside
  simp only [CellSpan.words] at left top right bottom
  simp only [CellSpan.ofRect, outer.left, outer.top, outer.right, outer.bottom, Rational.floor_cell_whole,
    Rational.ceil_cell_whole, Number.clampInt]
  omega

namespace Words

variable {rules : RouteRules Rat}

-- A map that is counted in words, with a column and a row of words before it, and rooms with rings in words.
structure Mappable (rules : RouteRules Rat) (rooms : Array (Room Rat)) : Prop where
  measured : Measured rules.bounds
  left : Number.cellMin < (CellSpan.ofRect rules.bounds).x0
  top : Number.cellMin < (CellSpan.ofRect rules.bounds).y0
  rings : ∀ room ∈ rooms, ((CellSpan.ofRect room.rect).grow Raster.ring).InWords

section Built

variable {board : RouteBoard Rat} (floor : Grid.Floor rules board)
  (inside : ∀ room ∈ board.rooms, rules.bounds.containsRect room.rect = true) (measured : Measured rules.bounds)
  (rings : ∀ room ∈ board.rooms, ((CellSpan.ofRect room.rect).grow Raster.ring).InWords)

include floor inside measured rings

theorem floor_near (room : Room Rat) (listed : room ∈ board.rooms) :
    Near (.ofRooms rules.bounds board.rooms) room.rect := by
  obtain ⟨s, outer⟩ := floor.bounds
  obtain ⟨t, inner, words⟩ := floor.rooms room listed
  obtain ⟨wide, high⟩ := inner.sized (floor.sized room listed)
  have same := inner.of_rect words (floor.sized room listed)
  have ring := rings room listed
  obtain ⟨⟨left, right⟩, top, bottom⟩ := outer.within inner words (inside room listed)
  obtain ⟨⟨_, broad⟩, _, tall⟩ := measured.sides
  -- the ring reaches one cell beyond the room, and the room no farther than the bounds
  rw [← same] at wide high left right top bottom
  refine ⟨⟨wide, high, ring⟩, fun cell held => ?_⟩
  rw [InReach, (of_rooms_sized rules.bounds board.rooms).1]
  have least : Number.cellMin ≤ -1 := by decide
  simp only [CellSpan.Holds, CellSpan.grow, Raster.ring, InWords] at held broad tall ⊢
  omega

theorem floor_built : ofRooms? rules.bounds board.rooms = some (.ofRooms rules.bounds board.rooms) :=
  of_rooms_answers measured board.rooms (floor_near floor inside measured rings)

end Built

theorem floor_built_iff {board : RouteBoard Rat} (floor : Grid.Floor rules board)
    (inside : ∀ room ∈ board.rooms, rules.bounds.containsRect room.rect = true) :
    (∃ raster, ofRooms? rules.bounds board.rooms = some raster) ↔
      Measured rules.bounds ∧ ∀ room ∈ board.rooms, ((CellSpan.ofRect room.rect).grow Raster.ring).InWords := by
  constructor
  · rintro ⟨raster, built⟩
    exact of_rooms_some rules.bounds board.rooms raster built
  · rintro ⟨measured, rings⟩
    exact ⟨_, floor_built floor inside measured rings⟩

theorem Mappable.framed {rooms : Array (Room Rat)} (mappable : Mappable rules rooms) :
    Framed (.ofRooms rules.bounds rooms) := by
  obtain ⟨measured, left, top, _⟩ := mappable
  obtain ⟨origin, width, height⟩ := of_rooms_sized rules.bounds rooms
  obtain ⟨⟨_, wide⟩, _, high⟩ := measured.sides
  -- no cell lies past the last word, wherever the bounds end
  have start (x : Rat) : Coord.floorCell x ≤ Number.cellMax := by
    rw [Rational.floor_cell_eq, Number.clampInt]
    omega
  have stop (x : Rat) : Coord.ceilCell x ≤ Number.cellMax := by
    rw [Rational.ceil_cell_eq, Number.clampInt]
    omega
  have west : (CellSpan.ofRect rules.bounds).x0 ≤ Number.cellMax := start _
  have north : (CellSpan.ofRect rules.bounds).y0 ≤ Number.cellMax := start _
  have east : (CellSpan.ofRect rules.bounds).x1 ≤ Number.cellMax := stop _
  have south : (CellSpan.ofRect rules.bounds).y1 ≤ Number.cellMax := stop _
  have positive : 0 ≤ Number.cellMax := by decide
  simp only at wide high
  refine ⟨?_, ?_, ?_, ?_, ?_, ?_, measured.counted rooms⟩ <;> simp only [origin, width, height]
  · exact left
  · exact top
  · omega
  · omega
  · omega
  · omega

theorem Mappable.ready {board : RouteBoard Rat} (mappable : Mappable rules board.rooms)
    (floor : Grid.Floor rules board)
    (inside : ∀ room ∈ board.rooms, rules.bounds.containsRect room.rect = true) :
    Ready (Raster.ofRooms rules.bounds board.rooms).span
      { board, strategy := ofRooms? rules.bounds board.rooms } :=
  start_ready mappable.measured board mappable.framed
    (floor_near floor inside mappable.measured mappable.rings)

section Calls

variable {edge : Edge Rat} {board : RouteBoard Rat}

theorem propose_follows (map inner : Option Raster) (kept : inner = none ∨ inner = map) (attempt : Nat) (rng : Rng) :
    let answer := (((strategy rules.crossing).propose (rules.context board) edge.a edge.b attempt inner).run rng).1
    (answer.2 = none ∨ answer.2 = map) ∧ ∀ proposal, answer.1 = some proposal →
      ∃ raster, map = some raster ∧ Grid.Follows raster rules.crossing false proposal.geometry
        ∧ board.Anchors edge rules.thickness proposal := by
  cases inner with
  | none => exact ⟨.inl rfl, fun proposal made => by cases made⟩
  | some raster =>
      obtain rfl : some raster = map := kept.resolve_left nofun
      rcases propose_or_lost rules.crossing (rules.context board) edge.a edge.b attempt raster rng with
        gone | ⟨offer, rng', found, same⟩
      · rw [gone]
        exact ⟨.inl rfl, fun proposal made => by cases made⟩
      · rw [found]
        obtain ⟨_, follows⟩ := (Grid.strategy_follows rules edge board raster).1 attempt rng
        have anchors := ((grid_anchors rules rules.crossing edge board).propose attempt raster rng trivial).2
        rw [same] at follows anchors
        exact ⟨.inr rfl, fun proposal made => ⟨raster, rfl, follows proposal made, anchors proposal made⟩⟩

theorem forced_follows (map inner : Option Raster) (kept : inner = none ∨ inner = map) (rng : Rng) :
    let answer := (((strategy rules.crossing).proposeForced (rules.context board) edge.a edge.b inner).run rng).1
    (answer.2 = none ∨ answer.2 = map) ∧ ∀ proposal, answer.1 = some proposal →
      ∃ raster, map = some raster ∧ Grid.Follows raster rules.crossing true proposal.geometry := by
  cases inner with
  | none => exact ⟨.inl rfl, fun proposal made => by cases made⟩
  | some raster =>
      obtain rfl : some raster = map := kept.resolve_left nofun
      rcases forced_or_lost rules.crossing (rules.context board) edge.a edge.b raster rng with
        gone | ⟨offer, found, same⟩
      · rw [gone]
        exact ⟨.inl rfl, fun proposal made => by cases made⟩
      · rw [found]
        obtain ⟨_, follows⟩ := (Grid.strategy_follows rules edge board raster).2 rng
        rw [same] at follows
        exact ⟨.inr rfl, fun proposal made => ⟨raster, rfl, follows proposal made⟩⟩

theorem serves_follows (map : Option Raster) :
    Serves rules (strategy rules.crossing) edge board (fun inner => inner = none ∨ inner = map)
      fun proposal => ∃ raster, map = some raster ∧ Grid.Follows raster rules.crossing true proposal.geometry where
  propose attempt inner rng kept := by
    obtain ⟨keptAfter, offers⟩ := propose_follows map inner kept attempt rng
    refine ⟨keptAfter, fun proposal made => ?_⟩
    obtain ⟨raster, same, follows, _⟩ := offers proposal made
    exact ⟨raster, same, follows.forced⟩
  proposeForced inner rng kept := forced_follows map inner kept rng

variable {start : RouteState Rat (Option Raster)} {connectors : List (Connector Rat)}
  {state : RouteState Rat (Option Raster)} (floor : Grid.Floor rules start.board)
  (shown : start.strategy = ofRooms? rules.bounds start.board.rooms)
  (ran : RouteRun rules (strategy rules.crossing) start connectors state)

include floor shown ran

-- Some map shows the rooms and the committed paths throughout, and it is the one of the state as long as there is one.
theorem run_agrees : ∃ raster, Grid.Agrees rules start.board.rooms connectors raster ∧ Sound state.strategy raster := by
  apply route_run_keeps rules (strategy rules.crossing) start floor.ready.searchable.faithful
    (fun state inner => inner = none ∨ inner = state.strategy)
    (fun state _ proposal => ∃ raster, state.strategy = some raster
      ∧ Grid.Follows raster rules.crossing true proposal.geometry)
    (fun connectors state => ∃ raster, Grid.Agrees rules start.board.rooms connectors raster
      ∧ Sound state.strategy raster)
    (fun state edge => serves_follows state.strategy) (fun _ => .inr rfl) ?_ ?_ ?_ connectors state ran
  · rw [shown]
    exact ⟨_, floor.agrees_start, of_rooms_sound rules.bounds start.board.rooms⟩
  · rintro connectors state inner ⟨raster, agrees, sound⟩ kept
    refine ⟨raster, agrees, ?_⟩
    rcases kept with rfl | rfl
    · exact .none raster
    · exact sound
  · rintro connectors state edge proposal forced inner _ ⟨raster, agrees, sound⟩ kept ⟨map, here, follows⟩
    obtain rfl := sound map here
    let connector := connectorOf state.board edge proposal forced
    refine ⟨Grid.markCorridor connector map, agrees.commit rules.crossing true connector follows, ?_⟩
    rcases kept with rfl | rfl
    · exact .none _
    · change Sound (state.strategy.bind (markCorridor? connector)) _
      rw [here]
      exact mark_corridor_sound map connector

theorem run_accepts (edge : Edge Rat) :
    Accepted rules (strategy rules.crossing) edge state.board fun inner => inner = none ∨ inner = state.strategy := by
  have ledger := route_run_ledger rules _ start floor.ready.searchable.faithful connectors state ran
  obtain ⟨raster, agrees, sound⟩ := run_agrees floor shown ran
  intro attempt inner rng kept
  obtain ⟨keptAfter, offers⟩ := propose_follows state.strategy inner kept attempt rng
  refine ⟨keptAfter, fun proposal made => ?_⟩
  obtain ⟨map, here, follows, anchors⟩ := offers proposal made
  obtain rfl := sound map here
  exact Grid.offer_clear floor ledger agrees edge proposal anchors follows

theorem run_mapped (inside : ∀ room ∈ start.board.rooms, rules.bounds.containsRect room.rect = true)
    (mappable : Mappable rules start.board.rooms) :
    ∃ raster, state.strategy = some raster ∧ ∀ (edge : Edge Rat) attempt rng,
      (((strategy rules.crossing).propose (rules.context state.board) edge.a edge.b attempt (some raster)).run rng).1 =
        ((((Grid.strategy rules.crossing).propose (rules.context state.board) edge.a edge.b attempt raster).run rng).1.1,
          some raster) := by
  have initial := mappable.ready floor inside
  rw [← shown] at initial
  have ready := run_ready rules rules.crossing _ start floor.ready.searchable.faithful initial connectors state ran
  obtain ⟨raster, here, kept⟩ := ready.map
  refine ⟨raster, here, fun edge attempt rng => ?_⟩
  have serves := strategy_serves rules rules.crossing _ edge state.board ready.rooms
  obtain ⟨⟨after, found, _⟩, _⟩ := serves.propose attempt (some raster) rng ⟨raster, rfl, kept⟩
  rcases propose_or_lost rules.crossing (rules.context state.board) edge.a edge.b attempt raster rng with
    gone | ⟨offer, rng', asked, same⟩
  · rw [gone] at found
    cases found
  · rw [asked, same]

end Calls

end Words

def boardOf (rooms : List (Room Rat)) : RouteBoard Rat :=
  { rooms := rooms.toArray
    index := .ofReservations 4 (rooms.map fun room => { rect := room.rect, occupant := .room room.id })
    nextId := 0 }

structure OnMap (outer : CellSpan) (room : Room Rat) (s : CellSpan) : Prop where
  edges : room.rect.Edges s
  sized : room.rect.Sized
  ring : (s.grow Raster.ring).InWords
  within : (outer.x0 ≤ s.x0 ∧ s.x1 ≤ outer.x1) ∧ outer.y0 ≤ s.y0 ∧ s.y1 ≤ outer.y1

theorem on_map {outer : CellSpan} (id : RoomId) (x y : Int) {width height : Int} (wide : 0 ≤ width) (high : 0 ≤ height)
    (ring : (CellSpan.grow ⟨x, y, x + width, y + height⟩ Raster.ring).InWords)
    (within : (outer.x0 ≤ x ∧ x + width ≤ outer.x1) ∧ outer.y0 ≤ y ∧ y + height ≤ outer.y1) :
    ∃ s, OnMap outer (.new id (.whole x y width height)) s :=
  ⟨_, Rect.whole_edges x y width height, Rect.whole_sized x y wide high, ring, within⟩

theorem OnMap.words {outer s : CellSpan} {room : Room Rat} (on : OnMap outer room s) : s.InWords := by
  obtain ⟨left, top, right, bottom⟩ := on.ring
  simp only [CellSpan.grow, Raster.ring] at left top right bottom
  exact ⟨by omega, by omega, by omega, by omega⟩

section Board

variable {rules : RouteRules Rat} {rooms : List (Room Rat)} {outer : CellSpan} (bounds : rules.bounds.Edges outer)
  (each : ∀ room ∈ rooms, ∃ s, OnMap outer room s)

include bounds each

theorem board_floor (thick : 0 ≤ rules.thickness) : Grid.Floor rules (boardOf rooms) := by
  obtain ⟨faithful, cellSize, entries⟩ := SpatialIndex.of_reservations_spec (4 : Rat)
    (rooms.map fun room => { rect := room.rect, occupant := .room room.id })
  refine ⟨thick, ⟨outer, bounds⟩, fun room listed => ?_, fun room listed => ?_,
    (SpatialIndex.reached_iff_faithful _).mpr faithful, ?_, fun entry => ?_⟩
  · obtain ⟨s, on⟩ := each room (List.mem_toArray.mp listed)
    exact ⟨s, on.edges, on.words⟩
  · obtain ⟨s, on⟩ := each room (List.mem_toArray.mp listed)
    exact on.sized
  · rw [boardOf, cellSize]
    exact four_pos
  · rw [boardOf, entries]
    simp [eq_comm]

theorem board_inside : ∀ room ∈ (boardOf rooms).rooms, rules.bounds.containsRect room.rect = true := by
  intro room listed
  obtain ⟨s, on⟩ := each room (List.mem_toArray.mp listed)
  exact (bounds.contains_iff on.edges).mpr on.within

theorem board_mappable (sized : rules.bounds.Sized) (words : (outer.grow Raster.ring).InWords)
    (sides : outer.x1 - outer.x0 ≤ Number.cellMax ∧ outer.y1 - outer.y0 ≤ Number.cellMax)
    (area : (outer.x1 - outer.x0) * (outer.y1 - outer.y0) ≤ Number.cellMax) :
    Words.Mappable rules (boardOf rooms).rooms := by
  obtain ⟨left, top, right, bottom⟩ := words
  simp only [CellSpan.grow, Raster.ring] at left top right bottom
  have inWords : outer.InWords := ⟨by omega, by omega, by omega, by omega⟩
  have span := bounds.of_rect inWords sized
  obtain ⟨wide, high⟩ := bounds.sized sized
  have least : Number.cellMin ≤ 0 := by decide
  refine ⟨⟨?_, ?_⟩, ?_, ?_, fun room listed => ?_⟩
  · simp only [span, Words.InWords]
    omega
  · simp only [span]
    rwa [max_eq_left (by omega), max_eq_left (by omega)]
  · rw [span]
    simp only [CellSpan.words] at left
    omega
  · rw [span]
    simp only [CellSpan.words] at top
    omega
  · obtain ⟨s, on⟩ := each room (List.mem_toArray.mp listed)
    rw [on.edges.of_rect on.words on.sized]
    exact on.ring

end Board

def gapRules : RouteRules Rat :=
  { bounds := .whole 0 0 3 1, thickness := 1, crossing := .forbid, unroutable := .restart, perEdge := 1 }

def gapLeft : Room Rat := .new ⟨0⟩ (.whole 0 0 1 1)

def gapRight : Room Rat := .new ⟨1⟩ (.whole 2 0 1 1)

def gapMap : Raster := .ofRooms gapRules.bounds #[gapLeft, gapRight]

def gapEdge : Edge Rat := { a := ⟨0⟩, b := ⟨1⟩, weight := 2, kind := .tree }

def gapPath : Proposal Rat :=
  { doors := ({ wall := .right, anchor := ⟨1, 1 / 2⟩ }, { wall := .left, anchor := ⟨2, 1 / 2⟩ })
    geometry := .path [⟨1, 0⟩] }

def gapStart : RouteState Rat (Option Raster) :=
  { board := boardOf [gapLeft, gapRight], strategy := Words.ofRooms? gapRules.bounds #[gapLeft, gapRight] }

theorem gap_pair : Grid.routePair gapMap .forbid gapLeft gapRight (.right, .left) 1 false = some gapPath := by
  have sources : Grid.doorCells gapMap .forbid gapLeft .right (1 : Rat) false =
      [{ cell := ⟨1, 0⟩, door := gapPath.doors.1 }] := by decide +kernel
  have goals : Grid.doorCells gapMap .forbid gapRight .left (1 : Rat) false =
      [{ cell := ⟨1, 0⟩, door := gapPath.doors.2 }] := by decide +kernel
  have placed : gapMap.place? ⟨1, 0⟩ = some 1 := by decide +kernel
  have searched := GridPath.shortest_here
    { raster := gapMap, crossing := .forbid, forced := false, goals := [⟨1, 0⟩] } ⟨1, 0⟩ 1 placed rfl
  simp [Grid.routePair, sources, goals, searched, gapPath]

theorem gap_proposed (rng : Rng) :
    (Grid.propose gapMap .forbid gapLeft gapRight 1 0).run rng = (some gapPath, rng) := by
  have walls : let pairs := Grid.wallPairs gapLeft gapRight
      pairs[0 % pairs.length]? = some (.right, .left) := by decide +kernel
  have apart : (Wall.right.line gapLeft.rect == Wall.right.opposite.line gapRight.rect) = false := by decide +kernel
  have noDoor : doorway gapLeft gapRight .right (1 : Rat) = pure none := by simp [doorway, apart]
  simp only [Grid.propose, walls, Wall.opposite, if_true, noDoor, draw_run_bind, draw_run_pure, gap_pair]

theorem gap_on_map : ∀ room ∈ [gapLeft, gapRight], ∃ s, OnMap ⟨0, 0, 3, 1⟩ room s :=
  List.forall_mem_cons.mpr ⟨on_map ⟨0⟩ 0 0 (by decide) (by decide) (by constructor <;> decide) (by decide),
    List.forall_mem_singleton.mpr (on_map ⟨1⟩ 2 0 (by decide) (by decide) (by constructor <;> decide) (by decide))⟩

theorem gap_floor : Grid.Floor gapRules gapStart.board :=
  board_floor (Rect.whole_edges 0 0 3 1) gap_on_map zero_le_one

theorem gap_inside : ∀ room ∈ gapStart.board.rooms, gapRules.bounds.containsRect room.rect = true :=
  board_inside (Rect.whole_edges 0 0 3 1) gap_on_map

theorem gap_mappable : Words.Mappable gapRules gapStart.board.rooms :=
  board_mappable (Rect.whole_edges 0 0 3 1) gap_on_map (Rect.whole_sized 0 0 (by decide) (by decide))
    (by constructor <;> decide) (by decide) (by decide)

theorem gap_started : gapStart.strategy = some gapMap :=
  Words.floor_built gap_floor gap_inside gap_mappable.measured gap_mappable.rings

theorem gap_routed (rng : Rng) :
    ((routeFirst gapRules (Words.strategy .forbid) gapEdge gapStart).run rng).1 =
      committing (Words.strategy .forbid) gapEdge gapStart.board gapPath false (some gapMap) := by
  have made : ((Grid.strategy .forbid).propose (gapRules.context gapStart.board) gapEdge.a gapEdge.b 0 gapMap).run rng =
      ((some gapPath, gapMap), rng) :=
    congrArg (fun offer : Option (Proposal Rat) × Rng => ((offer.1, gapMap), offer.2)) (gap_proposed rng)
  obtain ⟨raster, here, offers⟩ := Words.run_mapped gap_floor rfl .start gap_inside gap_mappable
  obtain rfl := Option.some.inj (gap_started.symm.trans here)
  have asked : (((Words.strategy .forbid).propose (gapRules.context gapStart.board) gapEdge.a gapEdge.b 0
      (some gapMap)).run rng).1 = (some gapPath, some gapMap) :=
    (offers gapEdge 0 rng).trans (congrArg (fun answer => (answer.1.1, some gapMap)) made)
  have once : gapRules.perEdge = 1 := rfl
  simp only [routeFirst, gap_started, once, firstOffer, draw_run_bind]
  generalize ((Words.strategy .forbid).propose (gapRules.context gapStart.board) gapEdge.a gapEdge.b 0
    (some gapMap)).run rng = answer at asked ⊢
  obtain ⟨⟨offer, inner⟩, rest⟩ := answer
  cases asked
  rfl

def flatRules : RouteRules Rat := { gapRules with bounds := .whole 0 0 5 1 }

def flatRooms : List (Room Rat) :=
  [.new ⟨0⟩ (.whole 0 0 1 1), .new ⟨1⟩ (.whole 4 0 1 1), .new ⟨2⟩ (.whole 2 0 0 1)]

theorem flat_on_map : ∀ room ∈ flatRooms, ∃ s, OnMap ⟨0, 0, 5, 1⟩ room s :=
  List.forall_mem_cons.mpr ⟨on_map ⟨0⟩ 0 0 (by decide) (by decide) (by constructor <;> decide) (by decide),
    List.forall_mem_cons.mpr ⟨on_map ⟨1⟩ 4 0 (by decide) (by decide) (by constructor <;> decide) (by decide),
      List.forall_mem_singleton.mpr (on_map ⟨2⟩ 2 0 (by decide) (by decide) (by constructor <;> decide) (by decide))⟩⟩

end Floorplan

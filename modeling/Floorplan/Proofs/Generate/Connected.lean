import Floorplan.Coord.Rational
import Floorplan.Proofs.Connect.ExtraEdges
import Floorplan.Proofs.Generate.Attempts
import Floorplan.Proofs.Generate.Rows
import Floorplan.Proofs.Route.Kept

set_option autoImplicit false

namespace Floorplan

open Components (Joined Tracks)
open Floorplan.Random (Draw Rng)

-- Pairs of rooms that join all of them, none to itself and no two twice.
structure Joins (n : Nat) (pairs : List (RoomId × RoomId)) : Prop where
  inRange : ∀ pair ∈ pairs, pair.1.index < n ∧ pair.2.index < n
  apart : ∀ pair ∈ pairs, pair.1 ≠ pair.2
  once : (pairs.map fun pair => unordered pair.1 pair.2).Nodup
  joined : ∀ i < n, ∀ j < n, Joined (pairs.map places) i j

theorem Joins.empty {n : Nat} {pairs : List (RoomId × RoomId)} (joins : Joins n pairs) (few : n ≤ 1) :
    pairs = [] := by
  apply List.eq_nil_iff_forall_not_mem.mpr
  rintro ⟨⟨a⟩, ⟨b⟩⟩ member
  obtain ⟨aRange, bRange⟩ := joins.inRange _ member
  simp only at aRange bRange
  apply joins.apart _ member
  simp only [RoomId.mk.injEq]
  omega

variable {α : Type}

theorem tree_and_extras_join (rooms : Array (Room α)) (numbered : Numbered rooms) (tree extra : List (Edge α))
    (spans : Spans rooms tree) (extras : Extras rooms (tree.map Edge.key) extra) :
    Joins rooms.size ((tree ++ extra).map Edge.ends) := by
  refine ⟨?_, ?_, ?_, ?_⟩
  · intro pair member
    obtain ⟨e, listed, rfl⟩ := List.mem_map.mp member
    rcases List.mem_append.mp listed with inTree | inExtra
    · exact ⟨Nat.lt_trans (spans.rising e inTree) (spans.inRange e inTree), spans.inRange e inTree⟩
    · obtain ⟨aRange, room, roomListed, same⟩ := extras.inRange e inExtra
      refine ⟨aRange, ?_⟩
      change e.b.index < rooms.size
      rw [← same]
      exact numbered_lt rooms numbered room (Array.mem_toList_iff.mpr roomListed)
  · intro pair member
    obtain ⟨e, listed, rfl⟩ := List.mem_map.mp member
    rcases List.mem_append.mp listed with inTree | inExtra
    · intro same
      have before := spans.rising e inTree
      rw [show e.a = e.b from same] at before
      exact Nat.lt_irrefl _ before
    · exact extras.apart e inExtra
  · have treeKeys : tree.map Edge.key = tree.map Edge.ends :=
      List.map_congr_left fun e member => if_pos (Nat.le_of_lt (spans.rising e member))
    rw [List.map_map]
    change ((tree ++ extra).map Edge.key).Nodup
    rw [List.map_append, List.nodup_append]
    refine ⟨treeKeys ▸ spans.once, extras.once, ?_⟩
    intro key inTree other inExtra same
    obtain ⟨e, listed, rfl⟩ := List.mem_map.mp inExtra
    exact extras.fresh e listed (same ▸ inTree)
  · intro i iRange j jRange
    refine (spans.joined i iRange j jRange).mono ?_
    rw [List.map_map, List.map_append]
    exact List.subset_append_left _ _

namespace Layout

def Adjoins (layout : Layout α) (i j : RoomId) : Prop :=
  ∃ connector ∈ layout.connectors, connector.rooms = (i, j) ∨ connector.rooms = (j, i)

-- All rooms hang together, and no connector joins what is one room or joined by another.
structure Connected (layout : Layout α) : Prop where
  chain : ∀ i < layout.rooms.size, ∀ j < layout.rooms.size, Relation.ReflTransGen layout.Adjoins ⟨i⟩ ⟨j⟩
  answer : layout.isConnected = true
  apart : ∀ connector ∈ layout.connectors, connector.rooms.1 ≠ connector.rooms.2
  once : (layout.connectors.map fun connector => unordered connector.rooms.1 connector.rooms.2).Nodup

theorem adjoins_symm (layout : Layout α) : Std.Symm layout.Adjoins where
  symm _ _ := fun ⟨connector, listed, joins⟩ => ⟨connector, listed, joins.symm⟩

theorem joined_chain (layout : Layout α) (i j : Nat)
    (joined : Joined ((layout.connectors.map (·.rooms)).map places) i j) :
    Relation.ReflTransGen layout.Adjoins ⟨i⟩ ⟨j⟩ := by
  induction joined with
  | rel x y member =>
      obtain ⟨ends, listed, same⟩ := List.mem_map.mp member
      obtain ⟨connector, connectorListed, rfl⟩ := List.mem_map.mp listed
      cases same
      exact .single ⟨connector, connectorListed, .inl rfl⟩
  | refl x => exact .refl
  | symm x y _ ih =>
      have := layout.adjoins_symm
      exact symm ih
  | trans x y z _ _ first second => exact first.trans second

theorem joins_connected (layout : Layout α) (joins : Joins layout.rooms.size (layout.connectors.map (·.rooms))) :
    layout.Connected := by
  refine ⟨?_, ?_, ?_, ?_⟩
  · exact fun i iRange j jRange => layout.joined_chain i j (joins.joined i iRange j jRange)
  · obtain ⟨tracks, size⟩ := Components.merges_track (Components.new_tracks layout.rooms.size)
      ((layout.connectors.map (·.rooms)).map places) fun pair member => by
        obtain ⟨ends, listed, rfl⟩ := List.mem_map.mp member
        rw [Components.new_size]
        exact joins.inRange ends listed
    rw [List.foldl_map, List.foldl_map] at tracks size
    apply (Components.all_linked_iff tracks).mpr
    rw [size, Components.new_size]
    exact joins.joined
  · exact fun connector listed => joins.apart _ (List.mem_map_of_mem listed)
  · have once := joins.once
    rwa [List.map_map] at once

end Layout

theorem bare_of_doorless (rooms : Array (Room α)) (doorless : ∀ room ∈ rooms, room.doors = []) :
    rooms.map Room.bare = rooms := by
  apply Array.ext_getElem?
  intro k
  rw [Array.getElem?_map]
  cases read : rooms[k]? with
  | none => rfl
  | some room =>
      have doors := doorless room (Array.mem_of_getElem? read)
      obtain ⟨id, rect, _⟩ := room
      cases doors
      rfl

variable [Coord α]

theorem routed_rooms_bare {σ : Type} (rules : RouteRules α) (strategy : Strategy α σ) (edges : List (Edge α))
    (start : RouteState α σ) (faithful : start.board.index.Faithful) (rng : Rng) :
    ((routeAll rules strategy edges start).run rng).1.2.board.rooms.map Room.bare =
      start.board.rooms.map Room.bare := by
  obtain ⟨connectors, ran, _⟩ := route_all_run rules strategy start edges [] start .start rng
  exact (route_run_ledger rules strategy start faithful _ _ ran).bare_rooms

theorem generated_layout_connected (config : Config α) (seed : UInt64) (layout : Layout α)
    (generated : generate config seed = .ok layout) :
    let n := layout.rooms.size
    let rng := attemptStream config seed (layout.attempts - 1)
    ∃ placed index rest extra kept,
      (placeRooms (.ofConfig config) (.new config.indexCellSize)).run rng = ((.ok placed, index), rest)
        ∧ layout.rooms.map Room.bare = placed
        ∧ ((buildEdges placed config.metric config.extraEdgeFraction).run rest).1 =
            spanningTree placed config.metric ++ extra
        ∧ kept.Sublist extra
        ∧ layout.connectors.map (·.rooms) = (spanningTree placed config.metric ++ kept).map Edge.ends
        ∧ (spanningTree placed config.metric).length = n - 1
        ∧ layout.Connected
        ∧ n - 1 ≤ layout.connectors.length
        ∧ layout.connectors.length ≤ n - 1 + extraCount (n - 1) config.extraEdgeFraction
        ∧ (n ≤ 1 → layout.connectors = []) := by
  obtain ⟨number, finished⟩ := generate_ok config seed layout generated
  obtain ⟨placed, index, rest, placing, routed, _, _, attempts⟩ := attempt_ok config _ _ _ layout finished
  have initial := place_rooms_placed (.ofConfig config) _ (SpatialIndex.new_faithful config.indexCellSize)
    _ placed index rest placing
  have spans := spanning_tree_spec placed initial.numbered config.metric
  obtain ⟨extra, edges, few, extras⟩ := build_edges_spec placed config.metric config.extraEdgeFraction rest
  rw [edges] at routed
  obtain ⟨σ, strategy, inner, outcome, final⟩ := route_by_kind_ok config placed index _ _ _ _ routed
  obtain ⟨kept, sublist, same⟩ := route_all_keeps_tree _ strategy _ extra spans.needed extras.extra _
    initial.faithful _ _ outcome
  -- routing adds doors and nothing else, so the finished rooms are the placed ones
  have bare := routed_rooms_bare (.ofConfig config) strategy (spanningTree placed config.metric ++ extra)
    { board := { rooms := placed, index, nextId := 0 }, strategy := inner } initial.faithful
    ((buildEdges placed config.metric config.extraEdgeFraction).run rest).2
  rw [final, bare_of_doorless placed initial.doorless] at bare
  have size : layout.rooms.size = placed.size := by
    rw [← bare, Array.size_map]
  have joins := tree_and_extras_join placed initial.numbered _ kept spans (extras.sublist sublist)
  rw [← same, ← size] at joins
  have length := congrArg List.length same
  rw [List.length_map, List.length_map, List.length_append] at length
  have bound := sublist.length_le
  rw [spans.length, ← size] at length
  simp only [spans.length, ← size] at few
  simp only [attempts, Nat.add_sub_cancel]
  refine ⟨placed, index, rest, extra, kept, placing, bare, edges, sublist, same, ?_, layout.joins_connected joins,
    ?_, ?_, ?_⟩
  · rw [spans.length, size]
  · omega
  · omega
  · exact fun single => List.map_eq_nil_iff.mp (joins.empty single)

def strip : Config Rat :=
  { width := 6, height := 3, roomCount := 2, roomSizes := [(3, 3)], roomPadding := 0, touchingFraction := 0,
    corridorThickness := 1, crossing := .forbid, strategy := .direct, metric := .manhattan,
    extraEdgeFraction := 0, unroutable := .restart, budgets := { placement := 2, perEdge := 1, pipeline := 1 },
    indexCellSize := 3 }

def stripRoom (k : Nat) : Room Rat := .new ⟨k⟩ ⟨3 * k, 0, 3, 3⟩

def stripFilled : Nat → Placement Rat
  | 0 => { rooms := #[], touchingLeft := 0, index := .new strip.indexCellSize }
  | k + 1 =>
    { rooms := (stripFilled k).rooms.push (stripRoom k), touchingLeft := 0
      index := (stripFilled k).index.reserve (stripRoom k).rect (.room ⟨k⟩) }

def stripStream : Nat → Rng
  | 0 => .ofSeed 1
  | k + 1 => ((Placement.scattered (.ofConfig strip)).run (stripStream k)).2

theorem strip_filled_taken (k : Nat) :
    stripFilled k = Placement.taken (.new strip.indexCellSize) (fun k => (stripRoom k).rect) k := by
  induction k with
  | zero => rfl
  | succ k ih =>
      rw [stripFilled, ih, Placement.taken, Placement.withRoom, Placement.taken_size]
      rfl

theorem strip_placed : (placeRooms (.ofConfig strip) (.new strip.indexCellSize)).run (.ofSeed 1) =
    ((.ok (stripFilled 2).rooms, (stripFilled 2).index), stripStream 2) := by
  have drawn : ∀ k < 2, ((Placement.scattered (.ofConfig strip)).run (stripStream k)).1 =
      some (stripRoom k).rect := by
    decide +kernel
  have inside : ∀ k < 2, (PlacementRequest.ofConfig strip).bounds.containsRect (stripRoom k).rect = true := by
    decide +kernel
  have apart : ∀ k < 2, ∀ j < k, (stripRoom j).rect.overlaps (stripRoom k).rect = false := by decide +kernel
  rw [strip_filled_taken]
  exact Placement.place_rooms_taken _ (fun k => (stripRoom k).rect) (.ofConfig strip) stripStream 2 (by decide +kernel)
    rfl rfl rfl rfl rfl (fun k fits => Prod.ext (drawn k fits) rfl) inside apart

theorem strip_generated_doors :
    ∃ layout, generate strip 1 = .ok layout ∧ layout.rooms.toList.map (·.doors.length) = [1, 1] := by
  have routed : ((routeByKind strip (stripFilled 2).rooms (stripFilled 2).index
      ((buildEdges (stripFilled 2).rooms strip.metric strip.extraEdgeFraction).run (stripStream 2)).1).run
      ((buildEdges (stripFilled 2).rooms strip.metric strip.extraEdgeFraction).run
        (stripStream 2)).2).1.toOption.map (·.1.toList.map (·.doors.length)) = some [1, 1] := by
    decide +kernel
  obtain ⟨answer, finished, doors⟩ := Option.map_eq_some_iff.mp routed
  have made := attempt_made strip 1 1 _ _ _ answer.1 _ answer.2 strip_placed (ok_of_to_option finished)
  exact ⟨_, first_attempt_generated strip 1 _ (by decide +kernel) (by decide) made, doors⟩

theorem strip_generated : ∃ layout, generate strip 1 = .ok layout ∧ layout.rooms.size = 2 := by
  obtain ⟨layout, generated, doors⟩ := strip_generated_doors
  have size := congrArg List.length doors
  rw [List.length_map, Array.length_toList] at size
  exact ⟨layout, generated, size⟩

theorem strip_connected :
    ∃ layout, generate strip 1 = .ok layout ∧ layout.Connected ∧ layout.connectors.length = 1 := by
  obtain ⟨layout, generated, size⟩ := strip_generated
  obtain ⟨_, _, _, _, _, _, _, _, _, _, _, connected, enough, few, _⟩ :=
    generated_layout_connected strip 1 layout generated
  have noExtra : extraCount 1 strip.extraEdgeFraction = 0 := by decide +kernel
  rw [size] at enough few
  rw [noExtra] at few
  exact ⟨layout, generated, connected, Nat.le_antisymm few enough⟩

end Floorplan

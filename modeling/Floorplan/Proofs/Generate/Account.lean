import Floorplan.Proofs.Generate.Connected
import Floorplan.Proofs.Route.Soundness

set_option autoImplicit false

namespace Floorplan

open Floorplan.Random (Draw Rng)

variable {α : Type} [Coord α]

-- What the edges of a fresh router came to, from the board that it began with to the one it left.
structure Account (start : RouteBoard α) (edges : List (Edge α)) (final : RouteBoard α)
    (connectors : List (Connector α)) : Prop where
  ids : ∀ (i : Nat) (connector : Connector α), connectors[i]? = some connector → connector.id = ⟨i⟩
  -- all tree edges and some of the others, in the order of the edges
  pairs : ∃ kept : List (Edge α), kept.Sublist edges
    ∧ kept.filter Edge.isTree = edges.filter Edge.isTree ∧ connectors.map (·.rooms) = kept.map Edge.ends
  rooms : ∀ k : Nat, final.rooms[k]? = start.rooms[k]?.map fun room =>
    { room with doors := room.doors ++ connectors.flatMap (·.doorsAt k) }
  entries : final.index.entries.toList =
    start.index.entries.toList ++ connectors.flatMap Connector.reservations
  index : final.index = .ofReservations start.index.cellSize final.index.entries.toList

theorem Account.of_ledger {start final : RouteBoard α} {edges kept : List (Edge α)}
    {connectors : List (Connector α)} (ledger : Ledger start final connectors) (fresh : start.nextId = 0)
    (sublist : kept.Sublist edges) (trees : kept.filter Edge.isTree = edges.filter Edge.isTree)
    (same : connectors.map (·.rooms) = kept.map Edge.ends) : Account start edges final connectors where
  ids := by
    intro i connector read
    have number := ledger.ids i connector read
    rw [fresh, Nat.zero_add] at number
    exact congrArg ConnectorId.mk number
  pairs := ⟨kept, sublist, trees, same⟩
  rooms := ledger.rooms
  entries := ledger.entries
  index := by
    rw [ledger.entries]
    exact ledger.index

theorem route_all_account {σ : Type} (rules : RouteRules α) (strategy : Strategy α σ) (edges : List (Edge α))
    (start : RouteState α σ) (fresh : start.board.nextId = 0) (faithful : start.board.index.Faithful) (rng : Rng)
    (connectors : List (Connector α))
    (routed : ((routeAll rules strategy edges start).run rng).1.1 = .ok connectors) :
    Account start.board edges ((routeAll rules strategy edges start).run rng).1.2.board connectors := by
  obtain ⟨all, ran, same⟩ := route_all_run rules strategy start edges [] start .start rng
  obtain ⟨kept, sublist, trees, pairs⟩ := route_all_kept rules strategy edges start faithful rng connectors routed
  obtain rfl := same connectors routed
  exact .of_ledger (route_run_ledger rules strategy start faithful _ _ ran) fresh sublist trees pairs

def routedBoard (config : Config α) (start : RouteBoard α) (edges : List (Edge α)) (rng : Rng) : RouteBoard α :=
  match config.strategy with
  | .direct =>
    ((routeAll (.ofConfig config) Direct.strategy edges { board := start, strategy := () }).run rng).1.2.board
  | .grid =>
    let raster := Raster.ofRooms config.bounds start.rooms
    ((routeAll (.ofConfig config) (Grid.strategy config.crossing) edges
      { board := start, strategy := raster }).run rng).1.2.board

theorem route_by_kind_account (config : Config α) (placed : Array (Room α)) (index : SpatialIndex α)
    (faithful : index.Faithful) (edges : List (Edge α)) (rng : Rng) (rooms : Array (Room α))
    (connectors : List (Connector α))
    (finished : ((routeByKind config placed index edges).run rng).1 = .ok (rooms, connectors)) :
    let start := { rooms := placed, index, nextId := 0 }
    let final := routedBoard config start edges rng
    final.rooms = rooms ∧ Account start edges final connectors := by
  rw [routeByKind] at finished
  cases kind : config.strategy with
  | direct =>
      simp only [kind] at finished
      obtain ⟨routed, final⟩ := route_with_ok config _ _ placed index edges rng rooms connectors finished
      simp only [routedBoard, kind]
      exact ⟨final, route_all_account _ _ edges _ rfl faithful rng connectors routed⟩
  | grid =>
      simp only [kind] at finished
      obtain ⟨routed, final⟩ := route_with_ok config _ _ placed index edges rng rooms connectors finished
      simp only [routedBoard, kind]
      exact ⟨final, route_all_account _ _ edges _ rfl faithful rng connectors routed⟩

theorem finished_edges_account :
    (∀ {σ : Type} (rules : RouteRules α) (strategy : Strategy α σ) (edges : List (Edge α))
        (start : RouteState α σ) (rng : Rng) (connectors : List (Connector α)),
      start.board.nextId = 0 → start.board.index.Reached →
      ((routeAll rules strategy edges start).run rng).1.1 = .ok connectors →
      Account start.board edges ((routeAll rules strategy edges start).run rng).1.2.board connectors)
    ∧ ∀ (config : Config α) (seed : UInt64) (layout : Layout α), generate config seed = .ok layout →
      let rng := attemptStream config seed (layout.attempts - 1)
      ∃ placed index rest,
        (placeRooms (.ofConfig config) (.new config.indexCellSize)).run rng = ((.ok placed, index), rest)
          ∧ (∀ room ∈ placed, room.doors = [])
          ∧ index.entries.toList = placed.toList.map Room.reservation
          ∧ let edges := (buildEdges placed config.metric config.extraEdgeFraction).run rest
            let start := { rooms := placed, index, nextId := 0 }
            let final := routedBoard config start edges.1 edges.2
            layout.rooms = final.rooms ∧ Account start edges.1 final layout.connectors := by
  constructor
  · intro σ rules strategy edges start rng connectors fresh reached routed
    exact route_all_account rules strategy edges start fresh ((SpatialIndex.reached_iff_faithful _).mp reached) rng
      connectors routed
  · intro config seed layout generated
    obtain ⟨number, finished⟩ := generate_ok config seed layout generated
    obtain ⟨placed, index, rest, placing, routed, _, _, attempts⟩ := attempt_ok config _ _ _ layout finished
    have initial := place_rooms_placed (.ofConfig config) _ (SpatialIndex.new_faithful config.indexCellSize)
      _ placed index rest placing
    obtain ⟨rooms, account⟩ := route_by_kind_account config placed index initial.faithful _ _ _ _ routed
    rw [attempts, Nat.add_sub_cancel]
    exact ⟨placed, index, rest, placing, initial.doorless, initial.entries, rooms.symm, account⟩

def forcingRules : RouteRules Rat := { narrowRules with unroutable := .forceBestEffort }

def cornered : Proposal Rat :=
  { doors := (⟨.right, ⟨10, 0⟩⟩, ⟨.left, ⟨20, 0⟩⟩), geometry := .doorway }

def bridgeOnce : Strategy Rat Nat :=
  { propose := fun _ _ _ _ built => pure (some (if built = 0 then bridge else cornered), built)
    proposeForced := fun _ _ _ built => pure (none, built)
    onCommit := fun _ built => built + 1 }

def spareEdge : Edge Rat := { bridgedEdge with kind := .extra }

theorem bridge_once_first (rng : Rng) :
    let first := connectorOf openFloor bridgedEdge bridge false
    (routeEdge forcingRules bridgeOnce bridgedEdge { board := openFloor, strategy := 0 }).run rng =
      ((.ok (some first), { board := openFloor.withConnector first, strategy := 1 }), rng) := by
  have clear : (forcingRules.tryReserve bridgedEdge bridge openFloor).1 = 0 := by
    rw [forcingRules.try_reserve_conflicts bridgedEdge bridge openFloor open_floor_ready.searchable bridge_sized
      open_floor_ready.occupant_unused, RouteRules.conflicts, open_floor_entries]
    decide +kernel
  have entered := forcingRules.try_reserve_board bridgedEdge bridge openFloor open_floor_ready.searchable.faithful
  rw [if_pos clear] at entered
  have attempts : forcingRules.perEdge = 1 + 1 := rfl
  have proposed : ∀ context a b attempt, bridgeOnce.propose context a b attempt 0 =
    pure (some bridge, 0) := fun _ _ _ _ => rfl
  simp only [routeEdge, attempts, tryAttempts, draw_run_bind, draw_run_pure, proposed, clear, entered, ↓reduceIte,
    commit_entered]
  rfl

theorem bridge_once_account :
    openFloor.nextId = 0 ∧ openFloor.index.Reached
      ∧ ∃ connectors after,
        ((routeAll forcingRules bridgeOnce [bridgedEdge, spareEdge, bridgedEdge]
          { board := openFloor, strategy := 0 }).run (Rng.ofSeed 0)).1 = (.ok connectors, after)
        ∧ connectors.map (·.forced) = [false, true]
        ∧ Account openFloor [bridgedEdge, spareEdge, bridgedEdge] after.board connectors
      ∧ ∃ layout start edges final, generate strip 1 = .ok layout ∧ layout.rooms.size = 2
        ∧ layout.rooms = final.rooms ∧ Account start edges final layout.connectors := by
  obtain ⟨routing, finishing⟩ := finished_edges_account (α := Rat)
  have account := routing forcingRules bridgeOnce
    [bridgedEdge, spareEdge, bridgedEdge] { board := openFloor, strategy := 0 } (Rng.ofSeed 0)
  obtain ⟨layout, generated, size⟩ := strip_generated
  obtain ⟨_, _, _, _, _, _, rooms, whole⟩ := finishing strip 1 layout generated
  have forced : ((routeAll forcingRules bridgeOnce [bridgedEdge, spareEdge, bridgedEdge]
      { board := openFloor, strategy := 0 }).run (Rng.ofSeed 0)).1.1.toOption.map (·.map (·.forced)) =
        some [false, true] := by
    rw [routeAll, draw_run_bind, bridge_once_first]
    decide +kernel
  generalize (routeAll forcingRules bridgeOnce [bridgedEdge, spareEdge, bridgedEdge]
    { board := openFloor, strategy := 0 }).run (Rng.ofSeed 0) = result at account forced ⊢
  obtain ⟨⟨outcome, after⟩, rng⟩ := result
  cases outcome with
  | error failure => cases forced
  | ok connectors =>
      exact ⟨rfl, open_floor_ready.reached, connectors, after, rfl, Option.some.inj forced,
        account connectors rfl open_floor_ready.reached rfl, layout, _, _, _, generated, size, rooms, whole⟩

end Floorplan

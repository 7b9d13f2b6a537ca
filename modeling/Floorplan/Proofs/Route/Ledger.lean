import Floorplan.Proofs.Route.Call

set_option autoImplicit false

namespace Floorplan

open Floorplan.Random (Draw Rng)

def Room.bare {α : Type} (room : Room α) : Room α := .new room.id room.rect

theorem Room.same_rect {α : Type} (a b : Room α) (same : a.bare = b.bare) : a.rect = b.rect := by
  have rects := congrArg (·.rect) same
  exact rects

theorem concat_read {β : Type} (items : List β) (last found : β) (i : Nat)
    (read : (items ++ [last])[i]? = some found) :
    (i < items.length ∧ items[i]? = some found) ∨ (i = items.length ∧ found = last) := by
  rcases Nat.lt_trichotomy i items.length with before | rfl | beyond
  · rw [List.getElem?_append_left before] at read
    exact .inl ⟨before, read⟩
  · rw [List.getElem?_concat_length] at read
    exact .inr ⟨rfl, (Option.some.inj read).symm⟩
  · have outside : (items ++ [last]).length ≤ i := by
      rw [List.length_append, List.length_singleton]
      exact beyond
    rw [List.getElem?_eq_none outside] at read
    cases read

variable {α σ : Type} [Coord α]

def committed : Except (Failure α) (Option (Connector α)) → List (Connector α)
  | .ok (some connector) => [connector]
  | .ok none => []
  | .error _ => []

-- Calls of one router with one strategy, for any edges, and what they commit. A failed call does
-- not end the sequence, and the stream may stand anywhere at each call.
inductive RouteRun (rules : RouteRules α) (strategy : Strategy α σ) (start : RouteState α σ) :
    List (Connector α) → RouteState α σ → Prop
  | start : RouteRun rules strategy start [] start
  | call {connectors : List (Connector α)} {state : RouteState α σ}
      (earlier : RouteRun rules strategy start connectors state) (edge : Edge α) (rng : Rng) :
      RouteRun rules strategy start
        (connectors ++ committed ((routeEdge rules strategy edge state).run rng).1.1)
        ((routeEdge rules strategy edge state).run rng).1.2

theorem route_all_run (rules : RouteRules α) (strategy : Strategy α σ) (start : RouteState α σ)
    (edges : List (Edge α)) (earlier : List (Connector α)) (state : RouteState α σ)
    (ran : RouteRun rules strategy start earlier state) (rng : Rng) :
    let result := ((routeAll rules strategy edges state).run rng).1
    ∃ connectors, RouteRun rules strategy start (earlier ++ connectors) result.2
      ∧ ∀ routed, result.1 = .ok routed → routed = connectors := by
  induction edges generalizing earlier state rng with
  | nil =>
      refine ⟨[], ?_, fun routed same => ?_⟩
      · rw [List.append_nil]
        exact ran
      · cases same
        rfl
  | cons edge rest ih =>
      have first := ran.call edge rng
      simp only [routeAll, draw_run_bind]
      generalize (routeEdge rules strategy edge state).run rng = answer at first ⊢
      obtain ⟨⟨outcome, state'⟩, rng'⟩ := answer
      cases outcome with
      | error failure => exact ⟨[], first, nofun⟩
      | ok routed =>
          obtain ⟨connectors, later, same⟩ := ih _ state' first rng'
          simp only [draw_run_bind]
          generalize (routeAll rules strategy rest state').run rng' = answer at later same ⊢
          obtain ⟨⟨outcome, state''⟩, rng''⟩ := answer
          have toList : committed (.ok routed : Except (Failure α) _) = routed.toList := by
            cases routed <;> rfl
          rw [toList, List.append_assoc] at later
          cases outcome with
          | error failure => exact ⟨_, later, nofun⟩
          | ok others =>
              refine ⟨_, later, fun all result => ?_⟩
              cases result
              rw [same others rfl]

structure Ledger (start board : RouteBoard α) (connectors : List (Connector α)) : Prop where
  nextId : board.nextId = start.nextId + connectors.length
  ids : ∀ (i : Nat) (connector : Connector α), connectors[i]? = some connector →
    connector.id.index = start.nextId + i
  rooms : ∀ k : Nat, board.rooms[k]? = start.rooms[k]?.map fun room =>
    { room with doors := room.doors ++ connectors.flatMap (·.doorsAt k) }
  index : board.index = .ofReservations start.index.cellSize
    (start.index.entries.toList ++ connectors.flatMap Connector.reservations)

namespace Ledger

variable {start board after : RouteBoard α} {connectors : List (Connector α)}

theorem none (faithful : start.index.Faithful) : Ledger start start [] where
  nextId := rfl
  ids := by simp
  rooms := by simp
  index := by simpa using SpatialIndex.faithful_of_reservations start.index faithful

theorem faithful (ledger : Ledger start board connectors) : board.index.Faithful := by
  rw [ledger.index]
  exact (SpatialIndex.of_reservations_spec _ _).1

theorem cell_size (ledger : Ledger start board connectors) : board.index.cellSize = start.index.cellSize := by
  rw [ledger.index]
  exact (SpatialIndex.of_reservations_spec _ _).2.1

theorem entries (ledger : Ledger start board connectors) :
    board.index.entries.toList = start.index.entries.toList ++ connectors.flatMap Connector.reservations := by
  rw [ledger.index]
  exact (SpatialIndex.of_reservations_spec _ _).2.2

theorem bare_rooms (ledger : Ledger start board connectors) :
    board.rooms.map Room.bare = start.rooms.map Room.bare := by
  apply Array.ext_getElem?
  intro k
  rw [Array.getElem?_map, Array.getElem?_map, ledger.rooms k]
  cases start.rooms[k]? <;> rfl

theorem add (ledger : Ledger start board connectors) (connector : Connector α)
    (gains : board.Gains after connector) (next : connector.id.index = board.nextId) :
    Ledger start after (connectors ++ [connector]) where
  nextId := by
    rw [gains.nextId, ledger.nextId, List.length_append, List.length_singleton, Nat.add_assoc]
  ids := by
    intro i other read
    rcases concat_read connectors connector other i read with ⟨_, earlier⟩ | ⟨rfl, rfl⟩
    · exact ledger.ids i other earlier
    · rw [next, ledger.nextId]
  rooms := by
    intro k
    rw [gains.rooms k, ledger.rooms k]
    cases start.rooms[k]? <;> simp
  index := by
    rw [gains.index, ledger.cell_size, ledger.entries]
    simp

end Ledger

omit [Coord α] in
theorem serves_anything (rules : RouteRules α) (strategy : Strategy α σ) (edge : Edge α)
    (board : RouteBoard α) : Serves rules strategy edge board (fun _ => True) (fun _ => True) where
  propose _ _ _ _ := ⟨trivial, fun _ _ => trivial⟩
  proposeForced _ _ _ := ⟨trivial, fun _ _ => trivial⟩

theorem route_run_ledger (rules : RouteRules α) (strategy : Strategy α σ) (start : RouteState α σ)
    (faithful : start.board.index.Faithful) (connectors : List (Connector α)) (state : RouteState α σ)
    (ran : RouteRun rules strategy start connectors state) : Ledger start.board state.board connectors := by
  induction ran with
  | start => exact .none faithful
  | @call connectors state earlier edge rng ih =>
      have routed := route_edge_spec state ih.faithful (serves_anything rules strategy edge state.board)
        trivial rng
      generalize (routeEdge rules strategy edge state).run rng = answer at routed ⊢
      obtain ⟨⟨outcome, after⟩, rng'⟩ := answer
      cases routed with
      | failed inner tree kept => simpa [committed] using ih
      | dropped inner extra kept => simpa [committed] using ih
      | committed proposal forced inner kept offered clear =>
          exact ih.add _ (state.board.with_connector_gains ih.faithful _) rfl

-- What holds at the start and is handed on by every outcome of a call holds after any calls.
theorem route_run_keeps (rules : RouteRules α) (strategy : Strategy α σ) (start : RouteState α σ)
    (faithful : start.board.index.Faithful) (keeps : RouteState α σ → σ → Prop)
    (offers : RouteState α σ → Edge α → Proposal α → Prop) (holds : List (Connector α) → RouteState α σ → Prop)
    (serves : ∀ state edge, Serves rules strategy edge state.board (keeps state) (offers state edge))
    (unasked : ∀ state, keeps state state.strategy) (initially : holds [] start)
    (kept : ∀ connectors state inner, holds connectors state → keeps state inner →
      holds connectors { board := state.board, strategy := inner })
    (commits : ∀ connectors state edge proposal forced inner, Ledger start.board state.board connectors →
      holds connectors state → keeps state inner → offers state edge proposal →
      holds (connectors ++ [connectorOf state.board edge proposal forced])
        (committedState strategy (connectorOf state.board edge proposal forced) state.board inner))
    (connectors : List (Connector α)) (state : RouteState α σ)
    (ran : RouteRun rules strategy start connectors state) : holds connectors state := by
  induction ran with
  | start => exact initially
  | @call connectors state earlier edge rng ih =>
      have ledger := route_run_ledger rules strategy start faithful connectors state earlier
      have routed := route_edge_spec state ledger.faithful (serves state edge) (unasked state) rng
      generalize (routeEdge rules strategy edge state).run rng = answer at routed ⊢
      obtain ⟨⟨outcome, after⟩, rng'⟩ := answer
      cases routed with
      | failed inner tree keptInner => simpa [committed] using kept connectors state inner ih keptInner
      | dropped inner extra keptInner => simpa [committed] using kept connectors state inner ih keptInner
      | committed proposal forced inner keptInner offered clear =>
          exact commits connectors state edge proposal forced inner ledger ih keptInner offered

end Floorplan

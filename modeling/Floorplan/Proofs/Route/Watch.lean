import Floorplan.Coord.Rational
import Floorplan.Proofs.Route.Call

/-!
What a strategy is shown and told. A watched strategy answers as the strategy does and writes down
every context it is asked in and every connector it is told of; its log shows that a call of the
router either commits one connector or changes nothing.
-/

set_option autoImplicit false

namespace Floorplan

open Floorplan.Random (Draw Rng)

structure Watched (α σ : Type) where
  inner : σ
  seen : List (RouteContext α)
  told : List (Connector α)

def Watched.start {α σ : Type} (inner : σ) : Watched α σ := { inner, seen := [], told := [] }

def Strategy.watched {α σ : Type} (strategy : Strategy α σ) : Strategy α (Watched α σ) :=
  { propose := fun context a b attempt log => do
      let (offer, inner) ← strategy.propose context a b attempt log.inner
      pure (offer, { log with inner, seen := log.seen ++ [context] })
    proposeForced := fun context a b log => do
      let (offer, inner) ← strategy.proposeForced context a b log.inner
      pure (offer, { log with inner, seen := log.seen ++ [context] })
    onCommit := fun connector log =>
      { log with inner := strategy.onCommit connector log.inner, told := log.told ++ [connector] } }

def RouteState.unwatched {α σ : Type} (state : RouteState α (Watched α σ)) : RouteState α σ :=
  { board := state.board, strategy := state.strategy.inner }

variable {α σ : Type} [Coord α]

omit [Coord α] in
theorem watched_propose (strategy : Strategy α σ) (context : RouteContext α) (a b : RoomId) (attempt : Nat)
    (log : Watched α σ) (rng : Rng) :
    (strategy.watched.propose context a b attempt log).run rng =
      let answer := (strategy.propose context a b attempt log.inner).run rng
      ((answer.1.1, { log with inner := answer.1.2, seen := log.seen ++ [context] }), answer.2) := rfl

theorem try_attempts_watched (rules : RouteRules α) (strategy : Strategy α σ) (edge : Edge α)
    (left attempt : Nat) (best : BestProposal α) (state : RouteState α (Watched α σ)) (rng : Rng) :
    (tryAttempts rules strategy edge left attempt best state.unwatched).run rng =
      let result := (tryAttempts rules strategy.watched edge left attempt best state).run rng
      ((result.1.1, result.1.2.unwatched), result.2) := by
  induction left generalizing attempt best state rng with
  | zero => rfl
  | succ left ih =>
      obtain ⟨board, log⟩ := state
      simp only [tryAttempts, RouteState.unwatched, draw_run_bind, watched_propose]
      generalize (strategy.propose (rules.context board) edge.a edge.b attempt log.inner).run rng = answer
      obtain ⟨⟨offer, inner⟩, rng'⟩ := answer
      cases offer with
      | none => exact ih _ _ { board, strategy := { log with inner, seen := log.seen ++ [rules.context board] } } _
      | some proposal =>
          by_cases clear : (rules.tryReserve edge proposal board).1 = 0
          · simp only [clear, ↓reduceIte]
            rfl
          · simp only [clear, ↓reduceIte]
            exact ih _ _
              { board := _, strategy := { log with inner, seen := log.seen ++ [rules.context board] } } _

omit [Coord α] in
theorem fallback_watched (rules : RouteRules α) (strategy : Strategy α σ) (edge : Edge α)
    (best : BestProposal α) (state : RouteState α (Watched α σ)) (rng : Rng) :
    (fallback rules strategy edge best state.unwatched).run rng =
      let result := (fallback rules strategy.watched edge best state).run rng
      ((result.1.1, result.1.2.unwatched), result.2) := by
  cases best <;> rfl

theorem route_edge_watched (rules : RouteRules α) (strategy : Strategy α σ) (edge : Edge α)
    (state : RouteState α (Watched α σ)) (rng : Rng) :
    (routeEdge rules strategy edge state.unwatched).run rng =
      let result := (routeEdge rules strategy.watched edge state).run rng
      ((result.1.1, result.1.2.unwatched), result.2) := by
  simp only [routeEdge, draw_run_bind, try_attempts_watched]
  generalize (tryAttempts rules strategy.watched edge rules.perEdge 0 none state).run rng = answer
  obtain ⟨⟨outcome, state⟩, rng'⟩ := answer
  cases outcome with
  | ok connector => rfl
  | error best =>
      simp only
      split
      next => rfl
      next =>
        split
        next => rfl
        next =>
          simp only [draw_run_bind, fallback_watched]
          generalize (fallback rules strategy.watched edge best state).run rng' = answer
          obtain ⟨⟨offer, state⟩, rng''⟩ := answer
          cases offer <;> rfl

omit [Coord α] in
theorem watched_serves (rules : RouteRules α) (strategy : Strategy α σ) (edge : Edge α) (board : RouteBoard α) :
    Serves rules strategy.watched edge board
      (fun log => (∀ context ∈ log.seen, context = rules.context board) ∧ log.told = []) (fun _ => True) := by
  -- both kinds of proposals append the context that they were shown
  have logged : ∀ seen : List (RouteContext α), (∀ context ∈ seen, context = rules.context board) →
      ∀ context ∈ seen ++ [rules.context board], context = rules.context board := by
    intro seen before context member
    rcases List.mem_append.mp member with earlier | last
    · exact before context earlier
    · exact List.mem_singleton.mp last
  constructor
  · rintro attempt log rng ⟨seen, told⟩
    exact ⟨⟨logged log.seen seen, told⟩, fun _ _ => trivial⟩
  · rintro log rng ⟨seen, told⟩
    exact ⟨⟨logged log.seen seen, told⟩, fun _ _ => trivial⟩

-- A call is shown nothing but the board it began with.
theorem route_edge_all_or_nothing (rules : RouteRules α) (strategy : Strategy α σ) (edge : Edge α)
    (board : RouteBoard α) (reached : board.index.Reached) (inner : σ) (rng : Rng) :
    let result := (routeEdge rules strategy.watched edge { board, strategy := .start inner }).run rng
    let after := result.1.2
    (routeEdge rules strategy edge { board, strategy := inner }).run rng =
        ((result.1.1, after.unwatched), result.2)
      ∧ (∀ context ∈ after.strategy.seen, context = rules.context board)
      ∧ match result.1.1 with
        | .error failure =>
          failure = .unroutableEdge edge.a edge.b rules.perEdge ∧ after.board = board ∧ after.strategy.told = []
        | .ok none => after.board = board ∧ after.strategy.told = []
        | .ok (some connector) =>
          connector.id.index = board.nextId ∧ connector.rooms = (edge.a, edge.b)
            ∧ board.Gains after.board connector ∧ after.strategy.told = [connector] := by
  have faithful := (SpatialIndex.reached_iff_faithful _).mp reached
  have routed := route_edge_spec { board, strategy := Watched.start inner } faithful
    (watched_serves rules strategy edge board) ⟨nofun, rfl⟩ rng
  refine ⟨route_edge_watched rules strategy edge { board, strategy := .start inner } rng, ?_⟩
  generalize (routeEdge rules strategy.watched edge { board, strategy := .start inner }).run rng = result
    at routed ⊢
  obtain ⟨⟨outcome, after⟩, rng'⟩ := result
  cases routed with
  | failed log tree kept => exact ⟨kept.1, rfl, rfl, kept.2⟩
  | dropped log extra kept => exact ⟨kept.1, rfl, kept.2⟩
  | committed proposal forced log kept offered clear =>
      refine ⟨kept.1, rfl, rfl, board.with_connector_gains faithful _, ?_⟩
      exact congrArg (· ++ _) kept.2

def sharedWall : RouteBoard Rat :=
  { rooms := #[.new ⟨0⟩ ⟨0, 0, 10, 10⟩, .new ⟨1⟩ ⟨10, 0, 10, 10⟩]
    index := .ofReservations 8 [⟨⟨0, 0, 10, 10⟩, .room ⟨0⟩⟩, ⟨⟨10, 0, 10, 10⟩, .room ⟨1⟩⟩]
    nextId := 0 }

def doorwayAt (along : Rat) : Proposal Rat :=
  { doors := (⟨.right, ⟨10, along⟩⟩, ⟨.left, ⟨10, along⟩⟩), geometry := .doorway }

def secondThought : Strategy Rat Unit :=
  { propose := fun _ _ _ attempt inner => pure (some (doorwayAt (if attempt = 0 then 0 else 5)), inner)
    proposeForced := fun _ _ _ inner => pure (none, inner)
    onCommit := fun _ inner => inner }

def plainRules : RouteRules Rat :=
  { bounds := ⟨0, 0, 40, 40⟩, thickness := 1, crossing := .forbid, unroutable := .restart, perEdge := 4 }

def treeEdge : Edge Rat := { a := ⟨0⟩, b := ⟨1⟩, weight := 20, kind := .tree }

theorem second_thought_commits :
    sharedWall.index.Reached
      ∧ (plainRules.tryReserve treeEdge (doorwayAt 0) sharedWall).1 ≠ 0
      ∧ ∃ connector after,
        ((routeEdge plainRules secondThought treeEdge { board := sharedWall, strategy := () }).run
          (Rng.ofSeed 0)).1 = (.ok (some connector), after)
        ∧ connector.doors = (doorwayAt 5).doors ∧ sharedWall.Gains after.board connector := by
  have reached : sharedWall.index.Reached :=
    (SpatialIndex.reached_iff_faithful _).mpr (SpatialIndex.of_reservations_spec _ _).1
  have told := route_edge_all_or_nothing plainRules secondThought treeEdge sharedWall reached () (Rng.ofSeed 0)
  have doors : ((routeEdge plainRules secondThought.watched treeEdge
      { board := sharedWall, strategy := .start () }).run (Rng.ofSeed 0)).1.1.toOption.join.map (·.doors) =
        some (doorwayAt 5).doors := by
    decide +kernel
  refine ⟨reached, by decide +kernel, ?_⟩
  generalize (routeEdge plainRules secondThought.watched treeEdge
    { board := sharedWall, strategy := .start () }).run (Rng.ofSeed 0) = result at told doors
  obtain ⟨⟨outcome, after⟩, rng⟩ := result
  obtain ⟨same, _, ended⟩ := told
  rw [same]
  cases outcome with
  | error failure => cases doors
  | ok routed =>
      cases routed with
      | none => cases doors
      | some connector => exact ⟨connector, after.unwatched, rfl, Option.some.inj doors, ended.2.2.1⟩

end Floorplan

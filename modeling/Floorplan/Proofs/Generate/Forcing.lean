import Floorplan.Proofs.Generate.Connected
import Floorplan.Proofs.Generate.Runs

set_option autoImplicit false

namespace Floorplan

open Floorplan.Random (Draw Rng)

variable {α : Type} [Coord α]

section Route

variable {σ : Type} {rules : RouteRules α} {strategy : Strategy α σ}

def Forces (rules : RouteRules α) (strategy : Strategy α σ) (edge : Edge α) (board : RouteBoard α) : Prop :=
  ∀ inner rng, (((strategy.proposeForced (rules.context board) edge.a edge.b inner).run rng).1.1).isSome = true

omit [Coord α] in
theorem fallback_found {edge : Edge α} {board : RouteBoard α} (forces : Forces rules strategy edge board)
    (best : BestProposal α) (inner : σ) (rng : Rng) :
    (((fallback rules strategy edge best { board, strategy := inner }).run rng).1.1).isSome = true := by
  cases best with
  | some kept => rfl
  | none => exact forces inner rng

theorem route_edge_forced (force : rules.unroutable = .forceBestEffort) (edge : Edge α) (state : RouteState α σ)
    (faithful : state.board.index.Faithful) (forces : edge.isTree = true → Forces rules strategy edge state.board)
    (rng : Rng) : ∃ routed, ((routeEdge rules strategy edge state).run rng).1.1 = .ok routed := by
  obtain ⟨board, inner⟩ := state
  have tried := try_attempts_spec faithful (serves_anything rules strategy edge board) rules.perEdge 0 none
    (by simp) inner trivial rng
  simp only [routeEdge, draw_run_bind]
  generalize (tryAttempts rules strategy edge rules.perEdge 0 none { board, strategy := inner }).run rng = answer
    at tried ⊢
  obtain ⟨⟨outcome, state⟩, rng'⟩ := answer
  cases tried with
  | accepted proposal inner' _ _ _ => exact ⟨_, rfl⟩
  | spent best inner' _ _ =>
      simp only
      split
      next extra => exact ⟨none, rfl⟩
      next tree =>
        rw [if_neg (by simp [force]), draw_run_bind]
        have found := fallback_found (forces (by simpa using tree)) best inner' rng'
        generalize (fallback rules strategy edge best { board, strategy := inner' }).run rng' = answer at found ⊢
        obtain ⟨⟨offer, last⟩, rng''⟩ := answer
        cases offer with
        | none => cases found
        | some proposal => exact ⟨_, rfl⟩

theorem route_all_forced (force : rules.unroutable = .forceBestEffort) (start : RouteState α σ)
    (faithful : start.board.index.Faithful) (edges : List (Edge α))
    (forces : ∀ edge ∈ edges, edge.isTree = true → ∀ board : RouteBoard α,
      board.rooms.size = start.board.rooms.size → Forces rules strategy edge board)
    (earlier : List (Connector α)) (state : RouteState α σ) (ran : RouteRun rules strategy start earlier state)
    (rng : Rng) : ∃ connectors, ((routeAll rules strategy edges state).run rng).1.1 = .ok connectors := by
  induction edges generalizing earlier state rng with
  | nil => exact ⟨[], rfl⟩
  | cons edge rest ih =>
      have ledger := route_run_ledger rules strategy start faithful earlier state ran
      have size : state.board.rooms.size = start.board.rooms.size := by
        have sizes := congrArg Array.size ledger.bare_rooms
        rwa [Array.size_map, Array.size_map] at sizes
      obtain ⟨first, routed⟩ := route_edge_forced force edge state ledger.faithful
        (fun tree => forces edge List.mem_cons_self tree state.board size) rng
      have later := ih (fun other inside => forces other (List.mem_cons_of_mem edge inside)) _ _ (ran.call edge rng)
      simp only [routeAll, draw_run_bind]
      generalize (routeEdge rules strategy edge state).run rng = answer at routed later ⊢
      obtain ⟨⟨outcome, after⟩, rng'⟩ := answer
      obtain rfl : outcome = .ok first := routed
      obtain ⟨others, rested⟩ := later rng'
      simp only [draw_run_bind]
      generalize (routeAll rules strategy rest after).run rng' = answer at rested ⊢
      obtain ⟨⟨outcome, final⟩, rng''⟩ := answer
      obtain rfl : outcome = .ok others := rested
      exact ⟨_, rfl⟩

end Route

namespace Direct

-- Of the four approaches to a room two are bends, wherever it lies.
theorem propose_forced_found (a b : Room α) (thickness : α) : (proposeForced a b thickness).isSome = true := by
  simp only [proposeForced, approaches]
  split <;> rfl

theorem strategy_forces (rules : RouteRules α) (edge : Edge α) (board : RouteBoard α)
    (first : edge.a.index < board.rooms.size) (second : edge.b.index < board.rooms.size) :
    Forces rules strategy edge board := by
  intro inner rng
  simp only [strategy, RouteRules.context, Array.getElem?_eq_getElem first, Array.getElem?_eq_getElem second]
  exact propose_forced_found _ _ _

end Direct

def placingOutcome (config : Config α) (seed : UInt64) (n : Nat) : Except (Failure α) (Array (Room α)) :=
  ((placeRooms (.ofConfig config) (.new config.indexCellSize)).run (attemptStream config seed n)).1.1

theorem attempt_placing_error (config : Config α) (seed : UInt64) (number : Nat) (rng : Rng) (failure : Failure α)
    (unplaced : ((placeRooms (.ofConfig config) (.new config.indexCellSize)).run rng).1.1 = .error failure) :
    ((attempt config seed number).run rng).1.1 = .error failure := by
  simp only [attempt, draw_run_bind]
  generalize (placeRooms (.ofConfig config) (.new config.indexCellSize)).run rng = answer at unplaced ⊢
  obtain ⟨⟨outcome, index⟩, rest⟩ := answer
  obtain rfl : outcome = .error failure := unplaced
  rfl

section Forced

variable {config : Config α} (direct : config.strategy = .direct) (force : config.unroutable = .forceBestEffort)

include direct force

theorem route_by_kind_forced (placed : Array (Room α)) (index : SpatialIndex α) (faithful : index.Faithful)
    (edges : List (Edge α))
    (inRange : ∀ edge ∈ edges, edge.isTree = true → edge.a.index < placed.size ∧ edge.b.index < placed.size)
    (rng : Rng) : ∃ routed, ((routeByKind config placed index edges).run rng).1 = .ok routed := by
  have forces : ∀ edge ∈ edges, edge.isTree = true → ∀ board : RouteBoard α, board.rooms.size = placed.size →
      Forces (.ofConfig config) Direct.strategy edge board := by
    intro edge listed tree board size
    obtain ⟨first, second⟩ := inRange edge listed tree
    exact Direct.strategy_forces _ edge board (size ▸ first) (size ▸ second)
  have forcing : (RouteRules.ofConfig config).unroutable = .forceBestEffort := force
  obtain ⟨connectors, routed⟩ := route_all_forced forcing
    { board := { rooms := placed, index, nextId := 0 }, strategy := () } faithful edges forces [] _ .start rng
  simp only [routeByKind, direct, routeWith, draw_run_bind]
  generalize (routeAll (.ofConfig config) Direct.strategy edges
    { board := { rooms := placed, index, nextId := 0 }, strategy := () }).run rng = answer at routed ⊢
  obtain ⟨⟨outcome, state⟩, rest⟩ := answer
  obtain rfl : outcome = .ok connectors := routed
  exact ⟨_, rfl⟩

theorem attempt_forced (seed : UInt64) (number : Nat) (rng rest : Rng) (placed : Array (Room α))
    (index : SpatialIndex α)
    (placing : (placeRooms (.ofConfig config) (.new config.indexCellSize)).run rng = ((.ok placed, index), rest)) :
    ∃ layout, ((attempt config seed number).run rng).1.1 = .ok layout
      ∧ (spanningTree placed config.metric).map Edge.ends <+: layout.connectors.map (·.rooms) := by
  have initial := place_rooms_placed (.ofConfig config) _ (SpatialIndex.new_faithful config.indexCellSize)
    rng placed index rest placing
  have spans := spanning_tree_spec placed initial.numbered config.metric
  obtain ⟨extra, edges, _, extras⟩ := build_edges_spec placed config.metric config.extraEdgeFraction rest
  have inRange : ∀ edge ∈ spanningTree placed config.metric ++ extra, edge.isTree = true →
      edge.a.index < placed.size ∧ edge.b.index < placed.size := by
    intro edge listed tree
    rcases List.mem_append.mp listed with needed | spare
    · exact ⟨Nat.lt_trans (spans.rising edge needed) (spans.inRange edge needed), spans.inRange edge needed⟩
    · rw [extras.extra edge spare] at tree
      cases tree
  obtain ⟨⟨rooms, connectors⟩, routed⟩ := route_by_kind_forced direct force placed index initial.faithful _ inRange
    ((buildEdges placed config.metric config.extraEdgeFraction).run rest).2
  obtain ⟨_, strategy, inner, all, _⟩ := route_by_kind_ok config placed index _ _ rooms connectors routed
  obtain ⟨kept, _, same⟩ := route_all_keeps_tree _ strategy _ extra spans.needed extras.extra _
    initial.faithful _ connectors all
  refine ⟨{ bounds := config.bounds, rooms, connectors, seed, attempts := number }, ?_, ?_⟩
  · simp only [attempt, draw_run_bind, placing]
    generalize (buildEdges placed config.metric config.extraEdgeFraction).run rest = built at edges routed ⊢
    obtain ⟨built, rest'⟩ := built
    obtain rfl : built = _ := edges
    generalize (routeByKind config placed index _).run rest' = answer at routed ⊢
    obtain ⟨outcome, final⟩ := answer
    obtain rfl : outcome = .ok (rooms, connectors) := routed
    rfl
  · rw [same, List.map_append]
    exact List.prefix_append _ _

theorem attempt_outcome_forced (seed : UInt64) (n : Nat) :
    (∃ failure, placingOutcome config seed n = .error failure ∧ attemptOutcome config seed n = .error failure)
      ∨ (∃ placed, placingOutcome config seed n = .ok placed) ∧ ∃ layout, attemptOutcome config seed n = .ok layout := by
  rw [placingOutcome, attemptOutcome]
  generalize attemptStream config seed n = rng
  generalize placing : (placeRooms (.ofConfig config) (.new config.indexCellSize)).run rng = answer
  obtain ⟨⟨outcome, index⟩, rest⟩ := answer
  cases outcome with
  | error failure => exact .inl ⟨failure, rfl, attempt_placing_error config _ _ rng failure (by rw [placing])⟩
  | ok placed =>
      obtain ⟨layout, made, _⟩ := attempt_forced direct force rng.seed (n + 1) rng rest placed index placing
      exact .inr ⟨⟨placed, rfl⟩, layout, made⟩

theorem failed_placings_counted (seed : UInt64) (n : Nat) (failed : FirstFail config seed n)
    (layout : Layout α) (made : attemptOutcome config seed n = .ok layout) :
    (List.range (n + 1)).countP (fun m => !(placingOutcome config seed m).isOk) = n := by
  have all : (List.range n).countP (fun m => !(placingOutcome config seed m).isOk) = (List.range n).length := by
    apply List.countP_eq_length.mpr
    intro m before
    obtain ⟨failure, fails⟩ := failed m (List.mem_range.mp before)
    rcases attempt_outcome_forced direct force seed m with ⟨_, unplaced, _⟩ | ⟨_, other, succeeds⟩
    · rw [unplaced]
      rfl
    · rw [fails] at succeeds
      cases succeeds
  have last : (placingOutcome config seed n).isOk = true := by
    rcases attempt_outcome_forced direct force seed n with ⟨_, _, fails⟩ | ⟨⟨placed, succeeds⟩, _⟩
    · rw [made] at fails
      cases fails
    · rw [succeeds]
      rfl
  rw [List.range_succ, List.countP_append, all, List.length_range, List.countP_singleton, last]
  rfl

theorem failed_attempt_placing (seed : UInt64) (n : Nat) (failure : Failure α)
    (failed : attemptOutcome config seed n = .error failure) :
    ∃ placed attempts, placed < config.roomCount.toNat
      ∧ failure = .placementExhausted placed config.roomCount.toNat attempts := by
  rcases attempt_outcome_forced direct force seed n with ⟨same, unplaced, fails⟩ | ⟨_, layout, succeeds⟩
  · rw [failed] at fails
    cases fails
    rw [placingOutcome] at unplaced
    generalize placing : (placeRooms (.ofConfig config) (.new config.indexCellSize)).run
      (attemptStream config seed n) = answer at unplaced
    obtain ⟨⟨outcome, index⟩, rest⟩ := answer
    obtain rfl : outcome = .error failure := unplaced
    exact place_rooms_error _ _ _ _ _ _ placing
  · rw [failed] at succeeds
    cases succeeds

theorem generate_forced (valid : config.validate = .ok ()) (seed : UInt64) :
    (∃ layout, generate config seed = .ok layout
      ∧ 1 ≤ layout.attempts ∧ layout.attempts ≤ config.budgets.pipeline.toNat
      ∧ (List.range layout.attempts).countP (fun n => !(placingOutcome config seed n).isOk) = layout.attempts - 1)
    ∨ ∃ placed attempts, placed < config.roomCount.toNat
      ∧ generate config seed = .error (.generationExhausted config.budgets.pipeline.toNat
          (.placementExhausted placed config.roomCount.toNat attempts)) := by
  have ended := run_ended config seed valid
  have budget := (config.valid_of_validate valid).some_attempt
  rw [generate]
  generalize (Generator.new config seed).run = result at ended ⊢
  cases ended with
  | finished n layout inBudget failed made =>
      obtain ⟨_, _, _, _, _, _, _, counted⟩ := attempt_ok config _ _ _ layout made
      refine .inl ⟨layout, rfl, by omega, by omega, ?_⟩
      rw [counted]
      exact failed_placings_counted direct force seed n failed layout made
  | exhausted last _ lastFailed =>
      obtain ⟨placed, attempts, few, same⟩ := failed_attempt_placing direct force seed _ last (lastFailed budget)
      exact .inr ⟨placed, attempts, few, by rw [same]⟩

theorem attempt_forced_answers (seed : UInt64) (number : Nat) (rng rest : Rng) (placed : Array (Room α))
    (index : SpatialIndex α) (ended : Except (Failure α) (Layout α) × Phase)
    (placing : (Words.placeRooms? (.ofConfig config) (.new config.indexCellSize)).run rng =
      (some (.ok placed, index), rest))
    (answered : ((Words.attempt? config seed number).run rng).1 = some ended) :
    ∃ layout, ended.1 = .ok layout
      ∧ (spanningTree placed config.metric).map Edge.ends <+: layout.connectors.map (·.rooms) := by
  obtain ⟨layout, made, joined⟩ := attempt_forced direct force seed number rng rest placed index
    (Words.place_rooms_sound _ _ rng _ rest placing)
  rw [Words.attempt_sound config seed number rng ended _ (Prod.ext answered rfl)] at made
  exact ⟨layout, made, joined⟩

end Forced

-- Only placement fails an attempt, and only so many rooms that no list of them is in memory break
-- one off.
theorem forced_bends_always_route (config : Config α) (valid : config.validate = .ok ())
    (direct : config.strategy = .direct) (force : config.unroutable = .forceBestEffort) :
    (∀ (seed : UInt64) (number : Nat) (rng rest : Rng) (placed : Array (Room α)) (index : SpatialIndex α),
      (Words.placeRooms? (.ofConfig config) (.new config.indexCellSize)).run rng = (some (.ok placed, index), rest) →
      let answer := ((Words.attempt? config seed number).run rng).1
      (∀ ended, answer = some ended → ∃ layout, ended.1 = .ok layout
          ∧ (spanningTree placed config.metric).map Edge.ends <+: layout.connectors.map (·.rooms))
        ∧ (Words.Spacious config → answer.isSome = true))
    ∧ (∀ (seed : UInt64) outcome, Words.generate? config seed = some outcome →
      (∃ layout, outcome = .ok layout
        ∧ 1 ≤ layout.attempts ∧ layout.attempts ≤ config.budgets.pipeline.toNat
        ∧ (List.range layout.attempts).countP (fun n => !(placingOutcome config seed n).isOk)
          = layout.attempts - 1)
      ∨ ∃ placed attempts, placed < config.roomCount.toNat
        ∧ outcome = .error (.generationExhausted config.budgets.pipeline.toNat
            (.placementExhausted placed config.roomCount.toNat attempts)))
    ∧ (Words.Spacious config → ∀ seed, (Words.generate? config seed).isSome = true)
    ∧ (¬ Words.InMemory config.roomCount.toNat Words.roomBytes → ∀ seed, Words.generate? config seed = none) := by
  have noMap : config.strategy = .grid → Words.Mapped config := fun grid => by
    rw [direct] at grid
    cases grid
  refine ⟨fun seed number rng rest placed index placing => ⟨fun ended answered => ?_, fun spacious => ?_⟩,
    fun seed outcome generated => ?_, fun spacious seed => ?_, fun vast seed => ?_⟩
  · exact attempt_forced_answers direct force seed number rng rest placed index ended placing answered
  · exact Words.attempt_answers spacious noMap seed number rng
  · rw [Words.generate_sound config seed outcome generated]
    exact generate_forced direct force valid seed
  · rw [Words.generate?, Option.isSome_map]
    exact Words.generator_answers config seed spacious noMap
  · rw [Words.generate?, Words.generator_breaks config seed valid vast]
    rfl

def forcedStrip : Config Rat := { strip with unroutable := .forceBestEffort }

def forcedOversized : Config Float := { oversized with unroutable := .forceBestEffort }

theorem forced_strip_joined :
    forcedStrip.validate = .ok () ∧ forcedStrip.strategy = .direct ∧ forcedStrip.unroutable = .forceBestEffort
      ∧ (∃ layout phase, ((Words.attempt? forcedStrip 1 1).run (.ofSeed 1)).1 = some (.ok layout, phase)
        ∧ [(⟨0⟩, ⟨1⟩)] <+: layout.connectors.map (·.rooms))
      ∧ ∃ attempts, Words.generate? forcedOversized 7 =
        some (.error (.generationExhausted 2 (.placementExhausted 0 1 attempts))) := by
  have valid : forcedStrip.validate = .ok () := by decide +kernel
  obtain ⟨joins, _⟩ := forced_bends_always_route forcedStrip valid rfl rfl
  have placed := (Words.place_rooms_sound (.ofConfig forcedStrip) (.new forcedStrip.indexCellSize)).eq_some (.ofSeed 1)
    (Words.place_rooms_answers _ _ (by decide) _)
  rw [show (placeRooms (.ofConfig forcedStrip) (.new forcedStrip.indexCellSize)).run (.ofSeed 1) = _ from strip_placed]
    at placed
  obtain ⟨made, answers⟩ := joins 1 1 (.ofSeed 1) _ _ _ placed
  obtain ⟨⟨outcome, phase⟩, answered⟩ :=
    Option.isSome_iff_exists.mp (answers ⟨by decide, by decide, by decide +kernel⟩)
  obtain ⟨layout, ok, joined⟩ := made _ answered
  have tree : (spanningTree (stripFilled 2).rooms forcedStrip.metric).map Edge.ends = [(⟨0⟩, ⟨1⟩)] := by
    decide +kernel
  rw [tree] at joined
  obtain rfl : outcome = .ok layout := ok
  refine ⟨valid, rfl, rfl, ⟨layout, phase, answered, joined⟩, ?_⟩
  obtain ⟨_, ends, more, _⟩ := forced_bends_always_route forcedOversized (by decide +kernel) rfl rfl
  have none : (generate forcedOversized 7).toOption.isNone = true := by decide +kernel
  obtain ⟨outcome, generated⟩ :=
    Option.isSome_iff_exists.mp (more ⟨by decide, by decide, by decide +kernel⟩ 7)
  rcases ends 7 outcome generated with ⟨layout, rfl, _⟩ | ⟨placed, attempts, few, rfl⟩
  · rw [← Words.generate_sound _ _ _ generated] at none
    cases none
  · obtain rfl : placed = 0 := Nat.lt_one_iff.mp few
    exact ⟨attempts, generated⟩

def forcedCountless : Config Float := { countless with unroutable := .forceBestEffort }

theorem forced_countless_breaks :
    forcedCountless.validate = .ok () ∧ forcedCountless.strategy = .direct
      ∧ forcedCountless.unroutable = .forceBestEffort ∧ Words.generate? forcedCountless 1 = none := by
  have valid : forcedCountless.validate = .ok () := by decide +kernel
  refine ⟨valid, rfl, rfl, ?_⟩
  rw [Words.generate?, Words.generator_breaks forcedCountless 1 valid (by decide)]
  rfl

end Floorplan

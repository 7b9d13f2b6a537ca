import Floorplan.Proofs.Generate.Account
import Floorplan.Proofs.Generate.Runs

set_option autoImplicit false

namespace Floorplan

open Floorplan.Random (Draw Rng)

variable {α : Type} [Coord α]

namespace Placement

theorem run_with_attempts (request : PlacementRequest α) (more budget : Nat) (placement : Placement α) :
    run { request with maxAttempts := more } budget placement = run request budget placement := by
  induction budget generalizing placement with
  | zero => rfl
  | succ budget ih =>
      rw [run, run]
      simp only [ih]
      rfl

theorem run_more (request : PlacementRequest α) (budget more : Nat) (placement after : Placement α) (rng rest : Rng)
    (larger : budget ≤ more) (ran : (run request budget placement).run rng = (after, rest))
    (enough : request.roomCount ≤ after.rooms.size) : (run request more placement).run rng = (after, rest) := by
  induction budget generalizing more placement rng with
  | zero =>
      cases ran
      cases more with
      | zero => rfl
      | succ more => rw [run, if_neg (Nat.not_lt.mpr enough), draw_run_pure]
  | succ budget ih =>
      obtain ⟨more, rfl⟩ := Nat.exists_eq_add_of_lt (Nat.lt_of_lt_of_le (Nat.succ_pos budget) larger)
      rw [run] at ran ⊢
      split
      next missing =>
        rw [if_pos missing, draw_run_bind] at ran
        rw [draw_run_bind]
        exact ih _ _ _ (by omega) ran
      next all => rwa [if_neg all] at ran

end Placement

theorem place_rooms_more (request : PlacementRequest α) (index after : SpatialIndex α) (rooms : Array (Room α))
    (rng rest : Rng) (more : Nat) (larger : request.maxAttempts ≤ more)
    (placed : (placeRooms request index).run rng = ((.ok rooms, after), rest)) :
    (placeRooms { request with maxAttempts := more } index).run rng = ((.ok rooms, after), rest) := by
  simp only [placeRooms, Placement.run_with_attempts] at placed ⊢
  split at placed
  next => cases placed
  next sizes =>
    rw [if_neg sizes]
    simp only [draw_run_bind] at placed ⊢
    have touching : Placement.touchingCount { request with maxAttempts := more } = Placement.touchingCount request :=
      rfl
    rw [touching]
    generalize start : ({ rooms := #[], touchingLeft := Placement.touchingCount request, index } : Placement α) = first
      at placed ⊢
    generalize ran : (Placement.run request request.maxAttempts first).run rng = answer at placed
    obtain ⟨placement, rng'⟩ := answer
    split at placed
    next => cases placed
    next enough =>
      have again := Placement.run_more request _ more first placement rng rng' larger ran (Nat.not_lt.mp enough)
      rw [again, if_neg enough]
      exact placed

section Route

variable {σ : Type}

theorem reserve_counting_with_budget (rules : RouteRules α) (more : Nat) (rects : List (Rect α)) (conflicts : Nat)
    (board : RouteBoard α) :
    RouteRules.reserveCounting { rules with perEdge := more } rects conflicts board =
      rules.reserveCounting rects conflicts board := by
  induction rects generalizing conflicts board with
  | nil => rfl
  | cons rect rest ih => exact ih _ _

theorem try_reserve_with_budget (rules : RouteRules α) (more : Nat) (edge : Edge α) (proposal : Proposal α)
    (board : RouteBoard α) :
    RouteRules.tryReserve { rules with perEdge := more } edge proposal board =
      rules.tryReserve edge proposal board := by
  simp only [RouteRules.tryReserve, reserve_counting_with_budget]
  rfl

theorem try_attempts_with_budget (rules : RouteRules α) (strategy : Strategy α σ) (edge : Edge α)
    (more left attempt : Nat) (best : BestProposal α) (state : RouteState α σ) :
    tryAttempts { rules with perEdge := more } strategy edge left attempt best state =
      tryAttempts rules strategy edge left attempt best state := by
  induction left generalizing attempt best state with
  | zero => rfl
  | succ left ih =>
      rw [tryAttempts, tryAttempts]
      simp only [ih, try_reserve_with_budget]
      rfl

theorem try_attempts_more (rules : RouteRules α) (strategy : Strategy α σ) (edge : Edge α) (left more attempt : Nat)
    (best : BestProposal α) (state after : RouteState α σ) (connector : Connector α) (rng rest : Rng)
    (larger : left ≤ more)
    (accepted : (tryAttempts rules strategy edge left attempt best state).run rng = ((.ok connector, after), rest)) :
    (tryAttempts rules strategy edge more attempt best state).run rng = ((.ok connector, after), rest) := by
  induction left generalizing more attempt best state rng with
  | zero => cases accepted
  | succ left ih =>
      obtain ⟨more, rfl⟩ := Nat.exists_eq_add_of_lt (Nat.lt_of_lt_of_le (Nat.succ_pos left) larger)
      obtain ⟨board, inner⟩ := state
      rw [Nat.zero_add]
      simp only [tryAttempts, draw_run_bind] at accepted ⊢
      generalize (strategy.propose (rules.context board) edge.a edge.b attempt inner).run rng = answer at accepted ⊢
      obtain ⟨⟨offer, next⟩, rng'⟩ := answer
      cases offer with
      | none => exact ih _ _ _ _ _ (by omega) accepted
      | some proposal =>
          simp only at accepted ⊢
          split
          next clear => rwa [if_pos clear] at accepted
          next rejected =>
            rw [if_neg rejected] at accepted
            exact ih _ _ _ _ _ (by omega) accepted

theorem unforced_by_attempt (rules : RouteRules α) (strategy : Strategy α σ) (edge : Edge α)
    (state after : RouteState α σ) (connector : Connector α) (rng rest : Rng) (unforced : connector.forced = false)
    (routed : (routeEdge rules strategy edge state).run rng = ((.ok (some connector), after), rest)) :
    (tryAttempts rules strategy edge rules.perEdge 0 none state).run rng = ((.ok connector, after), rest) := by
  simp only [routeEdge, draw_run_bind] at routed
  generalize (tryAttempts rules strategy edge rules.perEdge 0 none state).run rng = answer at routed ⊢
  obtain ⟨⟨outcome, state'⟩, rng'⟩ := answer
  cases outcome with
  | ok accepted =>
      cases routed
      rfl
  | error best =>
      simp only at routed
      split at routed
      next => cases routed
      next =>
        split at routed
        next => cases routed
        next =>
          rw [draw_run_bind] at routed
          generalize (fallback rules strategy edge best state').run rng' = answer at routed
          obtain ⟨⟨offer, last⟩, rng''⟩ := answer
          cases offer with
          | none => cases routed
          | some proposal =>
              -- what is committed here is marked as forced
              cases routed
              cases unforced

theorem route_edge_more (rules : RouteRules α) (strategy : Strategy α σ) (edge : Edge α) (state after : RouteState α σ)
    (connector : Connector α) (rng rest : Rng) (more : Nat) (larger : rules.perEdge ≤ more)
    (unforced : connector.forced = false)
    (routed : (routeEdge rules strategy edge state).run rng = ((.ok (some connector), after), rest)) :
    (routeEdge { rules with perEdge := more } strategy edge state).run rng =
      ((.ok (some connector), after), rest) := by
  have accepted := unforced_by_attempt rules strategy edge state after connector rng rest unforced routed
  have again := try_attempts_more rules strategy edge _ more 0 none state after connector rng rest larger accepted
  simp only [routeEdge, draw_run_bind, try_attempts_with_budget, again]
  rfl

end Route

namespace Config

def withPipeline (config : Config α) (attempts : UInt32) : Config α :=
  { config with budgets := { config.budgets with pipeline := attempts } }

variable {config : Config α}

theorem Valid.validate_ok (valid : config.Valid) : config.validate = .ok () := by
  rw [validate, valid.bounds, valid.sizes, valid.thickness, valid.cellSize, valid.touching, valid.extra]
  exact valid.budgets

omit [Coord α] in
theorem check_budgets_iff : config.checkBudgets = .ok () ↔ ∀ field, config.budgets.get field ≠ 0 := by
  have all : ∀ field : BudgetField, field ∈ BudgetField.all := by
    intro field
    cases field <;> decide
  rw [checkBudgets]
  split
  next field found =>
    have zero := List.find?_some found
    exact iff_of_false (fun passed => by cases passed) fun positive => positive field (by simpa using zero)
  next none =>
    have checked := List.find?_eq_none.mp none
    exact iff_of_true rfl fun field => by simpa using checked field (all field)

theorem Valid.with_pipeline (valid : config.Valid) (more : UInt32) (larger : config.budgets.pipeline ≤ more) :
    (config.withPipeline more).Valid where
  bounds := valid.bounds
  sizes := valid.sizes
  thickness := valid.thickness
  cellSize := valid.cellSize
  touching := valid.touching
  extra := valid.extra
  budgets := by
    have positive := check_budgets_iff.mp valid.budgets
    apply check_budgets_iff.mpr
    intro field
    cases field with
    | placement => exact positive .placement
    | perEdge => exact positive .perEdge
    | pipeline =>
        intro zero
        have none : more = 0 := zero
        subst none
        exact positive .pipeline (UInt32.le_zero_iff.mp larger)

end Config

theorem attempt_with_pipeline (config : Config α) (attempts : UInt32) (seed : UInt64) (number : Nat) :
    attempt (config.withPipeline attempts) seed number = attempt config seed number := rfl

theorem stream_with_pipeline (config : Config α) (attempts : UInt32) (seed : UInt64) (n : Nat) :
    attemptStream (config.withPipeline attempts) seed n = attemptStream config seed n := by
  induction n with
  | zero => rfl
  | succ n ih =>
      rw [attemptStream, attemptStream, ih, attempt_with_pipeline]

theorem outcome_with_pipeline (config : Config α) (attempts : UInt32) (seed : UInt64) (n : Nat) :
    attemptOutcome (config.withPipeline attempts) seed n = attemptOutcome config seed n := by
  rw [attemptOutcome, attemptOutcome, stream_with_pipeline, attempt_with_pipeline]

theorem generate_first (config : Config α) (seed : UInt64) (layout : Layout α)
    (generated : generate config seed = .ok layout) :
    ∃ n, n < config.budgets.pipeline.toNat ∧ FirstFail config seed n
      ∧ attemptOutcome config seed n = .ok layout := by
  have ended := run_ended config seed (generate_valid config seed layout generated).validate_ok
  rw [generate] at generated
  generalize (Generator.new config seed).run = result at ended generated
  cases ended with
  | finished n found inBudget failed made =>
      cases generated
      exact ⟨n, inBudget, failed, made⟩
  | exhausted last _ _ => cases generated

theorem generate_more (config : Config α) (seed : UInt64) (layout : Layout α) (more : UInt32)
    (larger : config.budgets.pipeline ≤ more) (generated : generate config seed = .ok layout) :
    generate (config.withPipeline more) seed = .ok layout := by
  obtain ⟨n, inBudget, failed, made⟩ := generate_first config seed layout generated
  have valid := (generate_valid config seed layout generated).with_pipeline more larger
  have ended := run_ended (config.withPipeline more) seed valid.validate_ok
  have reaches : n < more.toNat := Nat.lt_of_lt_of_le inBudget (UInt32.le_iff_toNat_le.mp larger)
  rw [generate]
  generalize (Generator.new (config.withPipeline more) seed).run = result at ended ⊢
  cases ended with
  | finished m other otherBudget otherFailed otherMade =>
      -- both runs stop at the first attempt that succeeds
      rw [outcome_with_pipeline] at otherMade
      rcases Nat.lt_trichotomy m n with earlier | rfl | later
      · obtain ⟨failure, fails⟩ := failed m earlier
        rw [fails] at otherMade
        cases otherMade
      · rw [made] at otherMade
        cases otherMade
        rfl
      · obtain ⟨failure, fails⟩ := otherFailed n later
        rw [outcome_with_pipeline, made] at fails
        cases fails
  | exhausted last otherFailed _ =>
      obtain ⟨failure, fails⟩ := otherFailed n reaches
      rw [outcome_with_pipeline, made] at fails
      cases fails

theorem generate_fewer (config : Config α) (seed : UInt64) (failure : Failure α) (fewer : UInt32)
    (smaller : fewer ≤ config.budgets.pipeline) (valid : (config.withPipeline fewer).validate = .ok ())
    (failed : generate config seed = .error failure) :
    ∃ last, generate (config.withPipeline fewer) seed = .error (.generationExhausted fewer.toNat last) := by
  have ended := run_ended (config.withPipeline fewer) seed valid
  have finishes := generate_more (config.withPipeline fewer) seed
  rw [generate] at finishes ⊢
  generalize (Generator.new (config.withPipeline fewer) seed).run = result at ended finishes ⊢
  cases ended with
  | finished n layout _ _ _ =>
      have more : generate config seed = .ok layout := finishes layout config.budgets.pipeline smaller rfl
      rw [failed] at more
      cases more
  | exhausted last _ _ => exact ⟨last, rfl⟩

-- A larger budget changes no success, and what a budget is not enough for, a smaller one is not.
theorem larger_budgets_keep_successes :
    (∀ (request : PlacementRequest α) (index after : SpatialIndex α) (rooms : Array (Room α)) (rng rest : Rng)
        (more : Nat), request.maxAttempts ≤ more →
      (placeRooms request index).run rng = ((.ok rooms, after), rest) →
      (placeRooms { request with maxAttempts := more } index).run rng = ((.ok rooms, after), rest))
    ∧ (∀ {σ : Type} (rules : RouteRules α) (strategy : Strategy α σ) (edge : Edge α) (state after : RouteState α σ)
        (connector : Connector α) (rng rest : Rng) (more : Nat), rules.perEdge ≤ more →
      (routeEdge rules strategy edge state).run rng = ((.ok (some connector), after), rest) →
      connector.forced = false →
      (routeEdge { rules with perEdge := more } strategy edge state).run rng =
        ((.ok (some connector), after), rest))
    ∧ (∀ (config : Config α) (seed : UInt64) (layout : Layout α) (more : UInt32),
      config.budgets.pipeline ≤ more → generate config seed = .ok layout →
      generate (config.withPipeline more) seed = .ok layout)
    ∧ ∀ (config : Config α) (seed : UInt64) (failure : Failure α) (fewer : UInt32),
      fewer ≤ config.budgets.pipeline → (config.withPipeline fewer).validate = .ok () →
      generate config seed = .error failure →
      ∃ last, generate (config.withPipeline fewer) seed = .error (.generationExhausted fewer.toNat last) := by
  refine ⟨?_, ?_, ?_, ?_⟩
  · exact fun request index after rooms rng rest more larger placed =>
      place_rooms_more request index after rooms rng rest more larger placed
  · exact fun rules strategy edge state after connector rng rest more larger routed unforced =>
      route_edge_more rules strategy edge state after connector rng rest more larger unforced routed
  · exact fun config seed layout more larger generated => generate_more config seed layout more larger generated
  · exact fun config seed failure fewer smaller valid failed =>
      generate_fewer config seed failure fewer smaller valid failed

theorem strip_bridge_and_oversized_budgets :
    (placeRooms { PlacementRequest.ofConfig strip with maxAttempts := 1000 } (.new strip.indexCellSize)).run
        (.ofSeed 1) = ((.ok (stripFilled 2).rooms, (stripFilled 2).index), stripStream 2)
      ∧ (∃ after, (routeEdge { forcingRules with perEdge := 16 } bridgeOnce bridgedEdge
          { board := openFloor, strategy := 0 }).run (.ofSeed 0) =
        ((.ok (some (connectorOf openFloor bridgedEdge bridge false)), after), .ofSeed 0))
      ∧ (∃ layout, generate strip 1 = .ok layout ∧ layout.rooms.size = 2
        ∧ generate (strip.withPipeline 100) 1 = .ok layout)
      ∧ ∃ last, generate (oversized.withPipeline 1) 7 = .error (.generationExhausted 1 last) := by
  obtain ⟨placing, routing, finishing, _⟩ := larger_budgets_keep_successes (α := Rat)
  obtain ⟨_, _, _, failing⟩ := larger_budgets_keep_successes (α := Float)
  obtain ⟨layout, generated, size⟩ := strip_generated
  refine ⟨placing _ _ _ _ _ _ 1000 (by decide) strip_placed, ?_, ⟨layout, generated, size, ?_⟩, ?_⟩
  · exact ⟨_, routing _ _ _ _ _ _ _ _ 16 (by decide) (bridge_once_first (.ofSeed 0)) rfl⟩
  · exact finishing strip 1 layout 100 (by decide) generated
  · have none : (generate oversized 7).toOption.isNone = true := by decide +kernel
    cases failed : generate oversized 7 with
    | ok layout =>
        rw [failed] at none
        cases none
    | error failure => exact failing oversized 7 failure 1 (by decide) (by decide +kernel) failed

end Floorplan

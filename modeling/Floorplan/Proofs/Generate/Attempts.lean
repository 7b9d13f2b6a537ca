import Floorplan.Proofs.Generate.Failures

set_option autoImplicit false

namespace Floorplan

open Floorplan.Random (Draw Rng)

variable {α : Type} [Coord α]

-- Where the stream stands after some attempts from the seed.
def attemptStream (config : Config α) (seed : UInt64) : Nat → Rng
  | 0 => .ofSeed seed
  | n + 1 =>
    let rng := attemptStream config seed n
    ((attempt config rng.seed (n + 1)).run rng).2

def attemptOutcome (config : Config α) (seed : UInt64) (n : Nat) : Except (Failure α) (Layout α) :=
  let rng := attemptStream config seed n
  ((attempt config rng.seed (n + 1)).run rng).1.1

def FirstFail (config : Config α) (seed : UInt64) (n : Nat) : Prop :=
  ∀ m < n, ∃ failure, attemptOutcome config seed m = .error failure

inductive Ended (config : Config α) (seed : UInt64) (budget : Nat) :
    Except (Failure α) (Layout α) × Generator α → Prop
  | finished (n : Nat) (layout : Layout α) (inBudget : n < budget) (failed : FirstFail config seed n)
      (made : attemptOutcome config seed n = .ok layout) :
      Ended config seed budget
        (.ok layout, { config, rng := attemptStream config seed (n + 1), phase := .done, attempts := n + 1 })
  | exhausted (last : Failure α) (failed : FirstFail config seed budget)
      (lastFailed : 0 < budget → attemptOutcome config seed (budget - 1) = .error last) :
      Ended config seed budget
        (.error (.generationExhausted budget last),
          { config, rng := attemptStream config seed budget, phase := .failed, attempts := budget })

theorem retry_ended (config : Config α) (seed : UInt64) (left : Nat) (last : Failure α) (phase : Phase)
    (attempts : Nat) (failed : FirstFail config seed attempts)
    (lastFailed : 0 < attempts → attemptOutcome config seed (attempts - 1) = .error last) :
    Ended config seed (attempts + left)
      (Generator.retry left last { config, rng := attemptStream config seed attempts, phase, attempts }) := by
  -- each failed attempt moves the stream to where the next one begins
  induction left generalizing last phase attempts with
  | zero => exact .exhausted last failed lastFailed
  | succ left ih =>
      have next : attemptStream config seed (attempts + 1) =
        ((attempt config (attemptStream config seed attempts).seed (attempts + 1)).run
          (attemptStream config seed attempts)).2 := rfl
      have outcome : attemptOutcome config seed attempts =
        ((attempt config (attemptStream config seed attempts).seed (attempts + 1)).run
          (attemptStream config seed attempts)).1.1 := rfl
      rw [Generator.retry]
      split
      next found rng answer =>
        rw [answer] at next outcome
        rw [← show attemptStream config seed (attempts + 1) = rng from next]
        exact .finished attempts _ (by omega) failed outcome
      next failure phase' rng answer =>
        rw [answer] at next outcome
        have more : FirstFail config seed (attempts + 1) := by
          intro m before
          rcases Nat.lt_succ_iff_lt_or_eq.mp before with earlier | rfl
          · exact failed m earlier
          · exact ⟨failure, outcome⟩
        rw [if_pos (attempt_error config _ _ failure _ outcome).retryable,
          ← show attemptStream config seed (attempts + 1) = rng from next, ← Nat.add_assoc, Nat.add_right_comm]
        exact ih failure phase' (attempts + 1) more fun _ => outcome

theorem run_ended (config : Config α) (seed : UInt64) (passed : config.validate = .ok ()) :
    Ended config seed config.budgets.pipeline.toNat (Generator.new config seed).run := by
  have again : (Rng.ofSeed seed).seed = seed := rfl
  have ended := retry_ended config seed config.budgets.pipeline.toNat (Generator.noAttempt config) .placing 0
    (fun m before => absurd before (Nat.not_lt_zero m)) (fun none => absurd none (Nat.lt_irrefl 0))
  rw [Nat.zero_add] at ended
  simp only [Generator.run, Generator.new, again, passed]
  exact ended

theorem run_refused (config : Config α) (seed : UInt64) (error : ConfigError α)
    (refused : config.validate = .error error) :
    (Generator.new config seed).run =
      (.error (.invalidConfig error), { Generator.new config seed with phase := .failed }) := by
  have again : (Rng.ofSeed seed).seed = seed := rfl
  simp only [Generator.run, Generator.new, again, refused]

theorem generate_ok (config : Config α) (seed : UInt64) (layout : Layout α)
    (generated : generate config seed = .ok layout) :
    ∃ n, let rng := attemptStream config seed n
      ((attempt config rng.seed (n + 1)).run rng).1.1 = .ok layout := by
  rw [generate] at generated
  cases checked : config.validate with
  | error error =>
      rw [run_refused config seed error checked] at generated
      cases generated
  | ok _ =>
      have ended := run_ended config seed checked
      generalize (Generator.new config seed).run = result at ended generated
      cases ended with
      | finished n found _ _ made =>
          cases generated
          exact ⟨n, made⟩
      | exhausted last _ _ => cases generated

theorem attempt_ok (config : Config α) (seed : UInt64) (number : Nat) (rng : Rng) (layout : Layout α)
    (finished : ((attempt config seed number).run rng).1.1 = .ok layout) :
    ∃ placed index rest,
      (placeRooms (.ofConfig config) (.new config.indexCellSize)).run rng = ((.ok placed, index), rest)
        ∧ let edges := (buildEdges placed config.metric config.extraEdgeFraction).run rest
          ((routeByKind config placed index edges.1).run edges.2).1 = .ok (layout.rooms, layout.connectors)
        ∧ layout.bounds = config.bounds ∧ layout.seed = seed ∧ layout.attempts = number := by
  simp only [attempt, draw_run_bind] at finished
  generalize (placeRooms (.ofConfig config) (.new config.indexCellSize)).run rng = answer at finished ⊢
  obtain ⟨⟨outcome, index⟩, rest⟩ := answer
  cases outcome with
  | error failure => cases finished
  | ok placed =>
      simp only [draw_run_bind] at finished
      refine ⟨placed, index, rest, rfl, ?_⟩
      generalize (buildEdges placed config.metric config.extraEdgeFraction).run rest = edges at finished ⊢
      obtain ⟨edges, rest'⟩ := edges
      simp only at finished ⊢
      generalize (routeByKind config placed index edges).run rest' = routed at finished ⊢
      obtain ⟨outcome, final⟩ := routed
      cases outcome with
      | error failure => cases finished
      | ok routed =>
          cases finished
          exact ⟨rfl, rfl, rfl, rfl⟩

theorem first_attempt_generated (config : Config α) (seed : UInt64) (layout : Layout α) (valid : config.validate = .ok ())
    (allowed : 0 < config.budgets.pipeline.toNat) (made : attemptOutcome config seed 0 = .ok layout) :
    generate config seed = .ok layout := by
  have ended := run_ended config seed valid
  rw [generate]
  generalize (Generator.new config seed).run = result at ended ⊢
  cases ended with
  | finished n found _ failed outcome =>
      cases n with
      | zero =>
          cases made.symm.trans outcome
          rfl
      | succ n =>
          obtain ⟨failure, first⟩ := failed 0 (Nat.succ_pos n)
          cases made.symm.trans first
  | exhausted last failed _ =>
      obtain ⟨failure, first⟩ := failed 0 allowed
      cases made.symm.trans first

theorem attempt_made (config : Config α) (seed : UInt64) (number : Nat) (rng rest : Rng)
    (placed rooms : Array (Room α)) (index : SpatialIndex α) (connectors : List (Connector α))
    (placing : (placeRooms (.ofConfig config) (.new config.indexCellSize)).run rng = ((.ok placed, index), rest))
    (routed :
      let edges := (buildEdges placed config.metric config.extraEdgeFraction).run rest
      ((routeByKind config placed index edges.1).run edges.2).1 = .ok (rooms, connectors)) :
    ((attempt config seed number).run rng).1.1 =
      .ok { bounds := config.bounds, rooms, connectors, seed, attempts := number } := by
  simp only at routed
  simp only [attempt, draw_run_bind, placing]
  generalize (buildEdges placed config.metric config.extraEdgeFraction).run rest = edges at routed ⊢
  generalize (routeByKind config placed index edges.1).run edges.2 = answer at routed ⊢
  obtain ⟨outcome, rng'⟩ := answer
  cases routed
  rfl

theorem route_with_ok {σ : Type} (config : Config α) (strategy : Strategy α σ) (inner : σ)
    (placed : Array (Room α)) (index : SpatialIndex α) (edges : List (Edge α)) (rng : Rng)
    (rooms : Array (Room α)) (connectors : List (Connector α))
    (finished : ((routeWith config strategy inner placed index edges).run rng).1 = .ok (rooms, connectors)) :
    let start := { board := { rooms := placed, index, nextId := 0 }, strategy := inner }
    let result := ((routeAll (.ofConfig config) strategy edges start).run rng).1
    result.1 = .ok connectors ∧ result.2.board.rooms = rooms := by
  simp only [routeWith, draw_run_bind] at finished ⊢
  generalize (routeAll (.ofConfig config) strategy edges
    { board := { rooms := placed, index, nextId := 0 }, strategy := inner }).run rng = answer at finished ⊢
  obtain ⟨⟨outcome, state⟩, rest⟩ := answer
  cases outcome with
  | error failure => cases finished
  | ok all =>
      cases finished
      exact ⟨rfl, rfl⟩

theorem route_by_kind_ok (config : Config α) (placed : Array (Room α)) (index : SpatialIndex α)
    (edges : List (Edge α)) (rng : Rng) (rooms : Array (Room α)) (connectors : List (Connector α))
    (finished : ((routeByKind config placed index edges).run rng).1 = .ok (rooms, connectors)) :
    ∃ (σ : Type) (strategy : Strategy α σ) (inner : σ),
      let start := { board := { rooms := placed, index, nextId := 0 }, strategy := inner }
      let result := ((routeAll (.ofConfig config) strategy edges start).run rng).1
      result.1 = .ok connectors ∧ result.2.board.rooms = rooms := by
  rw [routeByKind] at finished
  split at finished
  · exact ⟨_, Direct.strategy, _, route_with_ok config _ _ placed index edges rng rooms connectors finished⟩
  · exact ⟨_, Grid.strategy config.crossing, _,
      route_with_ok config _ _ placed index edges rng rooms connectors finished⟩

end Floorplan

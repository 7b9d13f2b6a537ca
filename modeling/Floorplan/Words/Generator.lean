import Floorplan.Generator
import Floorplan.Words.Capacity
import Floorplan.Words.Route

set_option autoImplicit false

namespace Floorplan.Words

open Floorplan.Random (Draw)

variable {α : Type} [Coord α]

def routeByKind? (config : Config α) (rooms : Array (Room α)) (index : SpatialIndex α) (edges : List (Edge α)) :
    Draw (Option (Except (Failure α) (Array (Room α) × List (Connector α)))) :=
  match config.strategy with
  | .direct => some <$> routeWith config Direct.strategy () rooms index edges
  | .grid =>
    match ofRooms? config.bounds rooms with
    | none => pure none
    | some raster => do
      let state := { board := { rooms, index, nextId := 0 }, strategy := some raster }
      let (outcome, state) ← routeAll (.ofConfig config) (strategy config.crossing) edges state
      match state.strategy, outcome with
      | none, _ => pure none
      | some _, .error failure => pure (some (.error failure))
      | some _, .ok connectors => pure (some (.ok (state.board.rooms, connectors)))

def attempt? (config : Config α) (seed : UInt64) (number : Nat) :
    Draw (Option (Except (Failure α) (Layout α) × Phase)) := do
  match ← placeRooms? (.ofConfig config) (.new config.indexCellSize) with
  | none => pure none
  | some (.error failure, _) => pure (some (.error failure, .placing))
  | some (.ok rooms, index) =>
    match ← buildEdges? rooms config.metric config.extraEdgeFraction with
    | none => pure none
    | some edges =>
      match ← routeByKind? config rooms index edges with
      | none => pure none
      | some (.error failure) => pure (some (.error failure, .routing))
      | some (.ok (rooms, connectors)) =>
        pure (some (.ok { bounds := config.bounds, rooms, connectors, seed, attempts := number }, .routing))

def tryAgain? : (left : Nat) → Failure α → Generator α →
    Option (Except (Failure α) (Layout α) × Generator α)
  | 0, last, generator =>
    some (.error (.generationExhausted generator.attempts last), { generator with phase := .failed })
  | left + 1, _, { config, rng, phase := _, attempts } =>
    let attempts := attempts + 1
    match (attempt? config rng.seed attempts).run rng with
    | (none, _) => none
    | (some (.ok layout, _), rng) => some (.ok layout, { config, rng, phase := .done, attempts })
    | (some (.error failure, phase), rng) =>
      if failure.retryable then tryAgain? left failure { config, rng, phase, attempts }
      else some (.error failure, { config, rng, phase := .failed, attempts })

def runGenerator? (generator : Generator α) : Option (Except (Failure α) (Layout α) × Generator α) :=
  let start := Generator.new generator.config generator.rng.seed
  match start.config.validate with
  | .error error => some (.error (.invalidConfig error), { start with phase := .failed })
  | .ok () => tryAgain? start.config.budgets.pipeline.toNat (Generator.noAttempt start.config) start

def generate? (config : Config α) (seed : UInt64) : Option (Except (Failure α) (Layout α)) :=
  (runGenerator? (Generator.new config seed)).map (·.1)

end Floorplan.Words

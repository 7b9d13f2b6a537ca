import Floorplan.DirectRoute
import Floorplan.GridRoute
import Floorplan.Layout
import Floorplan.Placement

/-!
Generation. One attempt places the rooms, chooses the edges and routes them; an attempt that fails is
thrown away and the next one goes on with the same stream of words, so a seed fixes the result.
-/

set_option autoImplicit false

namespace Floorplan

open Floorplan.Random (Draw Rng)

inductive Phase where
  | placing
  | connecting
  | routing
  | done
  | failed
deriving DecidableEq

structure Generator (α : Type) where
  config : Config α
  rng : Rng
  phase : Phase
  attempts : Nat

variable {α : Type} [Coord α]

def PlacementRequest.ofConfig (config : Config α) : PlacementRequest α :=
  { bounds := config.bounds
    roomCount := config.roomCount.toNat
    sizes := config.roomSizes.toArray
    padding := config.roomPadding.toNat
    touchingFraction := config.touchingFraction
    maxAttempts := config.budgets.placement.toNat }

def routeWith {σ : Type} (config : Config α) (strategy : Strategy α σ) (inner : σ)
    (rooms : Array (Room α)) (index : SpatialIndex α) (edges : List (Edge α)) :
    Draw (Except (Failure α) (Array (Room α) × List (Connector α))) := do
  let state := { board := { rooms, index, nextId := 0 }, strategy := inner }
  let (outcome, state) ← routeAll (.ofConfig config) strategy edges state
  match outcome with
  | .error failure => pure (.error failure)
  | .ok connectors => pure (.ok (state.board.rooms, connectors))

def routeByKind (config : Config α) (rooms : Array (Room α)) (index : SpatialIndex α)
    (edges : List (Edge α)) : Draw (Except (Failure α) (Array (Room α) × List (Connector α))) :=
  match config.strategy with
  | .direct => routeWith config Direct.strategy () rooms index edges
  | .grid =>
    let raster := Raster.ofRooms config.bounds rooms
    routeWith config (Grid.strategy config.crossing) raster rooms index edges

def attempt (config : Config α) (seed : UInt64) (number : Nat) :
    Draw (Except (Failure α) (Layout α) × Phase) := do
  let (placed, index) ← placeRooms (.ofConfig config) (.new config.indexCellSize)
  match placed with
  | .error failure => pure (.error failure, .placing)
  | .ok rooms =>
    let edges ← buildEdges rooms config.metric config.extraEdgeFraction
    let routed ← routeByKind config rooms index edges
    match routed with
    | .error failure => pure (.error failure, .routing)
    | .ok (rooms, connectors) =>
      pure (.ok { bounds := config.bounds, rooms, connectors, seed, attempts := number }, .routing)

namespace Generator

def new (config : Config α) (seed : UInt64) : Generator α :=
  { config, rng := .ofSeed seed, phase := .placing, attempts := 0 }

def noAttempt (config : Config α) : Failure α := .placementExhausted 0 config.roomCount.toNat 0

/-- Make attempts until one succeeds, `left` more have failed, or one fails for good. -/
def retry : (left : Nat) → Failure α → Generator α → Except (Failure α) (Layout α) × Generator α
  | 0, last, generator =>
    (.error (.generationExhausted generator.attempts last), { generator with phase := .failed })
  | left + 1, _, { config, rng, phase := _, attempts } =>
    let attempts := attempts + 1
    match (attempt config rng.seed attempts).run rng with
    | ((.ok layout, _), rng) => (.ok layout, { config, rng, phase := .done, attempts })
    | ((.error failure, phase), rng) =>
      -- the next attempt goes on where the stream stands
      if failure.retryable then retry left failure { config, rng, phase, attempts }
      else (.error failure, { config, rng, phase := .failed, attempts })

/-- Generate a layout, without the limits of `Words.runGenerator?`. Every run starts over from the seed. -/
def run (generator : Generator α) : Except (Failure α) (Layout α) × Generator α :=
  let start := Generator.new generator.config generator.rng.seed
  match start.config.validate with
  | .error error => (.error (.invalidConfig error), { start with phase := .failed })
  | .ok () => retry start.config.budgets.pipeline.toNat (noAttempt start.config) start

end Generator

def generate (config : Config α) (seed : UInt64) : Except (Failure α) (Layout α) :=
  (Generator.new config seed).run.1

end Floorplan

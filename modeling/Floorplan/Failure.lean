import Floorplan.Config

set_option autoImplicit false

namespace Floorplan

inductive Failure (α : Type) where
  | placementExhausted (placed requested attempts : Nat)
  | unroutableEdge (a b : RoomId) (attempts : Nat)
  | generationExhausted (attempts : Nat) (last : Failure α)
  | invalidConfig (error : ConfigError α)
deriving BEq, DecidableEq

namespace Failure

def retryable {α : Type} : Failure α → Bool
  | .placementExhausted .. => true
  | .unroutableEdge .. => true
  | .generationExhausted .. => false
  | .invalidConfig _ => false

def message : Failure Float → String
  | .placementExhausted placed requested attempts =>
    s!"placed {placed} of {requested} rooms after {attempts} attempts"
  | .unroutableEdge a b attempts =>
    s!"could not route a corridor between rooms {a.index} and {b.index} in {attempts} attempts"
  | .generationExhausted attempts last =>
    s!"generation failed after {attempts} attempts (last failure: {last.message})"
  | .invalidConfig error => s!"invalid configuration: {error.message}"

end Failure

end Floorplan

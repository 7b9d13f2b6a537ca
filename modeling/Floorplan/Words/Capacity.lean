import Floorplan.Edge
import Floorplan.Placement

/-!
Lists that are given all their memory before the first item. One that asks for more bytes than a list can have breaks
the work off; the answer is then nothing.
-/

set_option autoImplicit false

namespace Floorplan.Words

open Floorplan.Random (Draw)

/-- The most bytes of one list. -/
def byteLimit : Nat := 9223372036854775807

def roomBytes : Nat := 64

def edgeBytes : Nat := 24

def InMemory (count bytes : Nat) : Prop := count * bytes ≤ byteLimit

instance (count bytes : Nat) : Decidable (InMemory count bytes) :=
  inferInstanceAs (Decidable (count * bytes ≤ byteLimit))

variable {α : Type} [Coord α]

def placeRooms? (request : PlacementRequest α) (index : SpatialIndex α) :
    Draw (Option (Except (Failure α) (Array (Room α)) × SpatialIndex α)) :=
  if InMemory request.roomCount roomBytes then some <$> placeRooms request index else pure none

def spanningTree? (rooms : Array (Room α)) (metric : Metric) : Option (List (Edge α)) :=
  if InMemory (rooms.size * (rooms.size - 1) / 2) edgeBytes then some (spanningTree rooms metric) else none

def extraEdges? (rooms : Array (Room α)) (tree : List (Edge α)) (count : Nat) (metric : Metric) :
    Draw (Option (List (Edge α))) :=
  if InMemory count edgeBytes then some <$> extraEdges rooms tree count metric else pure none

def buildEdges? (rooms : Array (Room α)) (metric : Metric) (fraction : α) : Draw (Option (List (Edge α))) :=
  match spanningTree? rooms metric with
  | none => pure none
  | some tree => do
    let count := extraCount tree.length fraction
    if count = 0 then pure (some tree)
    else
      let extra ← extraEdges? rooms tree count metric
      pure (extra.map (tree ++ ·))

end Floorplan.Words

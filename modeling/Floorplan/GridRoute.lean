import Floorplan.GridPath
import Floorplan.Routing

/-!
Corridors over unit cells. A path starts in the ring outside a wall of the first room and ends in the
ring outside a wall of the second; rooms that share a wall get a doorway instead.
-/

set_option autoImplicit false

namespace Floorplan.Grid

open Floorplan.Random (Draw)

structure DoorCell (α : Type) where
  cell : Cell
  door : Door α
deriving DecidableEq

def outsideCell (s : CellSpan) (wall : Wall) (i : Int) : Cell :=
  match wall with
  | .left => { x := s.x0 - 1, y := i }
  | .right => { x := s.x1, y := i }
  | .top => { x := i, y := s.y0 - 1 }
  | .bottom => { x := i, y := s.y1 }

def usable (raster : Raster) (crossing : CrossingPolicy) (forced : Bool) (cell : Cell) : Bool :=
  match raster.state? cell with
  | some .buffer => true
  | some .corridor => forced || crossing.allows
  | _ => false

variable {α : Type} [Coord α]

def cellCenter (i : Int) : α := Coord.ofInt i + Coord.half Coord.one

def doorPlaces (span : DoorSpan α) (lo hi : Int) : List (Int × α) :=
  match span with
  | .range start stop =>
    ((upTo lo hi).filter fun i =>
      decide (start ≤ cellCenter i) && decide (cellCenter i ≤ stop)).map fun i => (i, cellCenter i)
  | .midpoint m => [(Number.clampInt lo (max (hi - 1) lo) (Coord.floorCell m), m)]

def doorCells (raster : Raster) (crossing : CrossingPolicy) (room : Room α) (wall : Wall)
    (thickness : α) (forced : Bool) : List (DoorCell α) :=
  let s := CellSpan.ofRect room.rect
  let lo := if wall.facesHorizontally then s.y0 else s.x0
  let hi := if wall.facesHorizontally then s.y1 else s.x1
  let candidates := (doorPlaces (room.doorSpan wall thickness) lo hi).map fun (i, along) =>
    { cell := outsideCell s wall i, door := { wall, anchor := wall.pointAt room.rect along } }
  candidates.filter fun (candidate : DoorCell α) => usable raster crossing forced candidate.cell

/-- All pairs of a wall of `a` and a wall of `b`; first those that face the other room, along the
longer distance before the shorter. -/
def wallPairs (a b : Room α) : List (Wall × Wall) :=
  let dx := b.center.x - a.center.x
  let dy := b.center.y - a.center.y
  let h := Wall.sideways dx
  let v := Wall.upright dy
  let preferred :=
    if Coord.abs dy ≤ Coord.abs dx then
      [(h, h.opposite), (h, v.opposite), (v, h.opposite), (v, v.opposite)]
    else [(v, v.opposite), (v, h.opposite), (h, v.opposite), (h, h.opposite)]
  let every := Wall.all.flatMap fun source => Wall.all.map fun target => (source, target)
  preferred ++ every.filter fun pair => !preferred.contains pair

def routePair (raster : Raster) (crossing : CrossingPolicy) (a b : Room α) (walls : Wall × Wall)
    (thickness : α) (forced : Bool) : Option (Proposal α) := do
  let sources := doorCells raster crossing a walls.1 thickness forced
  let goals := doorCells raster crossing b walls.2 thickness forced
  let problem : GridPath.Problem := { raster, crossing, forced, goals := goals.map (·.cell) }
  let path ← GridPath.shortest problem (sources.map (·.cell))
  let source ← sources.find? fun source => path.head? == some source.cell
  let goal ← goals.find? fun goal => path.getLast? == some goal.cell
  pure { doors := (source.door, goal.door), geometry := .path path }

def propose (raster : Raster) (crossing : CrossingPolicy) (a b : Room α) (thickness : α)
    (attempt : Nat) : Draw (Option (Proposal α)) := do
  let pairs := wallPairs a b
  match pairs[attempt % pairs.length]? with
  | none => pure none
  | some walls =>
    let shared ← if walls.2 = walls.1.opposite then doorway a b walls.1 thickness else pure none
    match shared with
    | some proposal => pure (some proposal)
    | none => pure (routePair raster crossing a b walls thickness false)

/-- The first pair of walls with a path that may use corridors and buffers. -/
def proposeForced (raster : Raster) (crossing : CrossingPolicy) (a b : Room α) (thickness : α) :
    Option (Proposal α) :=
  (wallPairs a b).findSome? fun walls => routePair raster crossing a b walls thickness true

def markCorridor (connector : Connector α) (raster : Raster) : Raster :=
  match connector.geometry with
  | .path cells => raster.setAll cells .corridor
  | .segments _ => raster
  | .doorway => raster

/-- The state of the strategy is the raster with the paths committed so far. -/
def strategy (crossing : CrossingPolicy) : Strategy α Raster :=
  { propose := fun context a b attempt raster => do
      match context.rooms[a.index]?, context.rooms[b.index]? with
      | some roomA, some roomB =>
        let offer ← propose raster crossing roomA roomB context.thickness attempt
        pure (offer, raster)
      | _, _ => pure (none, raster)
    proposeForced := fun context a b raster =>
      match context.rooms[a.index]?, context.rooms[b.index]? with
      | some roomA, some roomB =>
        pure (proposeForced raster crossing roomA roomB context.thickness, raster)
      | _, _ => pure (none, raster)
    onCommit := markCorridor }

end Floorplan.Grid

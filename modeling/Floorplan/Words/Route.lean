import Floorplan.GridRoute
import Floorplan.Words.Path

set_option autoImplicit false

namespace Floorplan.Words

open Grid (DoorCell doorPlaces wallPairs)
open Floorplan.Random (Draw)

def outsideCell? (s : CellSpan) (wall : Wall) (i : Int) : Option Cell :=
  match wall with
  | .left => (word? (s.x0 - 1)).map fun x => { x, y := i }
  | .right => some { x := s.x1, y := i }
  | .top => (word? (s.y0 - 1)).map fun y => { x := i, y }
  | .bottom => some { x := i, y := s.y1 }

def usable? (raster : Raster) (crossing : CrossingPolicy) (forced : Bool) (cell : Cell) : Option Bool := do
  match ← state? raster cell with
  | some .buffer => pure true
  | some .corridor => pure (forced || crossing.allows)
  | _ => pure false

variable {α : Type} [Coord α]

def doorPlaces? (span : DoorSpan α) (lo hi : Int) : Option (List (Int × α)) :=
  match span with
  | .range _ _ => some (doorPlaces span lo hi)
  | .midpoint _ => (word? (hi - 1)).map fun _ => doorPlaces span lo hi

def doorCell? (raster : Raster) (crossing : CrossingPolicy) (room : Room α) (wall : Wall) (forced : Bool)
    (place : Int × α) : Option (Option (DoorCell α)) := do
  let cell ← outsideCell? (CellSpan.ofRect room.rect) wall place.1
  let opens ← usable? raster crossing forced cell
  pure (if opens then some { cell, door := { wall, anchor := wall.pointAt room.rect place.2 } } else none)

def doorCells? (raster : Raster) (crossing : CrossingPolicy) (room : Room α) (wall : Wall) (thickness : α)
    (forced : Bool) : Option (List (DoorCell α)) := do
  let s := CellSpan.ofRect room.rect
  let lo := if wall.facesHorizontally then s.y0 else s.x0
  let hi := if wall.facesHorizontally then s.y1 else s.x1
  let places ← doorPlaces? (room.doorSpan wall thickness) lo hi
  let found ← places.mapM (doorCell? raster crossing room wall forced)
  pure (found.filterMap id)

def routePair? (raster : Raster) (crossing : CrossingPolicy) (a b : Room α) (walls : Wall × Wall)
    (thickness : α) (forced : Bool) : Option (Option (Proposal α)) := do
  let sources ← doorCells? raster crossing a walls.1 thickness forced
  let goals ← doorCells? raster crossing b walls.2 thickness forced
  let problem : GridPath.Problem := { raster, crossing, forced, goals := goals.map (·.cell) }
  let found ← shortest? problem (sources.map (·.cell))
  pure do
    let path ← found
    let source ← sources.find? fun source => path.head? == some source.cell
    let goal ← goals.find? fun goal => path.getLast? == some goal.cell
    pure { doors := (source.door, goal.door), geometry := .path path }

def propose? (raster : Raster) (crossing : CrossingPolicy) (a b : Room α) (thickness : α) (attempt : Nat) :
    Draw (Option (Option (Proposal α))) := do
  let pairs := wallPairs a b
  match pairs[attempt % pairs.length]? with
  | none => pure (some none)
  | some walls =>
    let shared ← if walls.2 = walls.1.opposite then doorway a b walls.1 thickness else pure none
    match shared with
    | some proposal => pure (some (some proposal))
    | none => pure (routePair? raster crossing a b walls thickness false)

def firstPath? (raster : Raster) (crossing : CrossingPolicy) (a b : Room α) (thickness : α) :
    List (Wall × Wall) → Option (Option (Proposal α))
  | [] => some none
  | walls :: rest => do
    match ← routePair? raster crossing a b walls thickness true with
    | some proposal => pure (some proposal)
    | none => firstPath? raster crossing a b thickness rest

def proposeForced? (raster : Raster) (crossing : CrossingPolicy) (a b : Room α) (thickness : α) :
    Option (Option (Proposal α)) :=
  firstPath? raster crossing a b thickness (wallPairs a b)

def markCorridor? (connector : Connector α) (raster : Raster) : Option Raster :=
  match connector.geometry with
  | .path cells => setAll? raster cells .corridor
  | .segments _ => some raster
  | .doorway => some raster

/-- The answer of a call, and the map if there is one. -/
def answered (raster : Raster) : Option (Option (Proposal α)) → Option (Proposal α) × Option Raster
  | none => (none, none)
  | some offer => (offer, some raster)

def strategy (crossing : CrossingPolicy) : Strategy α (Option Raster) :=
  { propose := fun context a b attempt map =>
      match map with
      | none => pure (none, none)
      | some raster =>
        match context.rooms[a.index]?, context.rooms[b.index]? with
        | some roomA, some roomB => do
          let offer ← propose? raster crossing roomA roomB context.thickness attempt
          pure (answered raster offer)
        | _, _ => pure (none, some raster)
    proposeForced := fun context a b map =>
      match map with
      | none => pure (none, none)
      | some raster =>
        match context.rooms[a.index]?, context.rooms[b.index]? with
        | some roomA, some roomB =>
          pure (answered raster (proposeForced? raster crossing roomA roomB context.thickness))
        | _, _ => pure (none, some raster)
    onCommit := fun connector map => map.bind (markCorridor? connector) }

end Floorplan.Words

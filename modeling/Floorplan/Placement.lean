import Floorplan.Failure
import Floorplan.SpatialIndex

/-!
Placing rooms. Positions are drawn at whole coordinates and kept when they are free; a share of the
rooms is drawn against a side of a room placed before.
-/

set_option autoImplicit false

namespace Floorplan

open Floorplan.Random (Draw)

structure PlacementRequest (α : Type) where
  bounds : Rect α
  roomCount : Nat
  sizes : Array (UInt32 × UInt32)
  padding : Nat
  touchingFraction : α
  maxAttempts : Nat

/-- The rooms so far, those still to be placed against another, and the reservations. -/
structure Placement (α : Type) where
  rooms : Array (Room α)
  touchingLeft : Nat
  index : SpatialIndex α

namespace Placement

variable {α : Type} [Coord α]

def position (x : α) : Int := Coord.toInt .towardZero Number.positionMin Number.positionMax x

def randomCandidate (bounds : Rect α) (w h : α) : Draw (Option (Rect α)) :=
  if bounds.width < w ∨ bounds.height < h then pure none
  else do
    let x ← Random.between (position bounds.left) (position (bounds.right - w))
    let y ← Random.between (position bounds.top) (position (bounds.bottom - h))
    pure (some { x := Coord.ofInt x, y := Coord.ofInt y, width := w, height := h })

def touchingCandidate (base : Rect α) (w h : α) (side : Wall) : Draw (Rect α) :=
  if side.facesHorizontally then do
    let y ← Random.between (position (base.top - h + Coord.one)) (position (base.bottom - Coord.one))
    let x := if side = .left then base.left - w else base.right
    pure { x, y := Coord.ofInt y, width := w, height := h }
  else do
    let x ← Random.between (position (base.left - w + Coord.one)) (position (base.right - Coord.one))
    let y := if side = .top then base.top - h else base.bottom
    pure { x := Coord.ofInt x, y, width := w, height := h }

def touchingAny (rooms : Array (Room α)) (w h : α) : Draw (Option (Rect α)) := do
  match ← Random.choose rooms with
  | none => pure none
  | some base =>
    match ← Random.choose Wall.all.toArray with
    | none => pure none
    | some side => do
      let rect ← touchingCandidate base.rect w h side
      pure (some rect)

/-- Add a room when it lies in the bounds and is free, with its gap unless it touches another. -/
def accept (request : PlacementRequest α) (touching : Bool) (rect : Rect α)
    (placement : Placement α) : Placement α :=
  -- only the room itself is reserved, the gap is kept by testing a larger rectangle
  let padded :=
    if touching || request.padding == 0 then rect else rect.expand (Coord.ofInt request.padding)
  if !request.bounds.containsRect rect || placement.index.overlapsAny padded then placement
  else
    let id : RoomId := { index := placement.rooms.size }
    { rooms := placement.rooms.push (.new id rect)
      touchingLeft := if touching then placement.touchingLeft - 1 else placement.touchingLeft
      index := placement.index.reserve rect (.room id) }

def step (request : PlacementRequest α) (placement : Placement α) : Draw (Placement α) := do
  match ← Random.choose request.sizes with
  | none => pure placement
  | some (width, height) =>
    let w : α := Coord.ofInt width.toNat
    let h : α := Coord.ofInt height.toNat
    let touching := decide (0 < placement.touchingLeft) && !placement.rooms.isEmpty
    let candidate ← if touching then touchingAny placement.rooms w h
      else randomCandidate request.bounds w h
    match candidate with
    | none => pure placement
    | some rect => pure (accept request touching rect placement)

def run (request : PlacementRequest α) : Nat → Placement α → Draw (Placement α)
  | 0, placement => pure placement
  | budget + 1, placement =>
    if placement.rooms.size < request.roomCount then do
      let placement ← step request placement
      run request budget placement
    else pure placement

def touchingCount (request : PlacementRequest α) : Nat :=
  (Coord.toInt .down 0 Number.countMax
    (Coord.ofInt request.roomCount * request.touchingFraction)).toNat

end Placement

-- without a limit on the list of the rooms, as `Words.placeRooms?` has it
def placeRooms {α : Type} [Coord α] (request : PlacementRequest α) (index : SpatialIndex α) :
    Draw (Except (Failure α) (Array (Room α)) × SpatialIndex α) := do
  if request.sizes.isEmpty && decide (0 < request.roomCount) then
    pure (.error (.placementExhausted 0 request.roomCount 0), index)
  else
    let start := { rooms := #[], touchingLeft := Placement.touchingCount request, index }
    let placement ← Placement.run request request.maxAttempts start
    let placed := placement.rooms.size
    if placed < request.roomCount then
      pure (.error (.placementExhausted placed request.roomCount request.maxAttempts), placement.index)
    else pure (.ok placement.rooms, placement.index)

end Floorplan

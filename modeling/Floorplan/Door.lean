import Floorplan.Wall

set_option autoImplicit false

namespace Floorplan

open Floorplan.Random (Draw)

inductive DoorSpan (α : Type) where
  | range (lo hi : α)
  | midpoint (m : α)
deriving BEq, DecidableEq

namespace DoorSpan

variable {α : Type} [Coord α]

def forWall (rect : Rect α) (wall : Wall) (thickness : α) : DoorSpan α :=
  let (start, stop) := wall.extent rect
  let lo := start + Coord.half thickness
  let hi := stop - Coord.half thickness
  if hi < lo then .midpoint (Coord.half (start + stop)) else .range lo hi

def contains (span : DoorSpan α) (v : α) : Bool :=
  match span with
  | .range lo hi => decide (lo ≤ v) && decide (v ≤ hi)
  | .midpoint m => v == m

def aboveBound (lo : Option α) (v : α) : Bool :=
  match lo with
  | none => true
  | some lo => decide (lo ≤ v)

def belowBound (hi : Option α) (v : α) : Bool :=
  match hi with
  | none => true
  | some hi => decide (v ≤ hi)

/-- The part of the span between two bounds, each of which may be absent; nothing when no anchor is
left. -/
def clamp (span : DoorSpan α) (lo hi : Option α) : Option (DoorSpan α) :=
  match span with
  | .range a b =>
    let a := (lo.map (Coord.greater a)).getD a
    let b := (hi.map (Coord.lesser b)).getD b
    if a ≤ b then some (.range a b) else none
  | .midpoint m => if aboveBound lo m && belowBound hi m then some (.midpoint m) else none

def intersect (span other : DoorSpan α) : Option (DoorSpan α) :=
  match other with
  | .range lo hi => span.clamp (some lo) (some hi)
  | .midpoint m => if span.contains m then some (.midpoint m) else none

def sample : DoorSpan α → Draw α
  | .range lo hi => Coord.uniform lo hi
  | .midpoint m => pure m

end DoorSpan

structure Door (α : Type) where
  wall : Wall
  anchor : Point α
deriving BEq, DecidableEq

namespace Door

variable {α : Type}

def along (door : Door α) : α := if door.wall.facesHorizontally then door.anchor.y else door.anchor.x

def line (door : Door α) : α := if door.wall.facesHorizontally then door.anchor.x else door.anchor.y

def transposed (door : Door α) : Door α :=
  { wall := door.wall.transposed, anchor := door.anchor.transposed }

end Door

end Floorplan

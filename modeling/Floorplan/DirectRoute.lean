import Floorplan.Routing

/-!
Corridors straight from door to door: one piece between facing walls, or two legs that meet at a
right angle. A bend is made for a first leg along x; one along y is the mirror image of a bend in the
mirrored rooms.
-/

set_option autoImplicit false

namespace Floorplan.Direct

open Floorplan.Random (Draw)

inductive Approach where
  | facing (wall : Wall)
  | elbow (wallA wallB : Wall)
deriving DecidableEq

def Approach.transposed : Approach → Approach
  | .facing wall => .facing wall.transposed
  | .elbow wallA wallB => .elbow wallA.transposed wallB.transposed

variable {α : Type} [Coord α]

/-- The approaches to room `b` from room `a`, those along the longer distance first. -/
def approaches (a b : Room α) : Vector Approach 4 :=
  let dx := b.center.x - a.center.x
  let dy := b.center.y - a.center.y
  let h := Wall.sideways dx
  let v := Wall.upright dy
  if Coord.abs dy ≤ Coord.abs dx then
    #v[.facing h, .elbow h v.opposite, .elbow v h.opposite, .facing v]
  else #v[.facing v, .elbow v h.opposite, .elbow h v.opposite, .facing h]

def straight (a b : Room α) (wall : Wall) (thickness : α) : Draw (Option (Proposal α)) := do
  let target := wall.opposite
  let source := wall.line a.rect
  let goal := target.line b.rect
  let gap := (goal - source) * wall.outward
  if gap < Coord.zero then pure none
  else if gap == Coord.zero then doorway a b wall thickness
  else
    match (a.doorSpan wall thickness).intersect (b.doorSpan target thickness) with
    | none => pure none
    | some span =>
      let along ← span.sample
      let half := Coord.half thickness
      let piece := Rect.ofCorners (wall.pointOn source (along - half)) (wall.pointOn goal (along + half))
      pure (some
        { doors :=
            ({ wall, anchor := wall.pointAt a.rect along },
              { wall := target, anchor := target.pointAt b.rect along })
          geometry := .segments [piece] })

def outside (span : DoorSpan α) (line sign half : α) : Option (DoorSpan α) :=
  if Coord.zero < sign then span.clamp (some (line + half)) Coord.highest?
  else span.clamp Coord.lowest? (some (line - half))

/-- The two legs between `wallA` and `wallB` that meet in a square around the corner, which belongs to
the first leg. A leg without length is left out. -/
def legs (a b : Rect α) (wallA wallB : Wall) (corner : Point α) (half : α) : List (Rect α) :=
  let first : Point α × Point α :=
    ({ x := wallA.line a, y := corner.y - half },
      { x := corner.x + wallA.outward * half, y := corner.y + half })
  let second : Point α × Point α :=
    ({ x := corner.x - half, y := corner.y - wallB.outward * half },
      { x := corner.x + half, y := wallB.line b })
  let solid (leg : Point α × Point α) : Bool :=
    decide (Coord.epsilon < Coord.abs (leg.1.x - leg.2.x))
      && decide (Coord.epsilon < Coord.abs (leg.1.y - leg.2.y))
  ([first, second].filter solid).map fun leg => Rect.ofCorners leg.1 leg.2

def bend (a b : Rect α) (wallA wallB : Wall) (corner : Point α) (half : α) : Proposal α :=
  { doors :=
      ({ wall := wallA, anchor := wallA.pointAt a corner.y },
        { wall := wallB, anchor := wallB.pointAt b corner.x })
    geometry := .segments (legs a b wallA wallB corner half) }

def elbowSideways (thickness : α) (a b : Rect α) (wallA wallB : Wall) :
    Draw (Option (Proposal α)) := do
  let half := Coord.half thickness
  let across := outside (DoorSpan.forWall b wallB thickness) (wallA.line a) wallA.outward half
  let down := outside (DoorSpan.forWall a wallA thickness) (wallB.line b) wallB.outward half
  match across, down with
  | some across, some down =>
    -- the coordinate along the first wall is drawn first
    let y ← down.sample
    let x ← across.sample
    pure (some (bend a b wallA wallB { x, y } half))
  | _, _ => pure none

/-- The corner at the midpoints of both walls, wherever that is. -/
def forcedSideways (thickness : α) (a b : Rect α) (wallA wallB : Wall) : Proposal α :=
  bend a b wallA wallB { x := wallB.midpoint b, y := wallA.midpoint a } (Coord.half thickness)

def angled (a b : Rect α) (wallA wallB : Wall) (thickness : α) : Draw (Option (Proposal α)) :=
  if wallA.facesHorizontally then elbowSideways thickness a b wallA wallB
  else do
    let offer ←
      elbowSideways thickness a.transposed b.transposed wallA.transposed wallB.transposed
    pure (offer.map Proposal.transposed)

def forcedAngle (a b : Rect α) (wallA wallB : Wall) (thickness : α) : Proposal α :=
  if wallA.facesHorizontally then forcedSideways thickness a b wallA wallB
  else
    (forcedSideways thickness a.transposed b.transposed wallA.transposed wallB.transposed).transposed

def Approach.propose (approach : Approach) (a b : Room α) (thickness : α) :
    Draw (Option (Proposal α)) :=
  match approach with
  | .facing wall => straight a b wall thickness
  | .elbow wallA wallB => angled a.rect b.rect wallA wallB thickness

def propose (a b : Room α) (thickness : α) (attempt : Nat) : Draw (Option (Proposal α)) :=
  ((approaches a b).get ⟨attempt % 4, Nat.mod_lt attempt (by decide)⟩).propose a b thickness

def proposeForced (a b : Room α) (thickness : α) : Option (Proposal α) :=
  (approaches a b).toList.findSome? fun
    | .elbow wallA wallB => some (forcedAngle a.rect b.rect wallA wallB thickness)
    | .facing _ => none

def strategy : Strategy α Unit :=
  { propose := fun context a b attempt _ => do
      match context.rooms[a.index]?, context.rooms[b.index]? with
      | some roomA, some roomB =>
        let offer ← propose roomA roomB context.thickness attempt
        pure (offer, ())
      | _, _ => pure (none, ())
    proposeForced := fun context a b _ =>
      match context.rooms[a.index]?, context.rooms[b.index]? with
      | some roomA, some roomB => pure (proposeForced roomA roomB context.thickness, ())
      | _, _ => pure (none, ())
    onCommit := fun _ _ => () }

end Floorplan.Direct

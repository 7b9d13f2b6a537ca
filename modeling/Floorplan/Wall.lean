import Floorplan.Rect

set_option autoImplicit false

namespace Floorplan

inductive Wall where
  | left
  | right
  | top
  | bottom
deriving DecidableEq

namespace Wall

def all : List Wall := [.left, .right, .top, .bottom]

def opposite : Wall → Wall
  | .left => .right
  | .right => .left
  | .top => .bottom
  | .bottom => .top

def facesHorizontally : Wall → Bool
  | .left | .right => true
  | .top | .bottom => false

def transposed : Wall → Wall
  | .left => .top
  | .top => .left
  | .right => .bottom
  | .bottom => .right

variable {α : Type} [Coord α]

def outward : Wall → α
  | .left | .top => Coord.ofInt (-1)
  | .right | .bottom => Coord.one

def line (wall : Wall) (rect : Rect α) : α :=
  match wall with
  | .left => rect.left
  | .right => rect.right
  | .top => rect.top
  | .bottom => rect.bottom

def extent (wall : Wall) (rect : Rect α) : α × α :=
  if wall.facesHorizontally then (rect.top, rect.bottom) else (rect.left, rect.right)

def midpoint (wall : Wall) (rect : Rect α) : α :=
  let (start, stop) := wall.extent rect
  Coord.half (start + stop)

def pointOn (wall : Wall) (line along : α) : Point α :=
  if wall.facesHorizontally then { x := line, y := along } else { x := along, y := line }

def pointAt (wall : Wall) (rect : Rect α) (along : α) : Point α :=
  wall.pointOn (wall.line rect) along

def sideways (dx : α) : Wall := if Coord.zero ≤ dx then .right else .left

def upright (dy : α) : Wall := if Coord.zero ≤ dy then .bottom else .top

end Wall

end Floorplan

import Floorplan.Coord

set_option autoImplicit false

namespace Floorplan

open Coord (epsilon)

structure Point (α : Type) where
  x : α
  y : α
deriving BEq, DecidableEq

def Point.transposed {α : Type} (p : Point α) : Point α := { x := p.y, y := p.x }

structure Rect (α : Type) where
  x : α
  y : α
  width : α
  height : α
deriving BEq, DecidableEq

def Rect.transposed {α : Type} (r : Rect α) : Rect α :=
  { x := r.y, y := r.x, width := r.height, height := r.width }

variable {α : Type} [Coord α]

def near (a b : α) : Bool := decide (Coord.abs (a - b) ≤ epsilon)

def spanOverlap (a0 a1 b0 b1 : α) : α :=
  Coord.greater (Coord.lesser a1 b1 - Coord.greater a0 b0) Coord.zero

namespace Rect

def ofCorners (p q : Point α) : Rect α :=
  { x := Coord.lesser p.x q.x
    y := Coord.lesser p.y q.y
    width := Coord.abs (p.x - q.x)
    height := Coord.abs (p.y - q.y) }

@[inline] def left (r : Rect α) : α := r.x
@[inline] def top (r : Rect α) : α := r.y
@[inline] def right (r : Rect α) : α := r.x + r.width
@[inline] def bottom (r : Rect α) : α := r.y + r.height

def center (r : Rect α) : Point α :=
  { x := r.x + Coord.half r.width, y := r.y + Coord.half r.height }

def overlaps (r s : Rect α) : Bool :=
  !(decide (r.right ≤ s.left + epsilon) || decide (s.right ≤ r.left + epsilon)
    || decide (r.bottom ≤ s.top + epsilon) || decide (s.bottom ≤ r.top + epsilon))

/-- Whether the rectangles share a stretch of edge without overlapping. -/
def touches (r s : Rect α) : Bool :=
  !r.overlaps s
    && ((near r.right s.left || near s.right r.left)
          && decide (epsilon < spanOverlap r.top r.bottom s.top s.bottom)
        || (near r.bottom s.top || near s.bottom r.top)
          && decide (epsilon < spanOverlap r.left r.right s.left s.right))

def containsPoint (r : Rect α) (p : Point α) : Bool :=
  decide (r.left ≤ p.x) && decide (p.x ≤ r.right) && decide (r.top ≤ p.y) && decide (p.y ≤ r.bottom)

def containsRect (r s : Rect α) : Bool :=
  decide (r.left - epsilon ≤ s.left) && decide (s.right ≤ r.right + epsilon)
    && decide (r.top - epsilon ≤ s.top) && decide (s.bottom ≤ r.bottom + epsilon)

def expand (r : Rect α) (margin : α) : Rect α :=
  { x := r.x - margin
    y := r.y - margin
    width := r.width + Coord.two * margin
    height := r.height + Coord.two * margin }

end Rect

end Floorplan

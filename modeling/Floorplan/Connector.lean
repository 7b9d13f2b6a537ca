import Floorplan.Room

set_option autoImplicit false

namespace Floorplan

structure ConnectorId where
  index : Nat
deriving DecidableEq, Hashable

structure Cell where
  x : Int
  y : Int
deriving DecidableEq, Hashable

namespace Cell

def distance (c d : Cell) : Nat := ((c.x - d.x).natAbs + (c.y - d.y).natAbs) % (1 <<< 32)

def rect {α : Type} [Coord α] (c : Cell) : Rect α :=
  { x := Coord.ofInt c.x, y := Coord.ofInt c.y, width := Coord.one, height := Coord.one }

end Cell

/-- The shape of a connector: a straight piece or the two legs of a bend, the cells from the first
room's door to the second's, or nothing but the wall that the rooms share. -/
inductive Geometry (α : Type) where
  | segments (rects : List (Rect α))
  | path (cells : List Cell)
  | doorway
deriving BEq, DecidableEq

def Geometry.rects {α : Type} [Coord α] : Geometry α → List (Rect α)
  | .segments rects => rects
  | .path cells => cells.map Cell.rect
  | .doorway => []

def Geometry.transposed {α : Type} : Geometry α → Geometry α
  | .segments rects => .segments (rects.map Rect.transposed)
  | .path cells => .path (cells.map fun c => { x := c.y, y := c.x })
  | .doorway => .doorway

structure Proposal (α : Type) where
  doors : Door α × Door α
  geometry : Geometry α
deriving BEq, DecidableEq

def Proposal.transposed {α : Type} (p : Proposal α) : Proposal α :=
  { doors := (p.doors.1.transposed, p.doors.2.transposed), geometry := p.geometry.transposed }

structure Connector (α : Type) where
  id : ConnectorId
  rooms : RoomId × RoomId
  doors : Door α × Door α
  geometry : Geometry α
  forced : Bool
deriving BEq, DecidableEq

def Connector.rects {α : Type} [Coord α] (c : Connector α) : List (Rect α) := c.geometry.rects

end Floorplan

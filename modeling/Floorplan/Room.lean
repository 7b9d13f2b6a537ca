import Floorplan.Door

set_option autoImplicit false

namespace Floorplan

structure RoomId where
  index : Nat
deriving DecidableEq, Hashable

structure Room (α : Type) where
  id : RoomId
  rect : Rect α
  doors : List (Door α)
deriving BEq, DecidableEq

namespace Room

variable {α : Type}

def new (id : RoomId) (rect : Rect α) : Room α := { id, rect, doors := [] }

def pushDoor (room : Room α) (door : Door α) : Room α := { room with doors := room.doors ++ [door] }

def popDoor (room : Room α) : Room α := { room with doors := room.doors.dropLast }

variable [Coord α]

def center (room : Room α) : Point α := room.rect.center

def doorSpan (room : Room α) (wall : Wall) (thickness : α) : DoorSpan α :=
  DoorSpan.forWall room.rect wall thickness

def admits (room : Room α) (door : Door α) (thickness : α) : Bool :=
  door.wall.line room.rect == door.line
    && room.rect.containsPoint door.anchor
    && (room.doorSpan door.wall thickness).contains door.along

def overlaps (room other : Room α) : Bool := room.rect.overlaps other.rect

end Room

end Floorplan

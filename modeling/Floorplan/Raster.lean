import Floorplan.Connector

set_option autoImplicit false

namespace Floorplan

inductive CellState where
  | free
  | room
  | buffer
  | corridor
deriving DecidableEq

structure Raster where
  origin : Cell
  width : Nat
  height : Nat
  cells : Array CellState
  size_cells : cells.size = width * height

structure CellSpan where
  x0 : Int
  y0 : Int
  x1 : Int
  y1 : Int
deriving DecidableEq

namespace CellSpan

def ofRect {α : Type} [Coord α] (rect : Rect α) : CellSpan :=
  { x0 := Coord.floorCell rect.left
    y0 := Coord.floorCell rect.top
    x1 := Coord.ceilCell rect.right
    y1 := Coord.ceilCell rect.bottom }

def grow (s : CellSpan) (n : Int) : CellSpan :=
  { x0 := s.x0 - n, y0 := s.y0 - n, x1 := s.x1 + n, y1 := s.y1 + n }

end CellSpan

def upTo (lo hi : Int) : List Int := (List.range (hi - lo).toNat).map fun (i : Nat) => lo + i

namespace Raster

def blank (origin : Cell) (width height : Nat) : Raster :=
  { origin
    width
    height
    cells := Array.replicate (width * height) .free
    size_cells := Array.size_replicate }

def place? (raster : Raster) (cell : Cell) : Option Nat :=
  let x := cell.x - raster.origin.x
  let y := cell.y - raster.origin.y
  if x < 0 ∨ y < 0 ∨ raster.width ≤ x ∨ raster.height ≤ y then none
  else some (y.toNat * raster.width + x.toNat)

def cellAt (raster : Raster) (i : Nat) : Cell :=
  { x := raster.origin.x + (i % raster.width : Nat), y := raster.origin.y + (i / raster.width : Nat) }

def state? (raster : Raster) (cell : Cell) : Option CellState :=
  (raster.place? cell).bind fun i => raster.cells[i]?

def set (raster : Raster) (cell : Cell) (state : CellState) : Raster :=
  match raster.place? cell with
  | none => raster
  | some i =>
    let { origin, width, height, cells, size_cells } := raster
    { origin
      width
      height
      cells := cells.setIfInBounds i state
      size_cells := by rw [Array.size_setIfInBounds, size_cells] }

def setAll (raster : Raster) (cells : List Cell) (state : CellState) : Raster :=
  cells.foldl (fun raster cell => raster.set cell state) raster

def fill (raster : Raster) (s : CellSpan) (state : CellState) : Raster :=
  (upTo s.y0 s.y1).foldl
    (fun raster y => (upTo s.x0 s.x1).foldl (fun raster x => raster.set { x, y } state) raster) raster

def ring : Int := 1

variable {α : Type} [Coord α]

/-- The map with its rooms and the rings around them, however many cells it has; `Words.ofRooms?` counts them in words. -/
def ofRooms (bounds : Rect α) (rooms : Array (Room α)) : Raster :=
  let s := CellSpan.ofRect bounds
  let start := blank { x := s.x0, y := s.y0 } (s.x1 - s.x0).toNat (s.y1 - s.y0).toNat
  -- all rings come before all rooms, so no ring covers a room
  let buffered := rooms.foldl
    (fun raster room => raster.fill ((CellSpan.ofRect room.rect).grow ring) .buffer) start
  rooms.foldl (fun raster room => raster.fill (CellSpan.ofRect room.rect) .room) buffered

end Raster

end Floorplan

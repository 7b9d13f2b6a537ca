import Floorplan.Raster

/-!
The map with its arithmetic in words of 32 bits. A sum, a difference or a product that leaves the words
breaks the work off, as does a place outside the array; the answer is then nothing.
-/

set_option autoImplicit false

namespace Floorplan.Words

def word? (n : Int) : Option Int :=
  if Number.cellMin ≤ n ∧ n ≤ Number.cellMax then some n else none

def grow? (s : CellSpan) (n : Int) : Option CellSpan := do
  let x0 ← word? (s.x0 - n)
  let y0 ← word? (s.y0 - n)
  let x1 ← word? (s.x1 + n)
  let y1 ← word? (s.y1 + n)
  pure { x0, y0, x1, y1 }

def place? (raster : Raster) (cell : Cell) : Option (Option Nat) := do
  let x ← word? (cell.x - raster.origin.x)
  let y ← word? (cell.y - raster.origin.y)
  if x < 0 ∨ y < 0 ∨ raster.width ≤ x ∨ raster.height ≤ y then pure none
  else
    let row ← word? (y * raster.width)
    let place ← word? (row + x)
    pure (some place.toNat)

def cellAt? (raster : Raster) (i : Nat) : Option Cell :=
  if raster.width = 0 then none
  else do
    let i ← word? i
    let x ← word? (raster.origin.x + i % raster.width)
    let y ← word? (raster.origin.y + i / raster.width)
    pure { x, y }

def state? (raster : Raster) (cell : Cell) : Option (Option CellState) := do
  match ← place? raster cell with
  | none => pure none
  | some i => raster.cells[i]?.map some

def set? (raster : Raster) (cell : Cell) (state : CellState) : Option Raster := do
  match ← place? raster cell with
  | none => pure raster
  | some i => if i < raster.cells.size then pure (raster.set cell state) else none

def setAll? (raster : Raster) (cells : List Cell) (state : CellState) : Option Raster :=
  cells.foldlM (fun raster cell => set? raster cell state) raster

def fill? (raster : Raster) (s : CellSpan) (state : CellState) : Option Raster :=
  (upTo s.y0 s.y1).foldlM
    (fun raster y => (upTo s.x0 s.x1).foldlM (fun raster x => set? raster { x, y } state) raster) raster

variable {α : Type} [Coord α]

def blank? (bounds : Rect α) : Option Raster := do
  let s := CellSpan.ofRect bounds
  let width ← word? (s.x1 - s.x0)
  let height ← word? (s.y1 - s.y0)
  let _ ← word? (max width 0 * max height 0)
  pure (.blank { x := s.x0, y := s.y0 } width.toNat height.toNat)

def ofRooms? (bounds : Rect α) (rooms : Array (Room α)) : Option Raster := do
  let start ← blank? bounds
  let buffered ← rooms.foldlM
    (fun raster room => do
      let ring ← grow? (CellSpan.ofRect room.rect) Raster.ring
      fill? raster ring .buffer) start
  rooms.foldlM (fun raster room => fill? raster (CellSpan.ofRect room.rect) .room) buffered

end Floorplan.Words

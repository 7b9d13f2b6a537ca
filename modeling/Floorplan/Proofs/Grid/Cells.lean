import Floorplan.Proofs.Exact
import Floorplan.Proofs.Grid.Map

set_option autoImplicit false

namespace Floorplan

namespace CellSpan

def words : CellSpan :=
  { x0 := Number.cellMin, y0 := Number.cellMin, x1 := Number.cellMax, y1 := Number.cellMax }

structure InWords (s : CellSpan) : Prop where
  left : words.x0 ≤ s.x0
  top : words.y0 ≤ s.y0
  right : s.x1 ≤ words.x1
  bottom : s.y1 ≤ words.y1

end CellSpan

def Cell.Near (c d : Cell) : Prop := (c.x - d.x).natAbs ≤ 1 ∧ (c.y - d.y).natAbs ≤ 1

theorem CellSpan.ring_holds_iff (s : CellSpan) (wide : s.x0 < s.x1) (high : s.y0 < s.y1) (cell : Cell) :
    (s.grow Raster.ring).Holds cell ↔ ∃ other, s.Holds other ∧ cell.Near other := by
  simp only [Holds, grow, Raster.ring, Cell.Near]
  constructor
  · intro near
    -- the cell of the span that is nearest
    refine ⟨{ x := max s.x0 (min cell.x (s.x1 - 1)), y := max s.y0 (min cell.y (s.y1 - 1)) }, ?_⟩
    simp only
    omega
  · rintro ⟨other, held, near⟩
    omega

namespace Rect

structure Edges (r : Rect Rat) (s : CellSpan) : Prop where
  left : r.left = s.x0
  top : r.top = s.y0
  right : r.right = s.x1
  bottom : r.bottom = s.y1

variable {r : Rect Rat} {s : CellSpan}

theorem Edges.sized (edges : r.Edges s) (sized : r.Sized) : s.x0 ≤ s.x1 ∧ s.y0 ≤ s.y1 := by
  have wide : r.left ≤ r.right := le_add_of_nonneg_right sized.width_nonneg
  have high : r.top ≤ r.bottom := le_add_of_nonneg_right sized.height_nonneg
  rw [edges.left, edges.right] at wide
  rw [edges.top, edges.bottom] at high
  exact ⟨Int.cast_le.mp wide, Int.cast_le.mp high⟩

theorem Edges.solid (edges : r.Edges s) (solid : r.Solid) : s.x0 < s.x1 ∧ s.y0 < s.y1 := by
  have wide : r.left < r.right := lt_add_of_pos_right _ solid.width
  have high : r.top < r.bottom := lt_add_of_pos_right _ solid.height
  rw [edges.left, edges.right] at wide
  rw [edges.top, edges.bottom] at high
  exact ⟨Int.cast_lt.mp wide, Int.cast_lt.mp high⟩

theorem Edges.of_rect_holds (edges : r.Edges s) (cell : Cell) :
    (CellSpan.ofRect r).Holds cell ↔ s.Holds cell ∧ CellSpan.words.Holds cell := by
  simp only [CellSpan.ofRect, edges.left, edges.top, edges.right, edges.bottom, Rational.floor_cell_whole,
    Rational.ceil_cell_whole, CellSpan.Holds, CellSpan.words, Number.clampInt, Number.cellMin, Number.cellMax]
  omega

theorem Edges.of_rect (edges : r.Edges s) (words : s.InWords) (sized : r.Sized) : CellSpan.ofRect r = s := by
  obtain ⟨wide, high⟩ := edges.sized sized
  obtain ⟨left, top, right, bottom⟩ := words
  simp only [CellSpan.words] at left top right bottom
  have inWord : ∀ n, Number.cellMin ≤ n → n ≤ Number.cellMax →
      Number.clampInt Number.cellMin Number.cellMax n = n := by
    intro n low upper
    rw [Number.clampInt]
    omega
  simp only [CellSpan.ofRect, edges.left, edges.top, edges.right, edges.bottom, Rational.floor_cell_whole,
    Rational.ceil_cell_whole]
  rw [inWord s.x0 left (by omega), inWord s.y0 top (by omega), inWord s.x1 (by omega) right,
    inWord s.y1 (by omega) bottom]

theorem cell_edges (cell : Cell) :
    (cell.rect : Rect Rat).Edges { x0 := cell.x, y0 := cell.y, x1 := cell.x + 1, y1 := cell.y + 1 } where
  left := rfl
  top := rfl
  right := by
    change (cell.x : Rat) + Coord.one = _
    simp
  bottom := by
    change (cell.y : Rat) + Coord.one = _
    simp

section Pair

variable {other : Rect Rat} {t : CellSpan} (edges : r.Edges s) (others : other.Edges t)

include edges others

theorem Edges.overlaps_iff : other.overlaps r = true ↔ (s.x0 < t.x1 ∧ t.x0 < s.x1) ∧ s.y0 < t.y1 ∧ t.y0 < s.y1 := by
  rw [Rect.overlaps_iff, others.left, others.top, others.right, others.bottom, edges.left, edges.top, edges.right,
    edges.bottom]
  simp only [Rational.whole_lt_iff]

theorem Edges.contains_iff : r.containsRect other = true ↔ (s.x0 ≤ t.x0 ∧ t.x1 ≤ s.x1) ∧ s.y0 ≤ t.y0 ∧ t.y1 ≤ s.y1 := by
  rw [contains_rect_iff, others.left, others.top, others.right, others.bottom, edges.left, edges.top, edges.right,
    edges.bottom]
  simp only [Rational.whole_sub_le_iff, Rational.whole_le_iff]

end Pair

theorem Edges.cell_overlaps (edges : r.Edges s) (cell : Cell) : cell.rect.overlaps r = true ↔ s.Holds cell := by
  rw [edges.overlaps_iff (cell_edges cell), CellSpan.Holds]
  simp only
  omega

theorem Edges.contains_cell (edges : r.Edges s) (cell : Cell) : r.containsRect cell.rect = true ↔ s.Holds cell := by
  rw [edges.contains_iff (cell_edges cell), CellSpan.Holds]
  simp only
  omega

theorem Edges.grow (edges : r.Edges s) : (r.expand 1).Edges (s.grow Raster.ring) := by
  obtain ⟨left, right, top, bottom⟩ := r.expand_edges 1
  constructor
  · rw [left, edges.left]
    simp [CellSpan.grow, Raster.ring]
  · rw [top, edges.top]
    simp [CellSpan.grow, Raster.ring]
  · rw [right, edges.right]
    simp [CellSpan.grow, Raster.ring]
  · rw [bottom, edges.bottom]
    simp [CellSpan.grow, Raster.ring]

theorem Edges.near_iff (edges : r.Edges s) (solid : r.Solid) (cell : Cell) :
    (r.expand 1).containsRect cell.rect = true ↔ ∃ other : Cell, other.rect.overlaps r = true ∧ cell.Near other := by
  obtain ⟨wide, high⟩ := edges.solid solid
  rw [edges.grow.contains_cell, s.ring_holds_iff wide high]
  simp only [edges.cell_overlaps]

theorem cell_overlaps_cell (cell other : Cell) : (cell.rect : Rect Rat).overlaps other.rect = true ↔ cell = other := by
  rw [(cell_edges other).cell_overlaps, CellSpan.Holds]
  obtain ⟨x, y⟩ := cell
  obtain ⟨x', y'⟩ := other
  simp only [Cell.mk.injEq]
  omega

theorem cell_sized (cell : Cell) : (cell.rect : Rect Rat).Sized := by
  have side : (0 : Rat) ≤ Coord.one := by simp
  exact sized_of_nonneg _ side side

def whole (x y width height : Int) : Rect Rat := ⟨x, y, width, height⟩

section Whole

variable (x y width height : Int)

theorem whole_edges : (whole x y width height).Edges ⟨x, y, x + width, y + height⟩ where
  left := rfl
  top := rfl
  right := (Int.cast_add x width).symm
  bottom := (Int.cast_add y height).symm

variable {width height}

theorem whole_sized (wide : 0 ≤ width) (high : 0 ≤ height) : (whole x y width height).Sized :=
  sized_of_nonneg _ (Int.cast_nonneg wide) (Int.cast_nonneg high)

end Whole

end Rect

end Floorplan

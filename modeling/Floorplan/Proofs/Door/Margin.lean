import Floorplan.Proofs.Door.Spans
import Floorplan.Proofs.Mirror

set_option autoImplicit false

namespace Floorplan

open Floorplan.Random (Draw Rng)

namespace DoorSpan

def Proper : DoorSpan Rat → Prop
  | .range lo hi => lo ≤ hi
  | .midpoint _ => True

theorem Leaves.spec {left : Option (DoorSpan Rat)} {allowed : Rat → Prop} (leaves : Leaves left allowed)
    (s : DoorSpan Rat) (kept : left = some s) : s.Proper ∧ ∀ v, s.contains v = true ↔ allowed v := by
  refine ⟨?_, leaves.held s kept⟩
  cases s with
  | range lo hi =>
      obtain ⟨low, high⟩ := (contains_range lo hi _).mp (leaves.drawn _ kept (.ofSeed 0))
      exact low.trans high
  | midpoint m => trivial

theorem clamp_spec (span s : DoorSpan Rat) (lo hi : Option Rat) (left : span.clamp lo hi = some s) :
    s.Proper ∧ ∀ v, s.contains v = true ↔
      span.contains v = true ∧ aboveBound lo v = true ∧ belowBound hi v = true := by
  simp only [above_bound_iff, below_bound_iff]
  exact (clamp_leaves span lo hi).spec s left

theorem intersect_spec (span other s : DoorSpan Rat) (left : span.intersect other = some s) :
    s.Proper ∧ ∀ v, s.contains v = true ↔ span.contains v = true ∧ other.contains v = true :=
  (intersect_leaves span other).spec s left

theorem sample_mem (span : DoorSpan Rat) (proper : span.Proper) (rng : Rng) :
    span.contains (span.sample.run rng).1 = true := by
  apply sample_held
  cases span with
  | range lo hi => exact ⟨lo, (contains_range lo hi lo).mpr ⟨le_rfl, proper⟩⟩
  | midpoint m => exact ⟨m, (contains_midpoint m m).mpr rfl⟩

end DoorSpan

namespace Door

-- The margin rule, spelled out: on the line of the wall and on the boundary, half a corridor from the
-- corners, or at the midpoint where the wall is too short for that.
structure OnMargin (door : Door Rat) (rect : Rect Rat) (thickness : Rat) : Prop where
  line : door.line = door.wall.line rect
  boundary : (rect.left ≤ door.anchor.x ∧ door.anchor.x ≤ rect.right)
    ∧ rect.top ≤ door.anchor.y ∧ door.anchor.y ≤ rect.bottom
  along : let (start, stop) := door.wall.extent rect
    if start + thickness / 2 ≤ stop - thickness / 2 then
      start + thickness / 2 ≤ door.along ∧ door.along ≤ stop - thickness / 2
    else door.along = (start + stop) / 2

def Anchored (door : Door Rat) (rect : Rect Rat) (thickness : Rat) : Prop :=
  ∃ v, (DoorSpan.forWall rect door.wall thickness).contains v = true ∧ door.anchor = door.wall.pointAt rect v

theorem anchored_at (rect : Rect Rat) (wall : Wall) (thickness v : Rat)
    (held : (DoorSpan.forWall rect wall thickness).contains v = true) :
    Anchored { wall, anchor := wall.pointAt rect v } rect thickness := ⟨v, held, rfl⟩

theorem anchored_transposed (door : Door Rat) (rect : Rect Rat) (thickness : Rat)
    (anchored : door.Anchored rect.transposed thickness) : door.transposed.Anchored rect thickness := by
  obtain ⟨v, held, point⟩ := anchored
  refine ⟨v, ?_, ?_⟩
  · rw [← DoorSpan.for_wall_transposed] at held ⊢
    obtain ⟨wall, anchor⟩ := door
    cases wall <;> exact held
  · obtain ⟨wall, anchor⟩ := door
    obtain rfl : anchor = wall.pointAt rect.transposed v := point
    cases wall <;> rfl

end Door

theorem Room.admits_iff (room : Room Rat) (door : Door Rat) (thickness : Rat) :
    room.admits door thickness = true ↔ door.OnMargin room.rect thickness := by
  have line : (door.wall.line room.rect == door.line) = true ↔ door.line = door.wall.line room.rect := by
    rw [beq_iff_eq, eq_comm]
  simp only [admits, Bool.and_eq_true, doorSpan, line, Rect.contains_point_iff, DoorSpan.for_wall_contains_iff]
  constructor
  · rintro ⟨⟨line, boundary⟩, along⟩
    exact ⟨line, boundary, along⟩
  · rintro ⟨line, boundary, along⟩
    exact ⟨⟨line, boundary⟩, along⟩

theorem Door.Anchored.admitted {room : Room Rat} {door : Door Rat} {thickness : Rat}
    (anchored : door.Anchored room.rect thickness) (width : 0 ≤ room.rect.width) (height : 0 ≤ room.rect.height)
    (nonneg : 0 ≤ thickness) : room.admits door thickness = true := by
  obtain ⟨v, held, point⟩ := anchored
  obtain ⟨wall, anchor⟩ := door
  obtain rfl : anchor = wall.pointAt room.rect v := point
  have horizontal : room.rect.left ≤ room.rect.right := le_add_of_nonneg_right width
  have vertical : room.rect.top ≤ room.rect.bottom := le_add_of_nonneg_right height
  have within := DoorSpan.for_wall_within room.rect wall thickness v nonneg
    (wall.extent_ordered room.rect width height) held
  rw [Room.admits, Bool.and_eq_true, Bool.and_eq_true, beq_iff_eq, Rect.contains_point_iff]
  cases wall with
  | left => exact ⟨⟨rfl, ⟨le_rfl, horizontal⟩, within⟩, held⟩
  | right => exact ⟨⟨rfl, ⟨horizontal, le_rfl⟩, within⟩, held⟩
  | top => exact ⟨⟨rfl, within, le_rfl, vertical⟩, held⟩
  | bottom => exact ⟨⟨rfl, within, vertical, le_rfl⟩, held⟩

end Floorplan

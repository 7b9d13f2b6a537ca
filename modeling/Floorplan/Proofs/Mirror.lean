import Floorplan.Room

set_option autoImplicit false

namespace Floorplan

variable {α : Type}

@[simp] theorem Point.transposed_transposed (p : Point α) : p.transposed.transposed = p := rfl

@[simp] theorem Rect.transposed_transposed (r : Rect α) : r.transposed.transposed = r := rfl

namespace Wall

@[simp] theorem transposed_transposed (wall : Wall) : wall.transposed.transposed = wall := by cases wall <;> rfl

@[simp] theorem opposite_transposed (wall : Wall) : wall.transposed.opposite = wall.opposite.transposed := by
  cases wall <;> rfl

@[simp] theorem transposed_faces (wall : Wall) : wall.transposed.facesHorizontally = !wall.facesHorizontally := by
  cases wall <;> rfl

@[simp] theorem point_on_transposed (wall : Wall) (line along : α) :
    wall.transposed.pointOn line along = (wall.pointOn line along).transposed := by
  cases wall <;> rfl

variable [Coord α]

@[simp] theorem line_transposed (wall : Wall) (r : Rect α) : wall.transposed.line r.transposed = wall.line r := by
  cases wall <;> rfl

@[simp] theorem outward_transposed (wall : Wall) : (wall.transposed.outward : α) = wall.outward := by cases wall <;> rfl

@[simp] theorem point_at_transposed (wall : Wall) (r : Rect α) (along : α) :
    wall.transposed.pointAt r.transposed along = (wall.pointAt r along).transposed := by
  rw [pointAt, line_transposed, point_on_transposed, pointAt]

@[simp] theorem sideways_transposed (d : α) : (sideways d).transposed = upright d := by
  rw [sideways, upright]
  split <;> rfl

@[simp] theorem upright_transposed (d : α) : (upright d).transposed = sideways d := by
  rw [sideways, upright]
  split <;> rfl

end Wall

@[simp] theorem Door.transposed_transposed (door : Door α) : door.transposed.transposed = door := by
  obtain ⟨wall, anchor⟩ := door
  simp [transposed]

def Room.transposed (room : Room α) : Room α :=
  { id := room.id, rect := room.rect.transposed, doors := room.doors.map Door.transposed }

variable [Coord α]

@[simp] theorem Rect.of_corners_transposed (p q : Point α) :
    ofCorners p.transposed q.transposed = (ofCorners p q).transposed := rfl

@[simp] theorem Rect.overlaps_transposed (r s : Rect α) : r.transposed.overlaps s.transposed = r.overlaps s := by
  change (!(decide (r.bottom ≤ s.top + Coord.epsilon) || decide (s.bottom ≤ r.top + Coord.epsilon)
    || decide (r.right ≤ s.left + Coord.epsilon) || decide (s.right ≤ r.left + Coord.epsilon))) = _
  unfold overlaps
  ac_rfl

@[simp] theorem Rect.touches_transposed (r s : Rect α) : r.transposed.touches s.transposed = r.touches s := by
  rw [touches, touches, overlaps_transposed, Bool.or_comm]
  rfl

@[simp] theorem DoorSpan.for_wall_transposed (rect : Rect α) (wall : Wall) (thickness : α) :
    forWall rect.transposed wall.transposed thickness = forWall rect wall thickness := by
  cases wall <;> rfl

end Floorplan

import Floorplan.Raster

set_option autoImplicit false

namespace Floorplan

def CellSpan.Holds (s : CellSpan) (cell : Cell) : Prop :=
  (s.x0 ≤ cell.x ∧ cell.x < s.x1) ∧ s.y0 ≤ cell.y ∧ cell.y < s.y1

instance (s : CellSpan) (cell : Cell) : Decidable (s.Holds cell) := inferInstanceAs (Decidable (_ ∧ _))

@[simp] theorem up_to_mem (lo hi i : Int) : i ∈ upTo lo hi ↔ lo ≤ i ∧ i < hi := by
  rw [upTo, List.mem_map]
  constructor
  · rintro ⟨n, member, rfl⟩
    have bound := List.mem_range.mp member
    omega
  · rintro ⟨low, high⟩
    exact ⟨(i - lo).toNat, List.mem_range.mpr (by omega), by omega⟩

def CellSpan.cells (s : CellSpan) : List Cell :=
  (upTo s.y0 s.y1).flatMap fun y => (upTo s.x0 s.x1).map fun x => { x, y }

@[simp] theorem CellSpan.cells_mem (s : CellSpan) (cell : Cell) : cell ∈ s.cells ↔ s.Holds cell := by
  simp only [cells, List.mem_flatMap, List.mem_map, up_to_mem, Holds]
  constructor
  · rintro ⟨y, down, x, across, rfl⟩
    exact ⟨across, down⟩
  · rintro ⟨across, down⟩
    exact ⟨cell.y, down, cell.x, across, rfl⟩

namespace Raster

def span (raster : Raster) : CellSpan :=
  { x0 := raster.origin.x
    y0 := raster.origin.y
    x1 := raster.origin.x + raster.width
    y1 := raster.origin.y + raster.height }

theorem place_eq (raster : Raster) (cell : Cell) (held : raster.span.Holds cell) :
    raster.place? cell =
      some ((cell.y - raster.origin.y).toNat * raster.width + (cell.x - raster.origin.x).toNat) := by
  obtain ⟨⟨left, right⟩, top, bottom⟩ := held
  simp only [span] at left right top bottom
  simp only [place?]
  rw [if_neg (by omega)]

theorem held_of_place (raster : Raster) (cell : Cell) (i : Nat) (placed : raster.place? cell = some i) :
    raster.span.Holds cell := by
  simp only [place?] at placed
  split at placed
  next => cases placed
  next inside =>
    simp only [not_or, Int.not_lt, Int.not_le] at inside
    simp only [CellSpan.Holds, span]
    omega

theorem place_lt (raster : Raster) (cell : Cell) (i : Nat) (placed : raster.place? cell = some i) :
    i < raster.cells.size := by
  have held := raster.held_of_place cell i placed
  rw [raster.place_eq cell held] at placed
  obtain ⟨⟨left, right⟩, top, bottom⟩ := held
  simp only [span] at left right top bottom
  rw [raster.size_cells, ← Option.some.inj placed, Nat.mul_comm raster.width]
  have row : (cell.y - raster.origin.y).toNat + 1 ≤ raster.height := by omega
  have column : (cell.x - raster.origin.x).toNat < raster.width := by omega
  calc (cell.y - raster.origin.y).toNat * raster.width + (cell.x - raster.origin.x).toNat
      < (cell.y - raster.origin.y).toNat * raster.width + raster.width := Nat.add_lt_add_left column _
    _ = ((cell.y - raster.origin.y).toNat + 1) * raster.width := (Nat.succ_mul _ _).symm
    _ ≤ raster.height * raster.width := Nat.mul_le_mul_right _ row

theorem cell_at_place (raster : Raster) (cell : Cell) (i : Nat) (placed : raster.place? cell = some i) :
    raster.cellAt i = cell := by
  have held := raster.held_of_place cell i placed
  rw [raster.place_eq cell held] at placed
  obtain ⟨⟨left, right⟩, top, bottom⟩ := held
  simp only [span] at left right top bottom
  have column : (cell.x - raster.origin.x).toNat < raster.width := by omega
  have positive : 0 < raster.width := by omega
  rw [cellAt, ← Option.some.inj placed, Nat.mul_comm, Nat.mul_add_mod, Nat.mod_eq_of_lt column,
    Nat.mul_add_div positive, Nat.div_eq_of_lt column, Nat.add_zero]
  obtain ⟨x, y⟩ := cell
  simp only at left top ⊢
  rw [Cell.mk.injEq]
  omega

theorem place_cell_at (raster : Raster) (i : Nat) (inRange : i < raster.cells.size) :
    raster.place? (raster.cellAt i) = some i := by
  rw [raster.size_cells] at inRange
  have positive : 0 < raster.width := by
    rcases Nat.eq_zero_or_pos raster.width with none | positive
    · rw [none, Nat.zero_mul] at inRange
      exact absurd inRange (Nat.not_lt_zero i)
    · exact positive
  have column : i % raster.width < raster.width := Nat.mod_lt i positive
  have row : i / raster.width < raster.height := Nat.div_lt_of_lt_mul inRange
  have held : raster.span.Holds (raster.cellAt i) := by
    simp only [CellSpan.Holds, span, cellAt]
    generalize i % raster.width = x at column ⊢
    generalize i / raster.width = y at row ⊢
    omega
  have offset : ∀ (start : Int) (n : Nat), (start + n - start).toNat = n := by omega
  rw [raster.place_eq _ held]
  simp only [cellAt, offset]
  rw [Nat.div_add_mod']

theorem cell_at_injective (raster : Raster) : Function.Injective raster.cellAt := by
  intro i j same
  obtain ⟨column, row⟩ := Cell.mk.inj same
  rw [← Nat.div_add_mod i raster.width, ← Nat.div_add_mod j raster.width, Int.natCast_inj.mp (Int.add_left_cancel row),
    Int.natCast_inj.mp (Int.add_left_cancel column)]

theorem state_cell_at (raster : Raster) (i : Nat) (inRange : i < raster.cells.size) :
    raster.state? (raster.cellAt i) = raster.cells[i]? := by
  rw [state?, raster.place_cell_at i inRange]
  rfl

theorem state_some_iff (raster : Raster) (cell : Cell) :
    (raster.state? cell).isSome = true ↔ raster.span.Holds cell := by
  constructor
  · intro found
    obtain ⟨state, read⟩ := Option.isSome_iff_exists.mp found
    obtain ⟨i, placed, _⟩ := Option.bind_eq_some_iff.mp read
    exact raster.held_of_place cell i placed
  · intro held
    have placed := raster.place_eq cell held
    rw [state?, placed, Option.bind_some, Array.getElem?_eq_getElem (raster.place_lt cell _ placed)]
    rfl

@[simp] theorem set_span (raster : Raster) (cell : Cell) (state : CellState) : (raster.set cell state).span = raster.span := by
  rw [set]
  split <;> rfl

theorem set_place (raster : Raster) (cell other : Cell) (state : CellState) :
    (raster.set cell state).place? other = raster.place? other := by
  rw [set]
  split <;> rfl

theorem state_set (raster : Raster) (cell other : Cell) (state : CellState) :
    (raster.set cell state).state? other =
      if other = cell then (raster.state? other).map fun _ => state else raster.state? other := by
  cases placed : raster.place? cell with
  | none =>
      have same : raster.set cell state = raster := by rw [set, placed]
      rw [same]
      split
      next here =>
        rw [here, state?, placed]
        rfl
      next => rfl
  | some i =>
      have painted : (raster.set cell state).cells = raster.cells.setIfInBounds i state := by rw [set, placed]
      have inRange := raster.place_lt cell i placed
      rw [state?, set_place, painted]
      split
      next here =>
        rw [here, state?, placed, Option.bind_some, Option.bind_some, Array.getElem?_setIfInBounds_self,
          if_pos inRange, Array.getElem?_eq_getElem inRange]
        rfl
      next apart =>
        rw [state?]
        cases otherPlaced : raster.place? other with
        | none => rfl
        | some j =>
            have different : i ≠ j := by
              rintro rfl
              exact apart ((raster.cell_at_place other i otherPlaced).symm.trans (raster.cell_at_place cell i placed))
            exact Array.getElem?_setIfInBounds_ne different

@[simp] theorem set_all_span (raster : Raster) (cells : List Cell) (state : CellState) :
    (raster.setAll cells state).span = raster.span := by
  induction cells generalizing raster with
  | nil => rfl
  | cons cell rest ih => exact (ih (raster.set cell state)).trans (raster.set_span cell state)

theorem state_set_all (raster : Raster) (cells : List Cell) (other : Cell) (state : CellState) :
    (raster.setAll cells state).state? other =
      if other ∈ cells then (raster.state? other).map fun _ => state else raster.state? other := by
  induction cells generalizing raster with
  | nil => rfl
  | cons cell rest ih =>
      have next := ih (raster.set cell state)
      rw [state_set] at next
      change ((raster.set cell state).setAll rest state).state? other = _
      rw [next]
      by_cases here : other = cell
      · rw [if_pos here, if_pos (List.mem_cons.mpr (.inl here)), Option.map_map]
        split <;> rfl
      · simp only [here, if_false, List.mem_cons, false_or]

theorem fill_eq (raster : Raster) (s : CellSpan) (state : CellState) :
    raster.fill s state = raster.setAll s.cells state := by
  rw [fill, setAll, CellSpan.cells, List.foldl_flatMap]
  simp only [List.foldl_map]

theorem fill_rooms_eq {α : Type} (raster : Raster) (rooms : Array (Room α)) (s : Room α → CellSpan)
    (state : CellState) :
    rooms.foldl (fun raster room => raster.fill (s room) state) raster =
      raster.setAll (rooms.toList.flatMap fun room => (s room).cells) state := by
  simp only [← Array.foldl_toList, fill_eq]
  rw [setAll, List.foldl_flatMap]
  rfl

theorem state_blank (origin : Cell) (width height : Nat) (cell : Cell) (state : CellState)
    (read : (blank origin width height).state? cell = some state) : state = .free := by
  obtain ⟨i, _, found⟩ := Option.bind_eq_some_iff.mp read
  simp only [blank, Array.getElem?_replicate] at found
  split at found
  · exact (Option.some.inj found).symm
  · cases found

variable {α : Type} [Coord α]

theorem of_rooms_eq (bounds : Rect α) (rooms : Array (Room α)) :
    let s := CellSpan.ofRect bounds
    ofRooms bounds rooms =
      ((blank { x := s.x0, y := s.y0 } (s.x1 - s.x0).toNat (s.y1 - s.y0).toNat).setAll
        (rooms.toList.flatMap fun room => ((CellSpan.ofRect room.rect).grow ring).cells) .buffer).setAll
        (rooms.toList.flatMap fun room => (CellSpan.ofRect room.rect).cells) .room := by
  simp only [ofRooms, fill_rooms_eq]

theorem of_rooms_span (bounds : Rect α) (rooms : Array (Room α)) (cell : Cell) :
    (ofRooms bounds rooms).span.Holds cell ↔ (CellSpan.ofRect bounds).Holds cell := by
  rw [of_rooms_eq, set_all_span, set_all_span]
  simp only [CellSpan.Holds, span, blank]
  omega

theorem state_of_rooms (bounds : Rect α) (rooms : Array (Room α)) (cell : Cell) (state : CellState)
    (read : (ofRooms bounds rooms).state? cell = some state) :
    let inRoom := ∃ room ∈ rooms, (CellSpan.ofRect room.rect).Holds cell
    let inRing := ∃ room ∈ rooms, ((CellSpan.ofRect room.rect).grow ring).Holds cell
    inRoom ∧ state = .room ∨ ¬ inRoom ∧ inRing ∧ state = .buffer ∨ ¬ inRoom ∧ ¬ inRing ∧ state = .free := by
  have painted : ∀ s : Room α → CellSpan,
      cell ∈ (rooms.toList.flatMap fun room => (s room).cells) ↔ ∃ room ∈ rooms, (s room).Holds cell := by
    intro s
    simp
  intro inRoom inRing
  simp only [of_rooms_eq, state_set_all] at read
  split at read
  next room =>
    obtain ⟨_, _, rfl⟩ := Option.map_eq_some_iff.mp read
    exact .inl ⟨(painted _).mp room, rfl⟩
  next noRoom =>
    have outside : ¬ inRoom := fun room => noRoom ((painted _).mpr room)
    split at read
    next near =>
      obtain ⟨_, _, rfl⟩ := Option.map_eq_some_iff.mp read
      exact .inr (.inl ⟨outside, (painted _).mp near, rfl⟩)
    next far =>
      exact .inr (.inr ⟨outside, fun near => far ((painted _).mpr near), state_blank _ _ _ cell state read⟩)

end Raster

end Floorplan

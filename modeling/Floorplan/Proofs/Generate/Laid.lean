import Floorplan.Proofs.Exact
import Floorplan.Proofs.Generate.Placing
import Floorplan.Proofs.Index.Search
import Floorplan.Proofs.Words.Capacity

set_option autoImplicit false

namespace Floorplan

open Floorplan.Random (Draw Rng)

structure PlacementRequest.Fits (request : PlacementRequest Rat) (rect : Rect Rat) : Prop where
  size : ∃ size ∈ request.sizes, rect.width = (size.1.toNat : Int) ∧ rect.height = (size.2.toNat : Int)
  corner : ∃ x y : Int, rect.x = x ∧ rect.y = y
  inside : request.bounds.containsRect rect = true

-- Rooms on the index that they were reserved in: each as the request allows, and clear of all others.
structure Laid (request : PlacementRequest Rat) (start : SpatialIndex Rat) (rooms : Array (Room Rat))
    (index : SpatialIndex Rat) : Prop where
  placed : Placed start rooms index
  cellSize : index.cellSize = start.cellSize
  fits : ∀ room ∈ rooms, request.Fits room.rect
  apart : rooms.toList.Pairwise fun earlier later => later.rect.overlaps earlier.rect = false
  clear : ∀ room ∈ rooms, ∀ entry ∈ start.entries.toList, room.rect.overlaps entry.rect = false

variable {request : PlacementRequest Rat} {start index : SpatialIndex Rat} {rooms : Array (Room Rat)}

theorem PlacementRequest.Fits.sized {rect : Rect Rat} (fits : request.Fits rect) : rect.Sized := by
  obtain ⟨size, _, width, height⟩ := fits.size
  apply Rect.sized_of_nonneg
  · rw [width]
    exact Int.cast_nonneg (Int.natCast_nonneg _)
  · rw [height]
    exact Int.cast_nonneg (Int.natCast_nonneg _)

theorem beside_corner (base : Rect Rat) (size : UInt32 × UInt32) (rect : Rect Rat) (baseFits : request.Fits base)
    (beside : Placement.Beside base (Coord.ofInt size.1.toNat) (Coord.ofInt size.2.toNat) rect) :
    ∃ x y : Int, rect.x = x ∧ rect.y = y := by
  obtain ⟨baseSize, _, width, height⟩ := baseFits.size
  obtain ⟨baseX, baseY, left, top⟩ := baseFits.corner
  cases beside with
  | left y => exact ⟨baseX - size.1.toNat, y, by simp [Rect.left, left], rfl⟩
  | right y => exact ⟨baseX + baseSize.1.toNat, y, by simp [Rect.right, left, width], rfl⟩
  | above x => exact ⟨x, baseY - size.2.toNat, rfl, by simp [Rect.top, top]⟩
  | below x => exact ⟨x, baseY + baseSize.2.toNat, rfl, by simp [Rect.bottom, top, height]⟩

theorem beside_size (base : Rect Rat) (size : UInt32 × UInt32) (rect : Rect Rat)
    (beside : Placement.Beside base (Coord.ofInt size.1.toNat) (Coord.ofInt size.2.toNat) rect) :
    rect.width = (size.1.toNat : Int) ∧ rect.height = (size.2.toNat : Int) := by
  cases beside <;> exact ⟨rfl, rfl⟩

namespace Laid

theorem empty (faithful : start.Faithful) : Laid request start #[] start where
  placed := .empty faithful
  cellSize := rfl
  fits := by simp
  apart := by simp
  clear := by simp

theorem index_eq (laid : Laid request start rooms index) : index =
    .ofReservations start.cellSize (start.entries.toList ++ rooms.toList.map Room.reservation) := by
  rw [← laid.placed.entries, ← laid.cellSize]
  exact SpatialIndex.faithful_of_reservations index laid.placed.faithful

theorem searchable (laid : Laid request start rooms index) (positive : Coord.zero < start.cellSize)
    (sized : ∀ entry ∈ start.entries.toList, entry.rect.Sized) : index.Searchable where
  faithful := laid.placed.faithful
  cell_pos := by
    rw [laid.cellSize]
    exact positive
  sized := by
    intro entry member
    rw [laid.placed.entries] at member
    rcases List.mem_append.mp member with initial | placed
    · exact sized entry initial
    · obtain ⟨room, listed, rfl⟩ := List.mem_map.mp placed
      exact (laid.fits room (Array.mem_toList_iff.mp listed)).sized

theorem push (laid : Laid request start rooms index) (rect : Rect Rat) (fits : request.Fits rect)
    (free : ∀ entry ∈ index.entries.toList, rect.overlaps entry.rect = false) :
    Laid request start (rooms.push (.new ⟨rooms.size⟩ rect)) (index.reserve rect (.room ⟨rooms.size⟩)) where
  placed := laid.placed.push rect
  cellSize := laid.cellSize
  fits := by
    intro room listed
    rcases Array.mem_push.mp listed with old | rfl
    · exact laid.fits room old
    · exact fits
  apart := by
    rw [Array.toList_push, List.pairwise_append]
    refine ⟨laid.apart, List.pairwise_singleton _ _, fun earlier listed later last => ?_⟩
    rw [List.mem_singleton.mp last]
    apply free earlier.reservation
    rw [laid.placed.entries]
    exact List.mem_append_right _ (List.mem_map_of_mem listed)
  clear := by
    intro room listed entry initial
    rcases Array.mem_push.mp listed with old | rfl
    · exact laid.clear room old entry initial
    · apply free
      rw [laid.placed.entries]
      exact List.mem_append_left _ initial

end Laid

theorem overlaps_none (searchable : index.Searchable) (rect : Rect Rat) (sized : rect.Sized)
    (free : index.overlapsAny rect = false) : ∀ entry ∈ index.entries.toList, rect.overlaps entry.rect = false := by
  rw [SpatialIndex.overlapsAny, SpatialIndex.overlaps_where_eq index searchable rect sized] at free
  intro entry member
  have apart := List.any_eq_false.mp free entry member
  simpa [Rect.overlaps_comm] using apart

theorem overlaps_none_of_padded (searchable : index.Searchable) (rect : Rect Rat) (sized : rect.Sized)
    (padding : Nat)
    (free : index.overlapsAny (if padding = 0 then rect else rect.expand (Coord.ofInt padding)) = false) :
    ∀ entry ∈ index.entries.toList, rect.overlaps entry.rect = false := by
  split at free
  next => exact overlaps_none searchable rect sized free
  next =>
    have nonneg : (0 : Rat) ≤ Coord.ofInt padding := Int.cast_nonneg (Int.natCast_nonneg padding)
    have padded := overlaps_none searchable (rect.expand (Coord.ofInt padding))
      (rect.expand_sized _ nonneg sized.width_nonneg sized.height_nonneg) free
    intro entry member
    by_contra overlap
    rw [Bool.not_eq_false] at overlap
    have wider := rect.overlaps_expand entry.rect _ nonneg overlap
    rw [padded entry member] at wider
    cases wider

namespace Placement

theorem stepped_laid (positive : Coord.zero < start.cellSize) (sized : ∀ entry ∈ start.entries.toList, entry.rect.Sized)
    (before after : Placement Rat) (stepped : Stepped request before after)
    (laid : Laid request start before.rooms before.index) : Laid request start after.rooms after.index := by
  have searchable := laid.searchable positive sized
  cases stepped with
  | kept => exact laid
  | scattered size listed x y rect drawn alone inside free =>
      subst drawn
      have fits : request.Fits _ := ⟨⟨size, listed, rfl, rfl⟩, ⟨x, y, rfl, rfl⟩, inside⟩
      exact laid.push _ fits (overlaps_none_of_padded searchable _ fits.sized request.padding free)
  | touching size listed base placed side rng rect drawn wanted inside free =>
      have beside := touching_candidate_beside base.rect (Coord.ofInt size.1.toNat) (Coord.ofInt size.2.toNat) side rng
      rw [← drawn] at beside
      have fits : request.Fits rect := ⟨⟨size, listed, beside_size base.rect size rect beside⟩,
        beside_corner base.rect size rect (laid.fits base placed) beside, inside⟩
      exact laid.push rect fits (overlaps_none searchable rect fits.sized free)

theorem run_laid (request : PlacementRequest Rat) (faithful : start.Faithful) (positive : Coord.zero < start.cellSize)
    (sized : ∀ entry ∈ start.entries.toList, entry.rect.Sized) (rng : Rng) :
    let placement := ((run request request.maxAttempts
      { rooms := #[], touchingLeft := touchingCount request, index := start }).run rng).1
    Laid request start placement.rooms placement.index ∧ placement.rooms.size ≤ request.roomCount :=
  run_keeps request
    (fun placement => Laid request start placement.rooms placement.index ∧ placement.rooms.size ≤ request.roomCount)
    (fun before after missing stepped holds =>
      ⟨stepped_laid positive sized before after stepped holds.1, stepped_count request before after missing stepped⟩)
    request.maxAttempts _ ⟨.empty faithful, Nat.zero_le _⟩ rng

end Placement

theorem place_rooms_ok_laid (faithful : start.Faithful) (positive : Coord.zero < start.cellSize)
    (sized : ∀ entry ∈ start.entries.toList, entry.rect.Sized) (rng rest : Rng)
    (finished : (placeRooms request start).run rng = ((.ok rooms, index), rest)) :
    Laid request start rooms index := by
  simp only [placeRooms] at finished
  split at finished
  next => cases finished
  next =>
    rw [draw_run_bind] at finished
    obtain ⟨laid, _⟩ := Placement.run_laid request faithful positive sized rng
    split at finished
    next => cases finished
    next =>
      cases finished
      exact laid

theorem placement_laid (request : PlacementRequest Rat) (start : SpatialIndex Rat) (faithful : start.Faithful)
    (positive : 0 < start.cellSize) (sized : ∀ entry ∈ start.entries.toList, entry.rect.Sized) (rng : Rng) :
    let result := ((placeRooms request start).run rng).1
    ∃ rooms, Laid request start rooms result.2
      ∧ match result.1 with
        | .ok placed => placed = rooms ∧ rooms.size = request.roomCount
        | .error failure => rooms.size < request.roomCount
          ∧ failure = .placementExhausted rooms.size request.roomCount
              (if request.sizes.isEmpty then 0 else request.maxAttempts) := by
  simp only [placeRooms]
  split
  next none =>
    simp only [Bool.and_eq_true, decide_eq_true_eq] at none
    have laid : Laid request start #[] start := .empty faithful
    refine ⟨#[], laid, none.2, ?_⟩
    rw [none.1]
    rfl
  next some =>
    rw [draw_run_bind]
    have ended := Placement.run_laid request faithful positive sized rng
    generalize (Placement.run request request.maxAttempts
      { rooms := #[], touchingLeft := Placement.touchingCount request, index := start }).run rng = answer at ended ⊢
    obtain ⟨placement, rng'⟩ := answer
    obtain ⟨laid, few⟩ := ended
    simp only
    split
    next missing =>
      have sizes : request.sizes.isEmpty = false := by
        have wanted : 0 < request.roomCount := Nat.lt_of_le_of_lt (Nat.zero_le _) missing
        simpa [wanted] using some
      refine ⟨placement.rooms, laid, missing, ?_⟩
      rw [sizes]
      rfl
    next enough => exact ⟨placement.rooms, laid, rfl, Nat.le_antisymm few (Nat.not_lt.mp enough)⟩

-- Only a number of rooms that no list is given memory for has no answer.
theorem place_rooms_laid (request : PlacementRequest Rat) (start : SpatialIndex Rat) (reached : start.Reached)
    (positive : 0 < start.cellSize)
    (nonneg : ∀ entry ∈ start.entries.toList, 0 ≤ entry.rect.width ∧ 0 ≤ entry.rect.height) (rng : Rng) :
    let answer := ((Words.placeRooms? request start).run rng).1
    (answer = none ↔ ¬ Words.InMemory request.roomCount Words.roomBytes)
      ∧ ∀ outcome index, answer = some (outcome, index) → ∃ rooms, Laid request start rooms index
        ∧ index = .ofReservations start.cellSize (start.entries.toList ++ rooms.toList.map Room.reservation)
        ∧ match outcome with
          | .ok placed => placed = rooms ∧ rooms.size = request.roomCount
          | .error failure => rooms.size < request.roomCount
            ∧ failure = .placementExhausted rooms.size request.roomCount
                (if request.sizes.isEmpty then 0 else request.maxAttempts) := by
  intro answer
  refine ⟨Words.place_rooms_none_iff request start rng, fun outcome index made => ?_⟩
  have sized : ∀ entry ∈ start.entries.toList, entry.rect.Sized := fun entry member =>
    Rect.sized_of_nonneg _ (nonneg entry member).1 (nonneg entry member).2
  have ran := Words.place_rooms_sound request start rng (outcome, index) _ (Prod.ext made rfl)
  obtain ⟨rooms, laid, ended⟩ :=
    placement_laid request start ((SpatialIndex.reached_iff_faithful start).mp reached) positive sized rng
  rw [ran] at laid ended
  exact ⟨rooms, laid, laid.index_eq, ended⟩

def cramped : PlacementRequest Rat :=
  { bounds := ⟨0, 0, 3, 3⟩, roomCount := 2, sizes := #[(3, 3)], padding := 0, touchingFraction := 1 / 2,
    maxAttempts := 5 }

def corridorOutside : SpatialIndex Rat := .ofReservations 4 [⟨⟨-9, 0, 3, 1⟩, .connector ⟨0⟩⟩]

theorem cramped_fit_overlaps (r s : Rect Rat) (rFits : cramped.Fits r) (sFits : cramped.Fits s) :
    r.overlaps s = true := by
  have square : ∀ rect, cramped.Fits rect → rect.width = 3 ∧ rect.height = 3 := by
    intro rect fits
    obtain ⟨size, listed, width, height⟩ := fits.size
    obtain rfl : size = (3, 3) := by simpa [cramped] using listed
    exact ⟨width, height⟩
  obtain ⟨⟨rLeft, rRight⟩, rTop, rBottom⟩ := (Rect.contains_rect_iff _ _).mp rFits.inside
  obtain ⟨⟨sLeft, sRight⟩, sTop, sBottom⟩ := (Rect.contains_rect_iff _ _).mp sFits.inside
  rw [Rect.overlaps_iff]
  simp only [cramped, Rect.left, Rect.right, Rect.top, Rect.bottom, Rational.epsilon_eq, square r rFits,
    square s sFits] at rLeft rRight rTop rBottom sLeft sRight sTop sBottom ⊢
  exact ⟨⟨by linarith, by linarith⟩, by linarith, by linarith⟩

theorem cramped_exhausted :
    corridorOutside.Reached ∧ 0 < corridorOutside.cellSize
      ∧ (∀ entry ∈ corridorOutside.entries.toList, 0 ≤ entry.rect.width ∧ 0 ≤ entry.rect.height)
      ∧ ∃ rooms index,
        ((Words.placeRooms? cramped corridorOutside).run (.ofSeed 7)).1 =
            some (.error (.placementExhausted rooms.size 2 5), index)
          ∧ rooms.size < 2 ∧ Laid cramped corridorOutside rooms index := by
  obtain ⟨faithful, cellSize, entries⟩ :=
    SpatialIndex.of_reservations_spec (4 : Rat) [⟨⟨-9, 0, 3, 1⟩, .connector ⟨0⟩⟩]
  have reached : corridorOutside.Reached := (SpatialIndex.reached_iff_faithful _).mpr faithful
  have positive : 0 < corridorOutside.cellSize := by
    rw [corridorOutside, cellSize]
    decide +kernel
  have nonneg : ∀ entry ∈ corridorOutside.entries.toList, 0 ≤ entry.rect.width ∧ 0 ≤ entry.rect.height := by
    rw [corridorOutside, entries]
    decide +kernel
  refine ⟨reached, positive, nonneg, ?_⟩
  obtain ⟨breaks, ends⟩ := place_rooms_laid cramped corridorOutside reached positive nonneg (.ofSeed 7)
  have memory : Words.InMemory cramped.roomCount Words.roomBytes := by decide
  obtain ⟨⟨outcome, index⟩, answered⟩ := Option.ne_none_iff_exists'.mp (mt breaks.mp (not_not_intro memory))
  obtain ⟨rooms, laid, _, ended⟩ := ends outcome index answered
  rw [answered]
  cases outcome with
  | error failure =>
      obtain ⟨few, rfl⟩ := ended
      exact ⟨rooms, index, rfl, few, laid⟩
  | ok placed =>
      -- two rooms would have to overlap
      obtain ⟨rfl, both⟩ := ended
      have pair : 0 < placed.size ∧ 1 < placed.size := by
        rw [both]
        decide
      have apart := List.pairwise_iff_getElem.mp laid.apart 0 1 (by simpa using pair.1) (by simpa using pair.2)
        Nat.zero_lt_one
      rw [Array.getElem_toList, Array.getElem_toList, cramped_fit_overlaps _ _
        (laid.fits _ (Array.getElem_mem _)) (laid.fits _ (Array.getElem_mem _))] at apart
      cases apart

def endless : PlacementRequest Rat :=
  { bounds := ⟨0, 0, 40, 40⟩, roomCount := 2 ^ 62, sizes := #[(3, 4)], padding := 0, touchingFraction := 0,
    maxAttempts := 4 }

theorem endless_breaks :
    (SpatialIndex.new (8 : Rat)).Reached ∧ (SpatialIndex.new (8 : Rat)).entries = #[]
      ∧ ((Words.placeRooms? endless (.new 8)).run (.ofSeed 1)).1 = none := by
  refine ⟨(SpatialIndex.reached_iff_faithful _).mpr (SpatialIndex.new_faithful (8 : Rat)), rfl, ?_⟩
  exact (Words.place_rooms_none_iff endless (.new 8) (.ofSeed 1)).mpr (by decide)

end Floorplan

import Floorplan.Proofs.Exact
import Floorplan.Proofs.Generate.Valid
import Floorplan.Proofs.Words.Calls

set_option autoImplicit false

namespace Floorplan

open Floorplan.Random (Draw Rng)

namespace Rational

theorem ceil_cell_eq (x : Rat) : Coord.ceilCell x = Number.clampInt Number.cellMin Number.cellMax ⌈x⌉ := by
  have ceil : ⌈x⌉ = -(-x.num / (x.den : Int)) := by
    rw [← neg_neg ⌈x⌉, ← Int.floor_neg, Rat.floor_def', Rat.num_neg_eq_neg_num, Rat.den_neg_eq_den]
  rw [ceil]
  rfl

end Rational

namespace Words

variable (config : Config Rat) (rooms : Array (Room Rat))

-- The cells of the map are no more than words count, and the rings of its rooms are in words.
structure Counted : Prop where
  area : (config.width.toNat : Int) * config.height.toNat ≤ Number.cellMax
  right : ∀ room ∈ rooms, room.rect.right + 1 ≤ (Number.cellMax : Rat)
  bottom : ∀ room ∈ rooms, room.rect.bottom + 1 ≤ (Number.cellMax : Rat)

structure InBounds : Prop where
  solid : ∀ room ∈ rooms, room.rect.Solid
  inside : ∀ room ∈ rooms, config.bounds.containsRect room.rect = true

section Spans

variable {config} {rooms}

theorem clamp_word (n : Int) (low : Number.cellMin ≤ n) (high : n ≤ Number.cellMax) :
    Number.clampInt Number.cellMin Number.cellMax n = n := by
  rw [Number.clampInt]
  omega

theorem ceil_cell_next_iff (x : Rat) : Coord.ceilCell x + 1 ≤ Number.cellMax ↔ x + 1 ≤ (Number.cellMax : Rat) := by
  have whole : x + 1 ≤ (Number.cellMax : Rat) ↔ ⌈x⌉ ≤ Number.cellMax - 1 := by
    rw [Int.ceil_le, Int.cast_sub, Int.cast_one, le_sub_iff_add_le]
  rw [whole, Rational.ceil_cell_eq, Number.clampInt]
  have room : Number.cellMin ≤ Number.cellMax - 1 := by decide
  omega

theorem floor_cell_low (x : Rat) (inside : 0 - Coord.epsilon ≤ x) : -1 ≤ Coord.floorCell x := by
  have near : (-1 : Int) ≤ ⌊x⌋ := by
    rw [Int.le_floor, Int.cast_neg, Int.cast_one]
    rw [Rational.epsilon_eq] at inside
    linarith
  have clamped := Rational.clamp_int_mono Number.cellMin Number.cellMax _ _ near
  rwa [clamp_word (-1) (by decide) (by decide), ← Rational.floor_cell_eq] at clamped

theorem floor_le_ceil_cell (x y : Rat) (less : x < y) : Coord.floorCell x ≤ Coord.ceilCell y := by
  rw [Rational.floor_cell_eq, Rational.ceil_cell_eq]
  refine Rational.clamp_int_mono _ _ _ _ ?_
  have between : ((⌊x⌋ : Int) : Rat) ≤ (⌈y⌉ : Int) := (Int.floor_le x).trans (less.le.trans (Int.le_ceil y))
  exact Int.cast_le.mp between

theorem sides_positive (valid : config.validate = .ok ()) : 0 < config.width.toNat ∧ 0 < config.height.toNat := by
  have bounds := (config.valid_of_validate valid).bounds
  rw [Config.checkBounds] at bounds
  split at bounds
  next => cases bounds
  next some =>
    rw [not_or] at some
    exact ⟨Nat.pos_of_ne_zero fun none => some.1 (UInt32.toNat_inj.mp none),
      Nat.pos_of_ne_zero fun none => some.2 (UInt32.toNat_inj.mp none)⟩

theorem bounds_span : CellSpan.ofRect config.bounds =
    { x0 := 0
      y0 := 0
      x1 := Number.clampInt Number.cellMin Number.cellMax config.width.toNat
      y1 := Number.clampInt Number.cellMin Number.cellMax config.height.toNat } := by
  have start : Coord.floorCell (Coord.zero : Rat) = 0 := Rational.floor_cell_whole 0
  have stop (n : Nat) : Coord.ceilCell ((Coord.zero : Rat) + Coord.ofInt n) =
      Number.clampInt Number.cellMin Number.cellMax n := by
    rw [Rational.zero_eq, zero_add]
    exact Rational.ceil_cell_whole n
  simp only [CellSpan.ofRect, Config.bounds, Rect.left, Rect.top, Rect.right, Rect.bottom, start, stop]

theorem Counted.sides (counted : Counted config rooms) (valid : config.validate = .ok ()) :
    (config.width.toNat : Int) ≤ Number.cellMax ∧ (config.height.toNat : Int) ≤ Number.cellMax := by
  obtain ⟨wide, high⟩ := sides_positive valid
  have area := counted.area
  -- neither side is longer than the area, as the other is no shorter than 1
  have width := le_mul_of_one_le_right (Int.natCast_nonneg config.width.toNat) (Int.ofNat_le.mpr high)
  have height := le_mul_of_one_le_left (Int.natCast_nonneg config.height.toNat) (Int.ofNat_le.mpr wide)
  omega

theorem Counted.span (counted : Counted config rooms) (valid : config.validate = .ok ()) :
    CellSpan.ofRect config.bounds = { x0 := 0, y0 := 0, x1 := config.width.toNat, y1 := config.height.toNat } := by
  obtain ⟨wide, high⟩ := counted.sides valid
  have least : Number.cellMin ≤ 0 := by decide
  rw [bounds_span, clamp_word _ (by omega) wide, clamp_word _ (by omega) high]

theorem InBounds.ringed (placed : InBounds config rooms) (counted : Counted config rooms) (room : Room Rat)
    (listed : room ∈ rooms) : Ringed room.rect := by
  have solid := placed.solid room listed
  obtain ⟨⟨left, _⟩, top, _⟩ := (Rect.contains_rect_iff _ _).mp (placed.inside room listed)
  have right := (ceil_cell_next_iff _).mpr (counted.right room listed)
  have bottom := (ceil_cell_next_iff _).mpr (counted.bottom room listed)
  have zero : config.bounds.left = 0 ∧ config.bounds.top = 0 := ⟨Rational.zero_eq, Rational.zero_eq⟩
  rw [zero.1] at left
  rw [zero.2] at top
  have west := floor_cell_low _ left
  have north := floor_cell_low _ top
  have least : Number.cellMin ≤ -2 := by decide
  refine ⟨floor_le_ceil_cell _ _ (lt_add_of_pos_right _ solid.width),
    floor_le_ceil_cell _ _ (lt_add_of_pos_right _ solid.height), ?_⟩
  constructor <;> simp only [CellSpan.words, CellSpan.grow, CellSpan.ofRect, Raster.ring] <;> omega

theorem counted_of_built (raster : Raster) (built : ofRooms? config.bounds rooms = some raster)
    (whole : raster.cells.size = config.width.toNat * config.height.toNat) : Counted config rooms := by
  obtain ⟨measured, rings⟩ := of_rooms_some config.bounds rooms raster built
  have area := measured.counted rooms
  rw [← of_rooms_sound config.bounds rooms raster built, whole, Int.natCast_mul] at area
  exact ⟨area, fun room listed => (ceil_cell_next_iff _).mp (rings room listed).right,
    fun room listed => (ceil_cell_next_iff _).mp (rings room listed).bottom⟩

theorem Counted.measured (counted : Counted config rooms) (valid : config.validate = .ok ()) :
    Measured config.bounds := by
  obtain ⟨wide, high⟩ := counted.sides valid
  have least : Number.cellMin ≤ 0 := by decide
  constructor
  · simp only [counted.span valid, InWords]
    omega
  · simp only [counted.span valid, Int.sub_zero]
    rw [max_eq_left (Int.natCast_nonneg _), max_eq_left (Int.natCast_nonneg _)]
    exact counted.area

theorem Counted.sized (counted : Counted config rooms) (valid : config.validate = .ok ()) :
    let raster := Raster.ofRooms config.bounds rooms
    raster.origin = { x := 0, y := 0 } ∧ raster.width = config.width.toNat ∧ raster.height = config.height.toNat := by
  obtain ⟨origin, width, height⟩ := of_rooms_sized config.bounds rooms
  simp only [counted.span valid, Int.sub_zero, Int.toNat_natCast] at origin width height
  exact ⟨origin, width, height⟩

theorem Counted.fits (counted : Counted config rooms) (valid : config.validate = .ok ()) :
    Fits (.ofRooms config.bounds rooms) := by
  obtain ⟨wide, high⟩ := counted.sides valid
  obtain ⟨origin, width, height⟩ := counted.sized valid
  refine ⟨origin, ?_, ?_, (counted.measured valid).counted rooms⟩
  · rwa [width]
  · rwa [height]

theorem Counted.built (counted : Counted config rooms) (valid : config.validate = .ok ())
    (placed : InBounds config rooms) :
    ofRooms? config.bounds rooms = some (.ofRooms config.bounds rooms) :=
  of_rooms_answers (counted.measured valid) rooms fun room listed =>
    (placed.ringed counted room listed).near (counted.fits valid)

theorem Counted.ready (counted : Counted config rooms) (valid : config.validate = .ok ())
    (placed : InBounds config rooms) (index : SpatialIndex Rat) (nextId : Nat) :
    Ready (Raster.ofRooms config.bounds rooms).span
      { board := { rooms, index, nextId }, strategy := ofRooms? config.bounds rooms } :=
  start_ready (counted.measured valid) { rooms, index, nextId } (counted.fits valid).framed fun room listed =>
    (placed.ringed counted room listed).near (counted.fits valid)

end Spans

-- Whatever a map is asked about its cells, its rooms and the ways between them stays in words and in its array.
structure Safe (rooms : Array (Room Rat)) (raster : Raster) : Prop where
  sized : raster.cells.size = raster.width * raster.height
  place : ∀ cell, InWords cell → place? raster cell = some (raster.place? cell)
  onMap : ∀ cell, InWords cell → ((∃ i, place? raster cell = some (some i)) ↔ raster.span.Holds cell)
  inverse : ∀ cell i, InWords cell →
    (place? raster cell = some (some i) ↔ i < raster.cells.size ∧ cellAt? raster i = some cell)
  state : ∀ cell, InWords cell → state? raster cell = some (raster.state? cell)
  set : ∀ cell state, InWords cell → set? raster cell state = some (raster.set cell state)
  steps : ∀ goals cell, goals ≠ [] → (∀ goal ∈ goals, raster.span.Holds goal) → raster.span.Holds cell →
    stepsTo? (GridPath.boxAround goals) cell = some (GridPath.stepsTo (GridPath.boxAround goals) cell)
  doors : ∀ room ∈ rooms, ∀ crossing wall thickness forced,
    doorCells? raster crossing room wall thickness forced
      = some (Grid.doorCells raster crossing room wall thickness forced)
  paths : ∀ a ∈ rooms, ∀ b ∈ rooms, ∀ crossing walls thickness forced,
    routePair? raster crossing a b walls thickness forced
      = some (Grid.routePair raster crossing a b walls thickness forced)

theorem safe_of_fits (rooms : Array (Room Rat)) (raster : Raster) (near : ∀ room ∈ rooms, Near raster room.rect)
    (fits : Fits raster) : Safe rooms raster where
  sized := raster.size_cells
  place cell words := place_answers fits.cells cell (fits.in_reach cell words)
  onMap cell words := by
    rw [place_answers fits.cells cell (fits.in_reach cell words)]
    constructor
    · rintro ⟨i, placed⟩
      exact raster.held_of_place cell i (Option.some.inj placed)
    · exact fun held => ⟨_, congrArg some (raster.place_eq cell held)⟩
  inverse cell i words := by
    rw [place_answers fits.cells cell (fits.in_reach cell words)]
    constructor
    · intro placed
      have inRange := raster.place_lt cell i (Option.some.inj placed)
      refine ⟨inRange, ?_⟩
      rw [cell_at_answers fits.framed i inRange, raster.cell_at_place cell i (Option.some.inj placed)]
    · rintro ⟨inRange, found⟩
      rw [cell_at_answers fits.framed i inRange] at found
      rw [← Option.some.inj found, raster.place_cell_at i inRange]
  state cell words := state_answers fits.cells cell (fits.in_reach cell words)
  set cell state words := set_answers fits.cells cell state (fits.in_reach cell words)
  steps goals cell some onMap held := by
    obtain ⟨goal, rest, rfl⟩ := List.exists_cons_of_ne_nil some
    exact steps_answers fits.framed _ (box_around_on fits.framed goal rest onMap) cell held
  doors room listed crossing wall thickness forced :=
    door_cells_answer fits.framed crossing forced room (near room listed) wall thickness
  paths a listedA b listedB crossing walls thickness forced :=
    route_pair_answers fits.framed crossing forced a b (near a listedA) (near b listedB) walls thickness

theorem map_in_words_iff_counted (config : Config Rat) (valid : config.validate = .ok ()) (rooms : Array (Room Rat))
    (placed : InBounds config rooms) :
    ((∃ raster, ofRooms? config.bounds rooms = some raster
        ∧ raster.cells.size = config.width.toNat * config.height.toNat) ↔ Counted config rooms)
      ∧ (Counted config rooms →
        ∀ (rules : RouteRules Rat) (crossing : CrossingPolicy) (index : SpatialIndex Rat) (nextId : Nat),
          index.Reached → ∀ connectors state,
            RouteRun rules (strategy crossing)
              { board := { rooms, index, nextId }, strategy := ofRooms? config.bounds rooms } connectors state →
            ∃ raster, state.strategy = some raster ∧ raster.origin = { x := 0, y := 0 }
              ∧ raster.width = config.width.toNat ∧ raster.height = config.height.toNat
              ∧ Safe state.board.rooms raster) := by
  constructor
  · constructor
    · rintro ⟨raster, built, whole⟩
      exact counted_of_built raster built whole
    · intro counted
      obtain ⟨_, width, height⟩ := counted.sized valid
      exact ⟨_, counted.built valid placed, by rw [Raster.size_cells, width, height]⟩
  · intro counted rules crossing index nextId reached connectors state ran
    have ready := run_ready rules crossing _ _ ((SpatialIndex.reached_iff_faithful index).mp reached)
      (counted.ready valid placed index nextId) connectors state ran
    obtain ⟨raster, found, _, same⟩ := ready.map
    obtain ⟨origin, width, height⟩ := counted.sized valid
    obtain ⟨sameOrigin, sameWidth, sameHeight⟩ := sides_of_span same
    exact ⟨raster, found, sameOrigin.trans origin, sameWidth.trans width, sameHeight.trans height,
      safe_of_fits _ raster (fun room listed => ready.rooms room listed raster same) ((counted.fits valid).of_span same)⟩

def plain (width height : UInt32) : Config Rat :=
  { Config.standard with width, height, roomCount := 1, roomSizes := [(1, 1)], strategy := .grid }

def smallRoom : Room Rat := .new ⟨0⟩ ⟨45819, 3943, 1, 1⟩

theorem small_room_inside (width height : UInt32) (wide : 45820 ≤ width.toNat) (high : 3944 ≤ height.toNat) :
    InBounds (plain width height) #[smallRoom] where
  solid room listed := by
    obtain rfl : room = smallRoom := by simpa using listed
    exact ⟨by decide +kernel, by decide +kernel⟩
  inside room listed := by
    obtain rfl : room = smallRoom := by simpa using listed
    have right : (45820 : Rat) ≤ ((width.toNat : Int) : Rat) := by exact_mod_cast wide
    have bottom : (3944 : Rat) ≤ ((height.toNat : Int) : Rat) := by exact_mod_cast high
    rw [Rect.contains_rect_iff]
    simp only [plain, Config.bounds, smallRoom, Room.new, Rect.left, Rect.top, Rect.right, Rect.bottom,
      Rational.zero_eq, Rational.epsilon_eq, Rational.of_int_eq]
    exact ⟨⟨by norm_num, by linarith⟩, by norm_num, by linarith⟩

theorem large_map_safe :
    ∃ raster, ofRooms? (plain 65536 32767).bounds #[smallRoom] = some raster
      ∧ raster.width = 65536 ∧ raster.height = 32767 ∧ Safe #[smallRoom] raster := by
  have valid : (plain 65536 32767).validate = .ok () := by decide +kernel
  have placed := small_room_inside 65536 32767 (by decide) (by decide)
  have counted : Counted (plain 65536 32767) #[smallRoom] := by
    refine ⟨by decide, ?_, ?_⟩ <;> simp only [Array.mem_singleton, forall_eq] <;> decide +kernel
  have reached := (SpatialIndex.reached_iff_faithful _).mpr (SpatialIndex.new_faithful (8 : Rat))
  obtain ⟨_, safe⟩ := map_in_words_iff_counted _ valid _ placed
  obtain ⟨raster, built, _, width, height, all⟩ :=
    safe counted (.ofConfig (plain 65536 32767)) .forbid (.new 8) 0 reached [] _ .start
  exact ⟨raster, built, width, height, all⟩

theorem square_map_uncounted :
    (plain 65536 65536).validate = .ok () ∧ InBounds (plain 65536 65536) #[smallRoom]
      ∧ ofRooms? (plain 65536 65536).bounds #[smallRoom] = none := by
  refine ⟨by decide +kernel, small_room_inside 65536 65536 (by decide) (by decide), ?_⟩
  have broken : (ofRooms? (plain 65536 65536).bounds #[smallRoom]).isNone = true := by decide +kernel
  exact Option.isNone_iff_eq_none.mp broken

end Words

end Floorplan

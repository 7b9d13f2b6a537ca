import Floorplan.Proofs.Contact
import Floorplan.Proofs.Generate.Laid

set_option autoImplicit false

namespace Floorplan

open Coord (epsilon)
open Floorplan.Random (Draw Rng)

namespace Rect

-- A rectangle against another: an edge of each lies on one line, and they have a unit of it in common.
structure Against (rect base : Rect Rat) : Prop where
  touches : rect.touches base = true
  shares : ∃ wall : Wall, wall.line rect = wall.opposite.line base ∧ 1 ≤ wall.shared rect base

-- A rectangle that keeps a gap to another, up to the slack, across or down.
structure Clears (padding : Nat) (rect other : Rect Rat) : Prop where
  padded : (rect.expand (Coord.ofInt padding)).overlaps other = false
  gap : (padding - epsilon ≤ other.left - rect.right ∨ padding - epsilon ≤ rect.left - other.right)
    ∨ padding - epsilon ≤ other.top - rect.bottom ∨ padding - epsilon ≤ rect.top - other.bottom

theorem clears_of_padded (padding : Nat) (rect other : Rect Rat)
    (padded : (rect.expand (Coord.ofInt padding)).overlaps other = false) : Clears padding rect other := by
  refine ⟨padded, ?_⟩
  obtain ⟨left, right, top, bottom⟩ := rect.expand_edges (Coord.ofInt padding)
  have apart := (overlaps_iff _ other).not.mp (Bool.eq_false_iff.mp padded)
  rw [left, right, top, bottom, Rational.of_int_eq, Int.cast_natCast, not_and_or, not_and_or, not_and_or, not_lt, not_lt,
    not_lt, not_lt] at apart
  rcases apart with (ends | starts) | ends | starts
  · exact .inl (.inl (by linarith))
  · exact .inl (.inr (by linarith))
  · exact .inr (.inl (by linarith))
  · exact .inr (.inr (by linarith))

@[simp] theorem expand_zero (rect : Rect Rat) : rect.expand 0 = rect := by
  simp only [expand, mul_zero, sub_zero, add_zero]

end Rect

theorem padded_clears {index : SpatialIndex Rat} (searchable : index.Searchable) (rect : Rect Rat) (sized : rect.Sized)
    (padding : Nat)
    (free : index.overlapsAny (if padding = 0 then rect else rect.expand (Coord.ofInt padding)) = false) :
    ∀ entry ∈ index.entries.toList, rect.Clears padding entry.rect := by
  have nonneg : (0 : Rat) ≤ Coord.ofInt padding := Int.cast_nonneg (Int.natCast_nonneg padding)
  have tested : (if padding = 0 then rect else rect.expand (Coord.ofInt padding)) = rect.expand (Coord.ofInt padding) := by
    split
    next none =>
      rw [none, Int.natCast_zero, Rational.of_int_eq, Int.cast_zero, rect.expand_zero]
    next => rfl
  rw [tested] at free
  intro entry member
  have grown := rect.expand_sized (Coord.ofInt padding) nonneg sized.width_nonneg sized.height_nonneg
  exact Rect.clears_of_padded padding rect entry.rect (overlaps_none searchable _ grown free entry member)

namespace Placement

theorem position_whole (n : Int) :
    position (n : Rat) = Number.clampInt Number.positionMin Number.positionMax n := by
  change Number.clampInt Number.positionMin Number.positionMax ((n : Rat).num.tdiv (n : Rat).den) = _
  rw [Rat.num_intCast, Rat.den_intCast, Nat.cast_one, Int.tdiv_one]

theorem between_positions (lo hi : Int) (proper : lo ≤ hi) (low : lo ≤ Number.positionMax) (high : Number.positionMin ≤ hi)
    (rng : Rng) : let place := ((Random.between (position (lo : Rat)) (position (hi : Rat))).run rng).1
      lo ≤ place ∧ place ≤ hi := by
  have words : Number.positionMin ≤ Number.positionMax := by decide
  have bounds := Random.between_mem (position (lo : Rat)) (position (hi : Rat))
  rw [position_whole, position_whole] at bounds ⊢
  unfold Number.clampInt at bounds ⊢
  obtain ⟨least, greatest⟩ := bounds (by omega) (by omega) (by omega) rng
  intro place
  change _ ≤ place at least
  change place ≤ _ at greatest
  omega

theorem drawn_span_shared (start length size : Int) (long : 0 < length) (sized : 0 < size)
    (first : Number.positionMin ≤ start) (last : start + length ≤ Number.positionMax) (rng : Rng) :
    let place := ((Random.between (position ((start : Rat) - size + Coord.one))
      (position ((start : Rat) + length - Coord.one))).run rng).1
    1 ≤ spanOverlap (place : Rat) (place + size) start (start + length) := by
  have lower : (start : Rat) - size + Coord.one = (start - size + 1 : Int) := by
    simp
  have upper : (start : Rat) + length - Coord.one = (start + length - 1 : Int) := by
    simp
  rw [lower, upper]
  intro place
  obtain ⟨least, greatest⟩ :=
    between_positions (start - size + 1) (start + length - 1) (by omega) (by omega) (by omega) rng
  change _ ≤ place at least
  change place ≤ _ at greatest
  have shared : 1 ≤ min (place + size) (start + length) - max place start := by omega
  rw [span_overlap_eq]
  exact le_max_of_le_left (by exact_mod_cast shared)

theorem touching_candidate_shares (x y width height w h : Int) (wide : 0 < width) (high : 0 < height) (across : 0 < w)
    (down : 0 < h) (first : Number.positionMin ≤ x ∧ Number.positionMin ≤ y)
    (last : x + width ≤ Number.positionMax ∧ y + height ≤ Number.positionMax) (side : Wall) (rng : Rng) :
    let base : Rect Rat := { x, y, width, height }
    let rect := ((touchingCandidate base (w : Rat) (h : Rat) side).run rng).1
    side.opposite.line rect = side.line base ∧ 1 ≤ side.shared rect base := by
  cases side with
  | left => exact ⟨sub_add_cancel _ _, drawn_span_shared y height h high down first.2 last.2 rng⟩
  | right => exact ⟨rfl, drawn_span_shared y height h high down first.2 last.2 rng⟩
  | top => exact ⟨sub_add_cancel _ _, drawn_span_shared x width w wide across first.1 last.1 rng⟩
  | bottom => exact ⟨rfl, drawn_span_shared x width w wide across first.1 last.1 rng⟩

end Placement

structure PlacementRequest.Addressable (request : PlacementRequest Rat) : Prop where
  left : Number.positionMin ≤ request.bounds.left
  top : Number.positionMin ≤ request.bounds.top
  right : request.bounds.right ≤ Number.positionMax
  bottom : request.bounds.bottom ≤ Number.positionMax
  sizes : ∀ size ∈ request.sizes, 0 < size.1 ∧ 0 < size.2

variable {request : PlacementRequest Rat} {start : SpatialIndex Rat}

namespace PlacementRequest

theorem Addressable.size_pos (addressable : request.Addressable) (size : UInt32 × UInt32)
    (listed : size ∈ request.sizes) : (0 : Int) < size.1.toNat ∧ (0 : Int) < size.2.toNat := by
  obtain ⟨wide, high⟩ := addressable.sizes size listed
  rw [UInt32.lt_iff_toNat_lt] at wide high
  exact ⟨Int.natCast_pos.mpr wide, Int.natCast_pos.mpr high⟩

theorem Addressable.against (addressable : request.Addressable) (base : Rect Rat) (fits : request.Fits base)
    (size : UInt32 × UInt32) (listed : size ∈ request.sizes) (side : Wall) (rng : Rng) (rect : Rect Rat)
    (drawn : rect =
      ((Placement.touchingCandidate base (Coord.ofInt size.1.toNat) (Coord.ofInt size.2.toNat) side).run rng).1)
    (apart : rect.overlaps base = false) : rect.Against base := by
  obtain ⟨⟨baseSize, baseListed, width, height⟩, ⟨x, y, left, top⟩, inside⟩ := fits
  obtain ⟨left', top', width', height'⟩ := base
  obtain rfl := left
  obtain rfl := top
  obtain rfl := width
  obtain rfl := height
  obtain ⟨baseWide, baseHigh⟩ := addressable.size_pos baseSize baseListed
  obtain ⟨wide, high⟩ := addressable.size_pos size listed
  obtain ⟨⟨leftIn, rightIn⟩, topIn, bottomIn⟩ := (Rect.contains_rect_iff _ _).mp inside
  have low : ∀ n : Int, ∀ edge : Rat, Number.positionMin ≤ edge → edge - epsilon ≤ n → Number.positionMin ≤ n := by
    intro n edge bound near
    exact (Rational.whole_sub_le_iff _ n).mp (by linarith)
  have last : ∀ n size : Int, ∀ edge : Rat, edge ≤ Number.positionMax → (n : Rat) + size ≤ edge + epsilon →
      n + size ≤ Number.positionMax := by
    intro n size edge bound near
    rw [← Int.cast_add] at near
    exact (Rational.whole_le_iff _ _).mp (by linarith)
  obtain ⟨line, shared⟩ := Placement.touching_candidate_shares x y baseSize.1.toNat baseSize.2.toNat size.1.toNat
    size.2.toNat baseWide baseHigh wide high
    ⟨low x _ addressable.left leftIn, low y _ addressable.top topIn⟩
    ⟨last x _ _ addressable.right rightIn, last y _ _ addressable.bottom bottomIn⟩
    side rng
  rw [Rational.of_int_eq, Rational.of_int_eq] at drawn
  rw [← drawn] at line shared
  have faces := Wall.shared_of_faces side.opposite side side.opposite_faces rect
  refine ⟨(Rect.touches_iff rect _).mpr ⟨apart, side.opposite, ?_, ?_⟩, side.opposite, ?_, ?_⟩
  · rw [side.opposite_opposite, line]
    exact near_self _
  · rw [faces]
    exact lt_of_lt_of_le (by decide +kernel) shared
  · rw [side.opposite_opposite, line]
  · rw [faces]
    exact shared

end PlacementRequest

def Stands (request : PlacementRequest Rat) (start : SpatialIndex Rat) (touching : Nat) (rooms : Array (Room Rat)) (i : Nat)
    (room : Room Rat) : Prop :=
  if 0 < i ∧ i ≤ touching then ∃ j < i, ∃ base, rooms[j]? = some base ∧ room.rect.Against base.rect
  else (∀ entry ∈ start.entries.toList, room.rect.Clears request.padding entry.rect)
    ∧ ∀ j < i, ∀ other, rooms[j]? = some other → room.rect.Clears request.padding other.rect

theorem stands_push (touching : Nat) (rooms : Array (Room Rat)) (i : Nat) (within : i ≤ rooms.size) (room last : Room Rat)
    (stands : Stands request start touching rooms i room) : Stands request start touching (rooms.push last) i room := by
  have same : ∀ j < i, (rooms.push last)[j]? = rooms[j]? := fun j before => by
    rw [Array.getElem?_push, if_neg (by omega)]
  rw [Stands] at stands ⊢
  split at stands
  next share =>
    rw [if_pos share]
    obtain ⟨j, before, base, read, against⟩ := stands
    exact ⟨j, before, base, (same j before).trans read, against⟩
  next share =>
    rw [if_neg share]
    exact ⟨stands.1, fun j before other read => stands.2 j before other ((same j before).symm.trans read)⟩

namespace Placement

section Marks

variable {α : Type} [Coord α]

def touchingMarks (request : PlacementRequest α) : Nat → Placement α → Rng → List Bool
  | 0, _, _ => []
  | budget + 1, placement, rng =>
    if placement.rooms.size < request.roomCount then
      let answer := (step request placement).run rng
      let marks := touchingMarks request budget answer.1 answer.2
      if placement.rooms.size < answer.1.rooms.size then touchesNext placement :: marks else marks
    else []

def OnQuota (request : PlacementRequest α) (placement : Placement α) : Prop :=
  placement.touchingLeft = touchingCount request - (placement.rooms.size - 1)

theorem stepped_on_quota (request : PlacementRequest α) (before after : Placement α)
    (stepped : Stepped request before after) (quota : OnQuota request before) :
    OnQuota request after ∧ (after.rooms.size = before.rooms.size ∨ after.rooms.size = before.rooms.size + 1) := by
  rw [OnQuota] at quota ⊢
  cases stepped with
  | kept => exact ⟨quota, .inl rfl⟩
  | scattered size listed x y rect drawn alone =>
      simp only [withRoom, Array.size_push, or_true, and_true]
      rcases alone with none | empty
      · omega
      · rw [empty] at quota ⊢
        exact quota
  | touching size listed base placed side rng rect drawn wanted =>
      simp only [withRoom, Array.size_push, or_true, and_true]
      have some : 0 < before.rooms.size := Array.size_pos_of_mem placed
      omega

theorem touching_marks_eq (request : PlacementRequest α) (budget : Nat) (placement : Placement α)
    (quota : OnQuota request placement) (rng : Rng) :
    let final := ((run request budget placement).run rng).1
    ∃ more, final.rooms.size = placement.rooms.size + more
      ∧ touchingMarks request budget placement rng = (List.range' placement.rooms.size more).map fun i =>
        decide (0 < i ∧ i ≤ touchingCount request) := by
  induction budget generalizing placement rng with
  | zero => exact ⟨0, rfl, rfl⟩
  | succ budget ih =>
      rw [run, touchingMarks]
      by_cases missing : placement.rooms.size < request.roomCount
      · rw [if_pos missing, if_pos missing, draw_run_bind]
        obtain ⟨kept, grown⟩ := stepped_on_quota request _ _ (step_stepped request placement rng) quota
        obtain ⟨more, size, marks⟩ := ih _ kept ((step request placement).run rng).2
        rcases grown with same | larger
        · rw [if_neg (by omega)]
          rw [same] at size marks
          exact ⟨more, size, marks⟩
        · rw [if_pos (by omega), marks]
          refine ⟨more + 1, by omega, ?_⟩
          rw [List.range'_succ, List.map_cons, larger]
          congr 1
          rw [OnQuota] at quota
          rw [touchesNext, Array.isEmpty, Bool.eq_iff_iff]
          simp only [Bool.and_eq_true, decide_eq_true_eq, Bool.not_eq_true', decide_eq_false_iff_not]
          omega
      · rw [if_neg missing, if_neg missing]
        exact ⟨0, rfl, rfl⟩

end Marks

structure Spaced (request : PlacementRequest Rat) (start : SpatialIndex Rat) (placement : Placement Rat) : Prop where
  laid : Laid request start placement.rooms placement.index
  quota : OnQuota request placement
  stands : ∀ (i : Nat) (room : Room Rat), placement.rooms[i]? = some room →
    Stands request start (touchingCount request) placement.rooms i room

theorem stands_all_push (placement : Placement Rat) (spaced : Spaced request start placement) (rect : Rect Rat) (left : Nat)
    (last : Stands request start (touchingCount request) placement.rooms placement.rooms.size
      (.new ⟨placement.rooms.size⟩ rect)) :
    ∀ (i : Nat) (room : Room Rat), (placement.withRoom rect left).rooms[i]? = some room →
      Stands request start (touchingCount request) (placement.withRoom rect left).rooms i room := by
  intro i room read
  rw [withRoom, Array.getElem?_push] at read
  split at read
  next here =>
    cases read
    exact stands_push _ _ _ (Nat.le_of_eq here) _ _ (here ▸ last)
  next =>
    have before : i < placement.rooms.size := (Array.getElem?_eq_some_iff.mp read).1
    exact stands_push _ _ _ (Nat.le_of_lt before) _ _ (spaced.stands i room read)

theorem stepped_spaced (positive : Coord.zero < start.cellSize) (sized : ∀ entry ∈ start.entries.toList, entry.rect.Sized)
    (addressable : request.Addressable) (before after : Placement Rat) (stepped : Stepped request before after)
    (spaced : Spaced request start before) : Spaced request start after := by
  have laid := stepped_laid positive sized before after stepped spaced.laid
  have quota := (stepped_on_quota request before after stepped spaced.quota).1
  refine ⟨laid, quota, ?_⟩
  have searchable := spaced.laid.searchable positive sized
  have count := spaced.quota
  rw [OnQuota] at count
  have entries := spaced.laid.placed.entries
  have newSized : ∀ rect left, after = before.withRoom rect left → rect.Sized := by
    rintro rect left rfl
    exact (laid.fits (.new ⟨before.rooms.size⟩ rect) (Array.mem_push_self)).sized
  have reserved : ∀ (j : Nat) (other : Room Rat), before.rooms[j]? = some other →
      other.reservation ∈ before.index.entries.toList := by
    intro j other read
    rw [entries]
    exact List.mem_append_right _ (List.mem_map_of_mem (Array.mem_toList_iff.mpr (Array.mem_of_getElem? read)))
  cases stepped with
  | kept => exact spaced.stands
  | scattered size listed x y rect drawn alone inside free =>
      have free_share : ¬ (0 < before.rooms.size ∧ before.rooms.size ≤ touchingCount request) := by
        rcases alone with none | empty
        · omega
        · rw [empty]
          simp
      have padded := padded_clears searchable rect (newSized rect _ rfl) request.padding free
      apply stands_all_push before spaced rect _
      rw [Stands, if_neg free_share]
      refine ⟨fun entry member => padded entry ?_, fun j _ other read => padded _ (reserved j other read)⟩
      rw [entries]
      exact List.mem_append_left _ member
  | touching size listed base placed side rng rect drawn wanted inside free =>
      obtain ⟨j, read⟩ := Array.getElem?_of_mem placed
      have earlier : j < before.rooms.size := (Array.getElem?_eq_some_iff.mp read).1
      have share : 0 < before.rooms.size ∧ before.rooms.size ≤ touchingCount request := by omega
      have apart : rect.overlaps base.rect = false :=
        overlaps_none searchable rect (newSized rect _ rfl) free base.reservation (reserved j base read)
      apply stands_all_push before spaced rect _
      rw [Stands, if_pos share]
      exact ⟨j, earlier, base, read, addressable.against base.rect (spaced.laid.fits base placed) size listed side rng rect
        drawn apart⟩

theorem run_spaced (faithful : start.Faithful) (positive : Coord.zero < start.cellSize)
    (sized : ∀ entry ∈ start.entries.toList, entry.rect.Sized) (addressable : request.Addressable) (rng : Rng) :
    Spaced request start ((run request request.maxAttempts
      { rooms := #[], touchingLeft := touchingCount request, index := start }).run rng).1 := by
  apply run_keeps request (Spaced request start)
  · exact fun before after _ stepped spaced => stepped_spaced positive sized addressable before after stepped spaced
  · exact { laid := .empty faithful, quota := rfl, stands := by simp }

-- The rooms that touch are counted by a word, which holds all but the first of the rooms.
theorem touching_count_iff (request : PlacementRequest Rat) (counted : request.roomCount ≤ Number.countMax) (i : Nat)
    (within : i < request.roomCount) : i ≤ touchingCount request ↔
      i ≤ min ⌊(request.roomCount : Rat) * request.touchingFraction⌋.toNat (request.roomCount - 1) := by
  have word : touchingCount request =
      (Number.clampInt 0 Number.countMax ⌊(request.roomCount : Rat) * request.touchingFraction⌋).toNat := by
    rw [Rat.floor_def']
    rfl
  rw [word, Number.clampInt]
  omega

end Placement

theorem placement_spacing (request : PlacementRequest Rat) (start : SpatialIndex Rat) (reached : start.Reached)
    (positive : 0 < start.cellSize)
    (nonneg : ∀ entry ∈ start.entries.toList, 0 ≤ entry.rect.width ∧ 0 ≤ entry.rect.height)
    (addressable : request.Addressable) (counted : request.roomCount ≤ Number.countMax) (rng rest : Rng)
    (rooms : Array (Room Rat)) (index : SpatialIndex Rat)
    (finished : (placeRooms request start).run rng = ((.ok rooms, index), rest)) :
    let touching := min ⌊(request.roomCount : Rat) * request.touchingFraction⌋.toNat (request.roomCount - 1)
    let first : Placement Rat := { rooms := #[], touchingLeft := Placement.touchingCount request, index := start }
    rooms.size = request.roomCount ∧ Numbered rooms
      ∧ Placement.touchingMarks request request.maxAttempts first rng
        = (List.range request.roomCount).map (fun i => decide (0 < i ∧ i ≤ touching))
      ∧ (∀ (i : Nat) (room : Room Rat), rooms[i]? = some room → 0 < i → i ≤ touching →
          ∃ j < i, ∃ base, rooms[j]? = some base ∧ room.rect.Against base.rect)
      ∧ ∀ (i : Nat) (room : Room Rat), rooms[i]? = some room → i = 0 ∨ touching < i →
          (∀ entry ∈ start.entries.toList, room.rect.Clears request.padding entry.rect)
            ∧ ∀ j < i, ∀ other, rooms[j]? = some other → room.rect.Clears request.padding other.rect := by
  intro touching first
  have faithful := (SpatialIndex.reached_iff_faithful start).mp reached
  have sized : ∀ entry ∈ start.entries.toList, entry.rect.Sized := fun entry member =>
    Rect.sized_of_nonneg _ (nonneg entry member).1 (nonneg entry member).2
  have share := Placement.touching_count_iff request counted
  have spaced := Placement.run_spaced faithful positive sized addressable rng
  have marks := Placement.touching_marks_eq request request.maxAttempts first rfl rng
  have few := (Placement.run_laid request faithful positive sized rng).2
  change Placement.Spaced request start ((Placement.run request request.maxAttempts first).run rng).1 at spaced
  change ((Placement.run request request.maxAttempts first).run rng).1.rooms.size ≤ request.roomCount at few
  obtain ⟨same, enough⟩ := place_rooms_ok_run request start rng rest rooms index finished
  change ((Placement.run request request.maxAttempts first).run rng).1.rooms = rooms at same
  change request.roomCount ≤ ((Placement.run request request.maxAttempts first).run rng).1.rooms.size at enough
  generalize ((Placement.run request request.maxAttempts first).run rng).1 = final at spaced marks few same enough
  obtain rfl := same
  have size : final.rooms.size = request.roomCount := Nat.le_antisymm few enough
  refine ⟨size, spaced.laid.placed.numbered, ?_, ?_, ?_⟩
  · obtain ⟨more, grown, marked⟩ := marks
    obtain rfl : request.roomCount = more := by
      rw [← size, grown]
      exact Nat.zero_add more
    rw [marked]
    change List.map _ (List.range' 0 request.roomCount) = _
    rw [← List.range_eq_range']
    apply List.map_congr_left
    intro i listed
    exact decide_eq_decide.mpr (and_congr_right fun _ => share i (List.mem_range.mp listed))
  · intro i room read after within
    have known : i < request.roomCount := size ▸ (Array.getElem?_eq_some_iff.mp read).1
    have stands := spaced.stands i room read
    rwa [Stands, if_pos ⟨after, (share i known).mpr within⟩] at stands
  · intro i room read outside
    have known : i < request.roomCount := size ▸ (Array.getElem?_eq_some_iff.mp read).1
    have stands := spaced.stands i room read
    have alone : ¬ (0 < i ∧ i ≤ Placement.touchingCount request) := by
      rw [share i known]
      omega
    rwa [Stands, if_neg alone] at stands

def row : PlacementRequest Rat :=
  { bounds := ⟨0, 0, 12, 1⟩, roomCount := 3, sizes := #[(1, 1)], padding := 1, touchingFraction := 1 / 2
    maxAttempts := 3 }

def rowRects (k : Nat) : Rect Rat := ⟨#[6, 7, 3].getD k 0, 0, 1, 1⟩

def rowFilled : Nat → Placement Rat
  | 0 => { rooms := #[], touchingLeft := 1, index := .new 4 }
  | k + 1 => (rowFilled k).withRoom (rowRects k) (if k = 0 then 1 else 0)

def rowStream : Nat → Rng
  | 0 => .ofSeed 6
  | k + 1 => ((Placement.drawnNext row (rowFilled k)).run (rowStream k)).2

theorem row_sized (k : Nat) : (rowRects k).Sized := Rect.sized_of_nonneg _ zero_le_one zero_le_one

theorem row_searchable (k : Nat) : (rowFilled k).index.Searchable := by
  induction k with
  | zero => exact ⟨SpatialIndex.new_faithful _, by decide +kernel, nofun⟩
  | succ k ih => exact (rowFilled k).index.reserve_searchable ih _ (row_sized k) _

theorem row_accepted (k : Nat) (fits : k < 3) :
    Placement.accept row (Placement.touchesNext (rowFilled k)) (rowRects k) (rowFilled k) = rowFilled (k + 1) := by
  have inside : ∀ k < 3, row.bounds.containsRect (rowRects k) = true := by decide +kernel
  have sized : (if Placement.touchesNext (rowFilled k) || row.padding == 0 then rowRects k
      else (rowRects k).expand (Coord.ofInt row.padding)).Sized := by
    split
    · exact row_sized k
    · exact (rowRects k).expand_sized _ zero_le_one zero_le_one zero_le_one
  have free : (rowFilled k).index.overlapsAny
      (if Placement.touchesNext (rowFilled k) || row.padding == 0 then rowRects k
        else (rowRects k).expand (Coord.ofInt row.padding)) = false := by
    rw [SpatialIndex.overlapsAny, SpatialIndex.overlaps_where_eq _ (row_searchable k) _ sized]
    clear sized
    revert k
    decide +kernel
  have left : ∀ k < 3, (if Placement.touchesNext (rowFilled k) then (rowFilled k).touchingLeft - 1
      else (rowFilled k).touchingLeft) = if k = 0 then 1 else 0 := by
    decide +kernel
  rw [Placement.accept, inside k fits]
  simp only [free, left k fits, Bool.not_true, Bool.or_self, Bool.false_eq_true, if_false]
  rfl

theorem row_step (k : Nat) (fits : k < 3) :
    (Placement.step row (rowFilled k)).run (rowStream k) = (rowFilled (k + 1), rowStream (k + 1)) := by
  have drawn : ∀ k < 3, ((Placement.drawnNext row (rowFilled k)).run (rowStream k)).1 = some (rowRects k) := by
    decide +kernel
  rw [Placement.step_drawn]
  simp only [drawn k fits, Option.elim_some, row_accepted k fits, rowStream]

theorem row_filled_size (k : Nat) : (rowFilled k).rooms.size = k := by
  induction k with
  | zero => rfl
  | succ k ih => rw [rowFilled, Placement.withRoom, Array.size_push, ih]

theorem row_placed : (placeRooms row (.new 4)).run (.ofSeed 6) =
    ((.ok (rowFilled 3).rooms, (rowFilled 3).index), rowStream 3) := by
  have one : Placement.touchingCount row = 1 := by decide +kernel
  have sizes : row.sizes.isEmpty = false := rfl
  have run := Placement.run_steps row rowFilled rowStream 3 (fun k fits => by rwa [row_filled_size]) row_step 3 0
    (Nat.le_refl _)
  simp only [placeRooms, sizes, one, Bool.false_and, Bool.false_eq_true, if_false, draw_run_bind]
  change (Placement.run row row.maxAttempts { rooms := #[], touchingLeft := 1, index := .new 4 }).run (.ofSeed 6) = _ at run
  rw [run]
  rfl

theorem row_spaced :
    let first : Placement Rat := { rooms := #[], touchingLeft := Placement.touchingCount row, index := .new 4 }
    Placement.touchingMarks row 3 first (.ofSeed 6) = [false, true, false]
      ∧ ((placeRooms row (.new 4)).run (.ofSeed 6)).1.1.toOption.map (·.toList.map (·.rect)) = some [⟨6, 0, 1, 1⟩, ⟨7, 0, 1, 1⟩, ⟨3, 0, 1, 1⟩]
      ∧ Rect.Against ⟨7, 0, 1, 1⟩ ⟨6, 0, 1, 1⟩
      ∧ Rect.Clears 1 ⟨3, 0, 1, 1⟩ ⟨6, 0, 1, 1⟩ ∧ Rect.Clears 1 ⟨3, 0, 1, 1⟩ ⟨7, 0, 1, 1⟩ := by
  have reached : (SpatialIndex.new 4 : SpatialIndex Rat).Reached :=
    (SpatialIndex.reached_iff_faithful _).mpr (SpatialIndex.new_faithful 4)
  have sizes : ∀ size ∈ row.sizes, 0 < size.1 ∧ 0 < size.2 := by
    intro size listed
    obtain rfl : size = (1, 1) := by simpa [row] using listed
    decide
  have addressable : row.Addressable :=
    ⟨by decide +kernel, by decide +kernel, by decide +kernel, by decide +kernel, sizes⟩
  obtain ⟨-, -, marks, touching, scattered⟩ := placement_spacing row (.new 4) reached (by decide +kernel) nofun addressable
    (by decide) (.ofSeed 6) (rowStream 3) _ _ row_placed
  have share : min ⌊(row.roomCount : Rat) * row.touchingFraction⌋.toNat (row.roomCount - 1) = 1 := by decide +kernel
  rw [share] at marks touching scattered
  obtain ⟨j, before, base, read, against⟩ := touching 1 _ rfl (by decide) (Nat.le_refl 1)
  obtain rfl : j = 0 := by omega
  obtain rfl := Option.some.inj read
  obtain ⟨-, clear⟩ := scattered 2 _ rfl (.inr (by decide))
  refine ⟨marks, ?_, against, clear 0 (by decide) _ rfl, clear 1 (by decide) _ rfl⟩
  rw [row_placed]
  rfl

end Floorplan

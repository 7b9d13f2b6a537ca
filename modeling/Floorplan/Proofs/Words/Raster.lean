import Floorplan.Proofs.Grid.Cells
import Floorplan.Words.Raster

set_option autoImplicit false

namespace Floorplan.Words

section Sound

variable {β γ δ : Type}

def Sound (checked : Option β) (value : β) : Prop := ∀ answer, checked = some answer → answer = value

theorem Sound.pure (value : β) : Sound (some value) value := fun _ same => (Option.some.inj same).symm

theorem Sound.none (value : β) : Sound Option.none value := nofun

theorem Sound.bind {checked : Option β} {value : β} {next : β → Option γ} {result : γ} (sound : Sound checked value)
    (after : Sound (next value) result) : Sound (checked.bind next) result := by
  intro answer run
  obtain ⟨first, found, run⟩ := Option.bind_eq_some_iff.mp run
  obtain rfl := sound first found
  exact after answer run

theorem Sound.map {checked : Option β} {value : β} (sound : Sound checked value) (f : β → γ) :
    Sound (checked.map f) (f value) := by
  intro answer run
  obtain ⟨first, found, rfl⟩ := Option.map_eq_some_iff.mp run
  exact congrArg f (sound first found)

theorem Sound.foldl {step? : β → γ → Option β} {step : β → γ → β}
    (each : ∀ state item, Sound (step? state item) (step state item)) (items : List γ) (start : β) :
    Sound (items.foldlM step? start) (items.foldl step start) := by
  induction items generalizing start with
  | nil => exact .pure start
  | cons item rest ih =>
      rw [List.foldlM_cons]
      exact (each start item).bind (ih (step start item))

theorem Sound.mapList {f? : β → Option γ} {f : β → γ} (items : List β) (each : ∀ item, Sound (f? item) (f item)) :
    Sound (items.mapM f?) (items.map f) := by
  induction items with
  | nil => exact .pure []
  | cons item rest ih =>
      rw [List.mapM_cons]
      exact (each item).bind (ih.bind (.pure _))

theorem fold_answers {step? : β → γ → Option β} {step : β → γ → β} (keeps : β → Prop) (items : List γ)
    (each : ∀ state, ∀ item ∈ items, keeps state → step? state item = some (step state item) ∧ keeps (step state item))
    (start : β) (kept : keeps start) :
    items.foldlM step? start = some (items.foldl step start) ∧ keeps (items.foldl step start) := by
  induction items generalizing start with
  | nil => exact ⟨rfl, kept⟩
  | cons item rest ih =>
      obtain ⟨answered, kept⟩ := each start item List.mem_cons_self kept
      rw [List.foldlM_cons, answered]
      exact ih (fun state other inside => each state other (List.mem_cons_of_mem item inside)) _ kept

theorem map_answers {f? : β → Option γ} {f : β → γ} (items : List β) (each : ∀ item ∈ items, f? item = some (f item)) :
    items.mapM f? = some (items.map f) := by
  induction items with
  | nil => rfl
  | cons item rest ih =>
      obtain ⟨here, others⟩ := List.forall_mem_cons.mp each
      rw [List.mapM_cons, here, ih others]
      rfl

theorem fold_some (step? : β → γ → Option β) (items : List γ) (start final : β)
    (run : items.foldlM step? start = some final) : ∀ item ∈ items, ∃ state later, step? state item = some later := by
  induction items generalizing start with
  | nil => exact fun _ inside => absurd inside List.not_mem_nil
  | cons item rest ih =>
      rw [List.foldlM_cons] at run
      obtain ⟨later, first, run⟩ := Option.bind_eq_some_iff.mp run
      exact List.forall_mem_cons.mpr ⟨⟨start, later, first⟩, ih later run⟩

theorem Sound.eq_some {checked : Option β} {value : β} (sound : Sound checked value) (answers : checked.isSome = true) :
    checked = some value := by
  obtain ⟨answer, found⟩ := Option.isSome_iff_exists.mp answers
  rw [found, sound answer found]

end Sound

theorem word_sound (n : Int) : Sound (word? n) n := by
  rw [word?]
  split
  · exact .pure n
  · exact .none n

theorem word_eq (n : Int) (low : Number.cellMin ≤ n) (high : n ≤ Number.cellMax) : word? n = some n :=
  if_pos ⟨low, high⟩

theorem word_some (n m : Int) (found : word? n = some m) : m = n ∧ Number.cellMin ≤ n ∧ n ≤ Number.cellMax := by
  rw [word?] at found
  split at found
  next within => exact ⟨(Option.some.inj found).symm, within⟩
  · cases found

section Sound

variable (raster : Raster) (state : CellState)

theorem grow_sound (s : CellSpan) (n : Int) : Sound (grow? s n) (s.grow n) :=
  (word_sound _).bind ((word_sound _).bind ((word_sound _).bind ((word_sound _).bind (.pure _))))

theorem place_sound (cell : Cell) : Sound (place? raster cell) (raster.place? cell) := by
  refine (word_sound _).bind ((word_sound _).bind ?_)
  rw [Raster.place?]
  split
  · exact .pure none
  next inside =>
    simp only [not_or, Int.not_lt] at inside
    obtain ⟨left, top, _, _⟩ := inside
    refine (word_sound _).bind ((word_sound _).bind ?_)
    rw [Int.toNat_add (Int.mul_nonneg top (Int.natCast_nonneg _)) left, Int.toNat_mul top (Int.natCast_nonneg _)]
    exact .pure _

theorem cell_at_sound (i : Nat) : Sound (cellAt? raster i) (raster.cellAt i) := by
  rw [cellAt?]
  split
  · exact .none _
  · exact (word_sound _).bind ((word_sound _).bind ((word_sound _).bind (.pure _)))

theorem state_sound (cell : Cell) : Sound (state? raster cell) (raster.state? cell) := by
  refine (place_sound raster cell).bind ?_
  rw [Raster.state?]
  cases raster.place? cell with
  | none => exact .pure none
  | some i =>
      intro answer found
      obtain ⟨state, read, rfl⟩ := Option.map_eq_some_iff.mp found
      exact read.symm

theorem set_sound (cell : Cell) : Sound (set? raster cell state) (raster.set cell state) := by
  refine (place_sound raster cell).bind ?_
  cases placed : raster.place? cell with
  | none =>
      rw [Raster.set, placed]
      exact .pure raster
  | some i =>
      change Sound (if i < raster.cells.size then _ else _) _
      split
      · exact .pure _
      · exact .none _

theorem set_all_sound (cells : List Cell) : Sound (setAll? raster cells state) (raster.setAll cells state) :=
  .foldl (fun raster cell => set_sound raster state cell) cells raster

theorem fill_sound (s : CellSpan) : Sound (fill? raster s state) (raster.fill s state) :=
  .foldl (fun raster _ => .foldl (fun raster _ => set_sound raster state _) _ raster) _ raster

variable {α : Type} [Coord α]

theorem blank_sound (bounds : Rect α) :
    let s := CellSpan.ofRect bounds
    Sound (blank? bounds) (.blank { x := s.x0, y := s.y0 } (s.x1 - s.x0).toNat (s.y1 - s.y0).toNat) :=
  (word_sound _).bind ((word_sound _).bind ((word_sound _).bind (.pure _)))

theorem of_rooms_sound (bounds : Rect α) (rooms : Array (Room α)) :
    Sound (ofRooms? bounds rooms) (Raster.ofRooms bounds rooms) := by
  simp only [ofRooms?, Raster.ofRooms, ← Array.foldlM_toList, ← Array.foldl_toList]
  refine (blank_sound bounds).bind ((Sound.foldl ?_ _ _).bind (.foldl ?_ _ _))
  · exact fun raster room => (grow_sound _ _).bind (fill_sound raster _ _)
  · exact fun raster room => fill_sound raster _ _

end Sound

structure Fits (raster : Raster) : Prop where
  origin : raster.origin = { x := 0, y := 0 }
  width : (raster.width : Int) ≤ Number.cellMax
  height : (raster.height : Int) ≤ Number.cellMax
  cells : (raster.cells.size : Int) ≤ Number.cellMax

def InWords (cell : Cell) : Prop :=
  (Number.cellMin ≤ cell.x ∧ cell.x ≤ Number.cellMax) ∧ Number.cellMin ≤ cell.y ∧ cell.y ≤ Number.cellMax

-- A map anywhere that a word counts the cells of, and where the cells beside its own are in words.
structure Framed (raster : Raster) : Prop where
  left : Number.cellMin < raster.origin.x
  top : Number.cellMin < raster.origin.y
  right : raster.origin.x + raster.width ≤ Number.cellMax
  bottom : raster.origin.y + raster.height ≤ Number.cellMax
  width : (raster.width : Int) ≤ Number.cellMax
  height : (raster.height : Int) ≤ Number.cellMax
  cells : (raster.cells.size : Int) ≤ Number.cellMax

def InReach (raster : Raster) (cell : Cell) : Prop :=
  InWords { x := cell.x - raster.origin.x, y := cell.y - raster.origin.y }

theorem Fits.framed {raster : Raster} (fits : Fits raster) : Framed raster := by
  have width := fits.width
  have height := fits.height
  refine ⟨?_, ?_, ?_, ?_, width, height, fits.cells⟩ <;> simp only [fits.origin, Int.zero_add] <;>
    first | decide | assumption

theorem Fits.in_reach {raster : Raster} (fits : Fits raster) (cell : Cell) (words : InWords cell) :
    InReach raster cell := by
  simpa only [InReach, fits.origin, Int.sub_zero] using words

theorem sides_of_span {raster other : Raster} (same : other.span = raster.span) :
    other.origin = raster.origin ∧ other.width = raster.width ∧ other.height = raster.height := by
  obtain ⟨left, top, right, bottom⟩ := CellSpan.mk.inj same
  obtain ⟨⟨x, y⟩, width, height, _, _⟩ := other
  obtain ⟨⟨x', y'⟩, width', height', _, _⟩ := raster
  simp only [Cell.mk.injEq] at left top right bottom ⊢
  omega

theorem size_of_span {raster other : Raster} (same : other.span = raster.span) :
    other.cells.size = raster.cells.size := by
  obtain ⟨_, width, height⟩ := sides_of_span same
  rw [raster.size_cells, other.size_cells, width, height]

theorem Framed.of_span {raster other : Raster} (framed : Framed raster) (same : other.span = raster.span) :
    Framed other := by
  obtain ⟨origin, width, height⟩ := sides_of_span same
  obtain ⟨left, top, right, bottom, wide, high, cells⟩ := framed
  refine ⟨?_, ?_, ?_, ?_, ?_, ?_, ?_⟩
  · rwa [origin]
  · rwa [origin]
  · rwa [origin, width]
  · rwa [origin, height]
  · rwa [width]
  · rwa [height]
  · rwa [size_of_span same]

theorem Fits.of_span {raster other : Raster} (fits : Fits raster) (same : other.span = raster.span) : Fits other := by
  obtain ⟨origin, width, height⟩ := sides_of_span same
  exact ⟨origin.trans fits.origin, width ▸ fits.width, height ▸ fits.height, size_of_span same ▸ fits.cells⟩

theorem InReach.of_span {raster other : Raster} {cell : Cell} (reach : InReach raster cell)
    (same : other.span = raster.span) : InReach other cell := by
  rwa [InReach, (sides_of_span same).1]

section Answers

variable {raster : Raster}

section Counted

variable (counted : (raster.cells.size : Int) ≤ Number.cellMax)

include counted

theorem place_answers (cell : Cell) (reach : InReach raster cell) : place? raster cell = some (raster.place? cell) := by
  obtain ⟨⟨left, right⟩, top, bottom⟩ := reach
  apply (place_sound raster cell).eq_some
  rw [place?, word_eq _ left right, word_eq _ top bottom]
  change Option.isSome (if _ then _ else _) = true
  split
  · rfl
  next inside =>
    simp only [not_or, Int.not_lt, Int.not_le] at inside
    obtain ⟨column, row, _, _⟩ := inside
    have held : raster.span.Holds cell := by
      simp only [CellSpan.Holds, Raster.span]
      omega
    have inRange := raster.place_lt cell _ (raster.place_eq cell held)
    generalize cell.x - raster.origin.x = x at column inRange ⊢
    generalize cell.y - raster.origin.y = y at row inRange ⊢
    have place : ((y.toNat * raster.width + x.toNat : Nat) : Int) = y * raster.width + x := by
      rw [Int.natCast_add, Int.natCast_mul, Int.toNat_of_nonneg row, Int.toNat_of_nonneg column]
    have positive := Int.mul_nonneg row (Int.natCast_nonneg raster.width)
    have least : Number.cellMin ≤ 0 := by decide
    rw [word_eq (y * raster.width) (by omega) (by omega)]
    change Option.isSome ((word? (y * raster.width + x)).bind _) = true
    rw [word_eq _ (by omega) (by omega)]
    rfl

theorem state_answers (cell : Cell) (reach : InReach raster cell) : state? raster cell = some (raster.state? cell) := by
  apply (state_sound raster cell).eq_some
  rw [state?, place_answers counted cell reach]
  cases placed : raster.place? cell with
  | none => rfl
  | some i =>
      change Option.isSome (raster.cells[i]?.map some) = true
      rw [Array.getElem?_eq_getElem (raster.place_lt cell i placed)]
      rfl

theorem set_answers (cell : Cell) (state : CellState) (reach : InReach raster cell) :
    set? raster cell state = some (raster.set cell state) := by
  apply (set_sound raster state cell).eq_some
  rw [set?, place_answers counted cell reach]
  cases placed : raster.place? cell with
  | none => rfl
  | some i =>
      change Option.isSome (if i < raster.cells.size then _ else _) = true
      rw [if_pos (raster.place_lt cell i placed)]
      rfl

theorem set_again {map : Raster} (same : map.span = raster.span) (cell : Cell) (state : CellState)
    (reach : InReach raster cell) :
    set? map cell state = some (map.set cell state) ∧ (map.set cell state).span = raster.span :=
  ⟨set_answers (size_of_span same ▸ counted) cell state (reach.of_span same), (map.set_span cell state).trans same⟩

theorem set_all_answers (cells : List Cell) (state : CellState) (reach : ∀ cell ∈ cells, InReach raster cell) :
    setAll? raster cells state = some (raster.setAll cells state) :=
  (fold_answers (fun map : Raster => map.span = raster.span) cells
    (fun _ cell inside same => set_again counted same cell state (reach cell inside)) raster rfl).1

theorem fill_again {map : Raster} (same : map.span = raster.span) (s : CellSpan) (state : CellState)
    (reach : ∀ cell, s.Holds cell → InReach raster cell) :
    fill? map s state = some (map.fill s state) ∧ (map.fill s state).span = raster.span := by
  refine fold_answers (fun map : Raster => map.span = raster.span) _ (fun map y row same => ?_) map same
  refine fold_answers (fun map : Raster => map.span = raster.span) _ (fun map x column same => ?_) map same
  rw [up_to_mem] at row column
  exact set_again counted same _ state (reach _ ⟨column, row⟩)

end Counted

theorem cell_at_answers (framed : Framed raster) (i : Nat) (inRange : i < raster.cells.size) :
    cellAt? raster i = some (raster.cellAt i) := by
  apply (cell_at_sound raster i).eq_some
  obtain ⟨left, top, right, bottom, _, _, size⟩ := framed
  have held := raster.held_of_place _ i (raster.place_cell_at i inRange)
  simp only [CellSpan.Holds, Raster.span, Raster.cellAt, Int.natCast_emod, Int.natCast_ediv] at held
  have least : Number.cellMin ≤ 0 := by decide
  rw [cellAt?, if_neg (by omega), word_eq i (by omega) (by omega)]
  change Option.isSome ((word? (raster.origin.x + (i : Int) % raster.width)).bind fun _ =>
    (word? (raster.origin.y + (i : Int) / raster.width)).bind _) = true
  rw [word_eq (raster.origin.x + (i : Int) % raster.width) (by omega) (by omega),
    word_eq (raster.origin.y + (i : Int) / raster.width) (by omega) (by omega)]
  rfl

end Answers

section Build

variable {α : Type} [Coord α]

theorem grow_answers (s : CellSpan) (n : Int) (nonneg : 0 ≤ n) (wide : s.x0 ≤ s.x1) (high : s.y0 ≤ s.y1)
    (words : (s.grow n).InWords) : grow? s n = some (s.grow n) := by
  obtain ⟨left, top, right, bottom⟩ := words
  simp only [CellSpan.grow, CellSpan.words] at left top right bottom
  rw [grow?, word_eq _ left (by omega), word_eq _ top (by omega), word_eq _ (by omega) right,
    word_eq _ (by omega) bottom]
  rfl

theorem grow_some (s ring : CellSpan) (n : Int) (found : grow? s n = some ring) : (s.grow n).InWords := by
  obtain ⟨x0, first, found⟩ := Option.bind_eq_some_iff.mp found
  obtain ⟨y0, second, found⟩ := Option.bind_eq_some_iff.mp found
  obtain ⟨x1, third, found⟩ := Option.bind_eq_some_iff.mp found
  obtain ⟨y1, fourth, _⟩ := Option.bind_eq_some_iff.mp found
  exact ⟨(word_some _ _ first).2.1, (word_some _ _ second).2.1, (word_some _ _ third).2.2,
    (word_some _ _ fourth).2.2⟩

structure Ringed (r : Rect α) : Prop where
  wide : (CellSpan.ofRect r).x0 ≤ (CellSpan.ofRect r).x1
  high : (CellSpan.ofRect r).y0 ≤ (CellSpan.ofRect r).y1
  words : ((CellSpan.ofRect r).grow Raster.ring).InWords

structure Near (raster : Raster) (r : Rect α) : Prop extends Ringed r where
  reach : ∀ cell, ((CellSpan.ofRect r).grow Raster.ring).Holds cell → InReach raster cell

theorem Near.of_span {raster other : Raster} {r : Rect α} (near : Near raster r) (same : other.span = raster.span) :
    Near other r :=
  ⟨near.toRinged, fun cell held => (near.reach cell held).of_span same⟩

-- The corners of the ring are the farthest from the corner of the map.
theorem Ringed.near_of_corners {r : Rect α} (ringed : Ringed r) {raster : Raster} (corners : CellSpan.InWords
    { x0 := ((CellSpan.ofRect r).grow Raster.ring).x0 - raster.origin.x
      y0 := ((CellSpan.ofRect r).grow Raster.ring).y0 - raster.origin.y
      x1 := ((CellSpan.ofRect r).grow Raster.ring).x1 - raster.origin.x
      y1 := ((CellSpan.ofRect r).grow Raster.ring).y1 - raster.origin.y }) : Near raster r := by
  refine ⟨ringed, fun cell held => ?_⟩
  obtain ⟨left, top, right, bottom⟩ := corners
  obtain ⟨⟨west, east⟩, north, south⟩ := held
  simp only [CellSpan.words] at left top right bottom
  simp only [InReach, InWords]
  omega

theorem Ringed.near {r : Rect α} (ringed : Ringed r) {raster : Raster} (fits : Fits raster) : Near raster r := by
  refine ringed.near_of_corners ?_
  simpa only [fits.origin, Int.sub_zero] using ringed.words

theorem held_in_ring (s : CellSpan) (cell : Cell) (held : s.Holds cell) : (s.grow Raster.ring).Holds cell := by
  simp only [CellSpan.Holds, CellSpan.grow, Raster.ring] at held ⊢
  omega

-- The sides and the area of a map over these bounds are in words.
structure Measured (bounds : Rect α) : Prop where
  sides :
    let s := CellSpan.ofRect bounds
    InWords { x := s.x1 - s.x0, y := s.y1 - s.y0 }
  area :
    let s := CellSpan.ofRect bounds
    max (s.x1 - s.x0) 0 * max (s.y1 - s.y0) 0 ≤ Number.cellMax

theorem of_rooms_span_eq (bounds : Rect α) (rooms : Array (Room α)) :
    let s := CellSpan.ofRect bounds
    (Raster.ofRooms bounds rooms).span = (Raster.blank ⟨s.x0, s.y0⟩ (s.x1 - s.x0).toNat (s.y1 - s.y0).toNat).span := by
  have painted := congrArg Raster.span (Raster.of_rooms_eq bounds rooms)
  rwa [Raster.set_all_span, Raster.set_all_span] at painted

theorem of_rooms_sized (bounds : Rect α) (rooms : Array (Room α)) :
    let s := CellSpan.ofRect bounds
    let raster := Raster.ofRooms bounds rooms
    raster.origin = { x := s.x0, y := s.y0 } ∧ raster.width = (s.x1 - s.x0).toNat
      ∧ raster.height = (s.y1 - s.y0).toNat :=
  sides_of_span (of_rooms_span_eq bounds rooms)

theorem Measured.counted {bounds : Rect α} (measured : Measured bounds) (rooms : Array (Room α)) :
    ((Raster.ofRooms bounds rooms).cells.size : Int) ≤ Number.cellMax := by
  obtain ⟨_, width, height⟩ := of_rooms_sized bounds rooms
  have area := measured.area
  rwa [Raster.size_cells, width, height, Int.natCast_mul, Int.toNat_eq_max, Int.toNat_eq_max]

theorem blank_answers {bounds : Rect α} (measured : Measured bounds) :
    let s := CellSpan.ofRect bounds
    blank? bounds = some (.blank ⟨s.x0, s.y0⟩ (s.x1 - s.x0).toNat (s.y1 - s.y0).toNat) := by
  intro s
  obtain ⟨⟨⟨narrow, wide⟩, low, high⟩, area⟩ := measured
  have nonneg := Int.mul_nonneg (Int.le_max_right (s.x1 - s.x0) 0) (Int.le_max_right (s.y1 - s.y0) 0)
  rw [blank?]
  change (word? (s.x1 - s.x0)).bind _ = _
  rw [word_eq _ narrow wide]
  change (word? (s.y1 - s.y0)).bind _ = _
  rw [word_eq _ low high]
  change (word? (max (s.x1 - s.x0) 0 * max (s.y1 - s.y0) 0)).bind _ = _
  rw [word_eq _ (Int.le_trans (by decide) nonneg) area]
  rfl

section Rooms

variable {raster : Raster} (counted : (raster.cells.size : Int) ≤ Number.cellMax) {map : Raster}
  (same : map.span = raster.span) (r : Rect α) (near : Near raster r)

include counted same near

theorem ring_answers :
    ((grow? (CellSpan.ofRect r) Raster.ring).bind fun ring => fill? map ring .buffer)
        = some (map.fill ((CellSpan.ofRect r).grow Raster.ring) .buffer)
      ∧ (map.fill ((CellSpan.ofRect r).grow Raster.ring) .buffer).span = raster.span := by
  rw [grow_answers _ _ (by decide) near.wide near.high near.words]
  exact fill_again counted same _ .buffer near.reach

theorem room_answers :
    fill? map (CellSpan.ofRect r) .room = some (map.fill (CellSpan.ofRect r) .room)
      ∧ (map.fill (CellSpan.ofRect r) .room).span = raster.span :=
  fill_again counted same _ .room fun cell held => near.reach cell (held_in_ring _ cell held)

end Rooms

theorem of_rooms_answers {bounds : Rect α} (measured : Measured bounds) (rooms : Array (Room α))
    (near : ∀ room ∈ rooms, Near (Raster.ofRooms bounds rooms) room.rect) :
    ofRooms? bounds rooms = some (Raster.ofRooms bounds rooms) := by
  have counted := measured.counted rooms
  have blank := blank_answers measured
  have same := (of_rooms_span_eq bounds rooms).symm
  -- both passes over the rooms go on from a map with the sides of the last one
  have buffered : rooms.toList.foldlM (fun map room =>
      (grow? (CellSpan.ofRect room.rect) Raster.ring).bind fun ring => fill? map ring .buffer) _ = some _ ∧ _ :=
    fold_answers (fun map : Raster => map.span = (Raster.ofRooms bounds rooms).span) rooms.toList
      (fun _ room inside same => ring_answers counted same room.rect (near room (Array.mem_toList_iff.mp inside))) _ same
  have painted : rooms.toList.foldlM (fun map room => fill? map (CellSpan.ofRect room.rect) .room) _ = some _ ∧ _ :=
    fold_answers (fun map : Raster => map.span = (Raster.ofRooms bounds rooms).span) rooms.toList
      (fun _ room inside same => room_answers counted same room.rect (near room (Array.mem_toList_iff.mp inside))) _
      buffered.2
  simp only [ofRooms?, Raster.ofRooms, ← Array.foldlM_toList, ← Array.foldl_toList]
  exact Option.bind_eq_some_iff.mpr ⟨_, blank, Option.bind_eq_some_iff.mpr ⟨_, buffered.1, painted.1⟩⟩

theorem of_rooms_some (bounds : Rect α) (rooms : Array (Room α)) (raster : Raster)
    (built : ofRooms? bounds rooms = some raster) :
    Measured bounds ∧ ∀ room ∈ rooms, ((CellSpan.ofRect room.rect).grow Raster.ring).InWords := by
  simp only [ofRooms?, ← Array.foldlM_toList] at built
  obtain ⟨start, blank, built⟩ := Option.bind_eq_some_iff.mp built
  obtain ⟨buffered, rings, _⟩ := Option.bind_eq_some_iff.mp built
  constructor
  · obtain ⟨_, first, blank⟩ := Option.bind_eq_some_iff.mp blank
    obtain ⟨_, second, blank⟩ := Option.bind_eq_some_iff.mp blank
    obtain ⟨_, third, _⟩ := Option.bind_eq_some_iff.mp blank
    obtain ⟨rfl, wide⟩ := word_some _ _ first
    obtain ⟨rfl, high⟩ := word_some _ _ second
    exact ⟨⟨wide, high⟩, (word_some _ _ third).2.2⟩
  · intro room inside
    obtain ⟨_, _, painted⟩ := fold_some _ _ _ _ rings room (Array.mem_toList_iff.mpr inside)
    obtain ⟨ring, grown, _⟩ := Option.bind_eq_some_iff.mp painted
    exact grow_some _ ring _ grown

end Build

end Floorplan.Words

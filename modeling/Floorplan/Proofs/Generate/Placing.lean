import Floorplan.Placement
import Floorplan.Proofs.Connect.SpanningTree
import Floorplan.Proofs.Route.Call

set_option autoImplicit false

namespace Floorplan

open Floorplan.Random (Draw Rng)

def Room.reservation {α : Type} (room : Room α) : Reservation α :=
  { rect := room.rect, occupant := .room room.id }

variable {α : Type} [Coord α]

structure Placed (start : SpatialIndex α) (rooms : Array (Room α)) (index : SpatialIndex α) : Prop where
  numbered : Numbered rooms
  doorless : ∀ room ∈ rooms, room.doors = []
  faithful : index.Faithful
  entries : index.entries.toList = start.entries.toList ++ rooms.toList.map Room.reservation

namespace Placed

variable {start index : SpatialIndex α} {rooms : Array (Room α)}

theorem empty (faithful : start.Faithful) : Placed start #[] start where
  numbered := by simp [Numbered]
  doorless := by simp
  faithful := faithful
  entries := by simp

theorem push (placed : Placed start rooms index) (rect : Rect α) :
    Placed start (rooms.push (.new ⟨rooms.size⟩ rect)) (index.reserve rect (.room ⟨rooms.size⟩)) where
  numbered := by
    intro k room read
    rw [Array.getElem?_push] at read
    by_cases last : k = rooms.size
    · rw [if_pos last] at read
      cases read
      exact last.symm
    · rw [if_neg last] at read
      exact placed.numbered k room read
  doorless := by
    intro room listed
    rcases Array.mem_push.mp listed with old | rfl
    · exact placed.doorless room old
    · rfl
  faithful := index.reserve_faithful placed.faithful rect _
  entries := by
    have grown : (index.reserve rect (.room ⟨rooms.size⟩)).entries.toList =
        index.entries.toList ++ [{ rect, occupant := .room ⟨rooms.size⟩ }] := Array.toList_push
    rw [grown, placed.entries, Array.toList_push, List.map_append, List.append_assoc]
    rfl

end Placed

omit [Coord α] in
theorem choose_mem {β : Type} (items : Array β) (rng : Rng) (item : β)
    (chosen : ((Random.choose items).run rng).1 = some item) : item ∈ items := by
  rw [Random.choose] at chosen
  split at chosen
  · cases chosen
  · exact Array.mem_of_getElem? chosen

namespace Placement

def touchesNext (placement : Placement α) : Bool := decide (0 < placement.touchingLeft) && !placement.rooms.isEmpty

def drawnNext (request : PlacementRequest α) (placement : Placement α) : Draw (Option (Rect α)) := do
  match ← Random.choose request.sizes with
  | none => pure none
  | some size =>
    if touchesNext placement then
      touchingAny placement.rooms (Coord.ofInt size.1.toNat) (Coord.ofInt size.2.toNat)
    else randomCandidate request.bounds (Coord.ofInt size.1.toNat) (Coord.ofInt size.2.toNat)

theorem step_drawn (request : PlacementRequest α) (placement : Placement α) (rng : Rng) :
    (step request placement).run rng =
      let drawn := (drawnNext request placement).run rng
      (drawn.1.elim placement fun rect => accept request (touchesNext placement) rect placement, drawn.2) := by
  simp only [drawnNext, step, draw_run_bind]
  generalize (Random.choose request.sizes).run rng = size
  obtain ⟨size, rng'⟩ := size
  cases size with
  | none => rfl
  | some size =>
      cases touching : (decide (0 < placement.touchingLeft) && !placement.rooms.isEmpty) with
      | true =>
          simp only [touchesNext, touching, if_true, draw_run_bind]
          generalize (touchingAny placement.rooms (Coord.ofInt size.1.toNat)
            (Coord.ofInt size.2.toNat)).run rng' = candidate
          obtain ⟨candidate, rng''⟩ := candidate
          cases candidate <;> rfl
      | false =>
          simp only [touchesNext, touching, Bool.false_eq_true, if_false, draw_run_bind]
          generalize (randomCandidate request.bounds (Coord.ofInt size.1.toNat)
            (Coord.ofInt size.2.toNat)).run rng' = candidate
          obtain ⟨candidate, rng''⟩ := candidate
          cases candidate <;> rfl

def scattered (request : PlacementRequest α) : Draw (Option (Rect α)) := do
  match ← Random.choose request.sizes with
  | none => pure none
  | some size => randomCandidate request.bounds (Coord.ofInt size.1.toNat) (Coord.ofInt size.2.toNat)

theorem step_scattered (request : PlacementRequest α) (placement : Placement α)
    (alone : placement.touchingLeft = 0) (rng : Rng) :
    (step request placement).run rng =
      let drawn := (scattered request).run rng
      (drawn.1.elim placement fun rect => accept request false rect placement, drawn.2) := by
  have free : touchesNext placement = false := by
    rw [touchesNext, alone]
    rfl
  have drawn : drawnNext request placement = scattered request := by
    simp only [drawnNext, scattered, free, Bool.false_eq_true, if_false]
  rw [step_drawn, free, drawn]

inductive Beside (base : Rect α) (w h : α) : Rect α → Prop
  | left (y : Int) : Beside base w h { x := base.left - w, y := Coord.ofInt y, width := w, height := h }
  | right (y : Int) : Beside base w h { x := base.right, y := Coord.ofInt y, width := w, height := h }
  | above (x : Int) : Beside base w h { x := Coord.ofInt x, y := base.top - h, width := w, height := h }
  | below (x : Int) : Beside base w h { x := Coord.ofInt x, y := base.bottom, width := w, height := h }

theorem touching_candidate_beside (base : Rect α) (w h : α) (side : Wall) (rng : Rng) :
    Beside base w h ((touchingCandidate base w h side).run rng).1 := by
  cases side with
  | left => exact .left _
  | right => exact .right _
  | top => exact .above _
  | bottom => exact .below _

theorem touching_any_drawn (rooms : Array (Room α)) (w h : α) (rng : Rng) (rect : Rect α)
    (drawn : ((touchingAny rooms w h).run rng).1 = some rect) :
    ∃ base ∈ rooms, ∃ side rng', rect = ((touchingCandidate base.rect w h side).run rng').1 := by
  simp only [touchingAny, draw_run_bind] at drawn
  have member := choose_mem rooms rng
  generalize (Random.choose rooms).run rng = chosen at drawn member
  obtain ⟨base, rng'⟩ := chosen
  cases base with
  | none => cases drawn
  | some base =>
      simp only [draw_run_bind] at drawn
      generalize (Random.choose Wall.all.toArray).run rng' = chosen at drawn
      obtain ⟨side, rng''⟩ := chosen
      cases side with
      | none => cases drawn
      | some side =>
          cases drawn
          exact ⟨base, member base rfl, side, rng'', rfl⟩

theorem random_candidate_whole (bounds : Rect α) (w h : α) (rng : Rng) (rect : Rect α)
    (drawn : ((randomCandidate bounds w h).run rng).1 = some rect) :
    ∃ x y : Int, rect = { x := Coord.ofInt x, y := Coord.ofInt y, width := w, height := h } := by
  rw [randomCandidate] at drawn
  split at drawn
  · cases drawn
  · cases drawn
    exact ⟨_, _, rfl⟩

def withRoom (placement : Placement α) (rect : Rect α) (touchingLeft : Nat) : Placement α :=
  { rooms := placement.rooms.push (.new ⟨placement.rooms.size⟩ rect)
    touchingLeft
    index := placement.index.reserve rect (.room ⟨placement.rooms.size⟩) }

theorem accept_cases (request : PlacementRequest α) (touching : Bool) (rect : Rect α) (placement : Placement α) :
    accept request touching rect placement = placement
      ∨ request.bounds.containsRect rect = true
        ∧ placement.index.overlapsAny
          (if touching || request.padding == 0 then rect else rect.expand (Coord.ofInt request.padding)) = false
        ∧ accept request touching rect placement =
          placement.withRoom rect (if touching then placement.touchingLeft - 1 else placement.touchingLeft) := by
  rw [accept]
  generalize (if touching || request.padding == 0 then rect
    else rect.expand (Coord.ofInt request.padding)) = tested
  simp only
  split
  next => exact .inl rfl
  next accepted =>
    simp only [Bool.or_eq_true, Bool.not_eq_true', not_or, Bool.not_eq_false, Bool.not_eq_true] at accepted
    exact .inr ⟨accepted.1, accepted.2, rfl⟩

inductive Stepped (request : PlacementRequest α) (before : Placement α) : Placement α → Prop
  | kept : Stepped request before before
  | scattered (size : UInt32 × UInt32) (listed : size ∈ request.sizes) (x y : Int) (rect : Rect α)
      (drawn : rect =
        { x := Coord.ofInt x, y := Coord.ofInt y
          width := Coord.ofInt size.1.toNat, height := Coord.ofInt size.2.toNat })
      (alone : before.touchingLeft = 0 ∨ before.rooms = #[])
      (inside : request.bounds.containsRect rect = true)
      (free : before.index.overlapsAny
        (if request.padding = 0 then rect else rect.expand (Coord.ofInt request.padding)) = false) :
      Stepped request before (before.withRoom rect before.touchingLeft)
  | touching (size : UInt32 × UInt32) (listed : size ∈ request.sizes) (base : Room α)
      (placed : base ∈ before.rooms) (side : Wall) (rng : Rng) (rect : Rect α)
      (drawn : rect =
        ((touchingCandidate base.rect (Coord.ofInt size.1.toNat) (Coord.ofInt size.2.toNat) side).run rng).1)
      (wanted : 0 < before.touchingLeft) (inside : request.bounds.containsRect rect = true)
      (free : before.index.overlapsAny rect = false) :
      Stepped request before (before.withRoom rect (before.touchingLeft - 1))

theorem step_stepped (request : PlacementRequest α) (placement : Placement α) (rng : Rng) :
    Stepped request placement ((step request placement).run rng).1 := by
  simp only [step, draw_run_bind]
  have listed := choose_mem request.sizes rng
  generalize (Random.choose request.sizes).run rng = chosen at listed ⊢
  obtain ⟨size, rng'⟩ := chosen
  cases size with
  | none => exact .kept
  | some size =>
      have member := listed size rfl
      by_cases wanted : 0 < placement.touchingLeft ∧ placement.rooms ≠ #[]
      · have touching : (decide (0 < placement.touchingLeft) && !placement.rooms.isEmpty) = true := by
          simpa using wanted
        simp only [touching, if_true, draw_run_bind]
        have against := touching_any_drawn placement.rooms (Coord.ofInt size.1.toNat) (Coord.ofInt size.2.toNat) rng'
        generalize (touchingAny placement.rooms _ _).run rng' = candidate at against ⊢
        obtain ⟨candidate, rng''⟩ := candidate
        cases candidate with
        | none => exact .kept
        | some rect =>
            obtain ⟨base, placed, side, stream, drawn⟩ := against rect rfl
            simp only [draw_run_pure]
            rcases accept_cases request true rect placement with same | ⟨inside, free, accepted⟩
            · rw [same]
              exact .kept
            · rw [accepted]
              exact .touching size member base placed side stream rect drawn wanted.1 inside free
      · have scattered : (decide (0 < placement.touchingLeft) && !placement.rooms.isEmpty) = false := by
          simpa using wanted
        simp only [scattered, Bool.false_eq_true, if_false, draw_run_bind]
        have whole := random_candidate_whole request.bounds (Coord.ofInt size.1.toNat) (Coord.ofInt size.2.toNat) rng'
        generalize (randomCandidate request.bounds _ _).run rng' = candidate at whole ⊢
        obtain ⟨candidate, rng''⟩ := candidate
        cases candidate with
        | none => exact .kept
        | some rect =>
            obtain ⟨x, y, drawn⟩ := whole rect rfl
            simp only [draw_run_pure]
            rcases accept_cases request false rect placement with same | ⟨inside, free, accepted⟩
            · rw [same]
              exact .kept
            · simp only [not_and_or, Nat.not_lt, Nat.le_zero, not_not] at wanted
              simp only [Bool.false_or, beq_iff_eq] at free
              rw [accepted]
              exact .scattered size member x y rect drawn wanted inside free

-- What each step keeps while rooms are missing, a run keeps.
theorem run_keeps (request : PlacementRequest α) (holds : Placement α → Prop)
    (keeps : ∀ before after, before.rooms.size < request.roomCount → Stepped request before after →
      holds before → holds after)
    (budget : Nat) (placement : Placement α) (initial : holds placement) (rng : Rng) :
    holds ((run request budget placement).run rng).1 := by
  induction budget generalizing placement rng with
  | zero => exact initial
  | succ budget ih =>
      rw [run]
      split
      next missing =>
        rw [draw_run_bind]
        exact ih _ (keeps _ _ missing (step_stepped request placement rng) initial) _
      next => exact initial

theorem run_steps (request : PlacementRequest α) (states : Nat → Placement α) (streams : Nat → Rng) (count : Nat)
    (missing : ∀ k < count, (states k).rooms.size < request.roomCount)
    (steps : ∀ k < count, (step request (states k)).run (streams k) = (states (k + 1), streams (k + 1)))
    (left k : Nat) (fits : k + left ≤ count) :
    (run request left (states k)).run (streams k) = (states (k + left), streams (k + left)) := by
  induction left generalizing k with
  | zero => rfl
  | succ left ih =>
      rw [run, if_pos (missing k (by omega)), draw_run_bind, steps k (by omega), ih (k + 1) (by omega),
        Nat.add_right_comm, Nat.add_assoc]

theorem stepped_placed {start : SpatialIndex α} (request : PlacementRequest α) (before after : Placement α)
    (stepped : Stepped request before after) (placed : Placed start before.rooms before.index) :
    Placed start after.rooms after.index := by
  cases stepped with
  | kept => exact placed
  | scattered size listed x y rect => exact placed.push rect
  | touching size listed base member side rng rect => exact placed.push rect

theorem stepped_count (request : PlacementRequest α) (before after : Placement α)
    (missing : before.rooms.size < request.roomCount) (stepped : Stepped request before after) :
    after.rooms.size ≤ request.roomCount := by
  cases stepped with
  | kept => exact Nat.le_of_lt missing
  | scattered size listed x y rect =>
      simp only [withRoom, Array.size_push]
      exact missing
  | touching size listed base placed side rng rect =>
      simp only [withRoom, Array.size_push]
      exact missing

end Placement

theorem place_rooms_ok_run (request : PlacementRequest α) (start : SpatialIndex α) (rng rest : Rng)
    (rooms : Array (Room α)) (index : SpatialIndex α)
    (finished : (placeRooms request start).run rng = ((.ok rooms, index), rest)) :
    let final := ((Placement.run request request.maxAttempts
      { rooms := #[], touchingLeft := Placement.touchingCount request, index := start }).run rng).1
    final.rooms = rooms ∧ request.roomCount ≤ final.rooms.size := by
  simp only [placeRooms] at finished
  split at finished
  next => cases finished
  next =>
    rw [draw_run_bind] at finished
    split at finished
    next => cases finished
    next enough =>
      cases finished
      exact ⟨rfl, Nat.not_lt.mp enough⟩

theorem place_rooms_size (request : PlacementRequest α) (start : SpatialIndex α) (rng rest : Rng)
    (rooms : Array (Room α)) (index : SpatialIndex α)
    (finished : (placeRooms request start).run rng = ((.ok rooms, index), rest)) : rooms.size = request.roomCount := by
  obtain ⟨rfl, enough⟩ := place_rooms_ok_run request start rng rest rooms index finished
  have few := Placement.run_keeps request (fun placement => placement.rooms.size ≤ request.roomCount)
    (fun before after missing stepped _ => Placement.stepped_count request before after missing stepped)
    request.maxAttempts { rooms := #[], touchingLeft := Placement.touchingCount request, index := start }
    (Nat.zero_le _) rng
  exact Nat.le_antisymm few enough

theorem place_rooms_placed (request : PlacementRequest α) (start : SpatialIndex α) (faithful : start.Faithful)
    (rng : Rng) (rooms : Array (Room α)) (index : SpatialIndex α) (rng' : Rng)
    (result : (placeRooms request start).run rng = ((.ok rooms, index), rng')) : Placed start rooms index := by
  simp only [placeRooms] at result
  split at result
  · cases result
  · rw [draw_run_bind] at result
    have placed := Placement.run_keeps request (fun placement => Placed start placement.rooms placement.index)
      (fun before after _ stepped => Placement.stepped_placed request before after stepped) request.maxAttempts
      { rooms := #[], touchingLeft := Placement.touchingCount request, index := start } (.empty faithful) rng
    generalize (Placement.run request request.maxAttempts
      { rooms := #[], touchingLeft := Placement.touchingCount request, index := start }).run rng = after
      at result placed
    obtain ⟨placement, rng''⟩ := after
    simp only at result
    split at result
    · cases result
    · cases result
      exact placed

end Floorplan

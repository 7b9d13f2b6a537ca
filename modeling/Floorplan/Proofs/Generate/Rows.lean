import Floorplan.Proofs.Generate.Placing
import Floorplan.Proofs.Index.Search

set_option autoImplicit false

namespace Floorplan

open Floorplan.Random (Draw Rng)

theorem ok_of_to_option {ε β : Type} {outcome : Except ε β} {made : β} (same : outcome.toOption = some made) :
    outcome = .ok made := by
  cases outcome with
  | error failure => cases same
  | ok answer =>
      cases same
      rfl

variable {α : Type} [Coord α]

theorem SpatialIndex.overlaps_any_clear (index : SpatialIndex α) (rect : Rect α)
    (clear : ∀ entry ∈ index.entries, entry.rect.overlaps rect = false) : index.overlapsAny rect = false := by
  have none : ∀ i, index.hits rect (fun _ => true) i = false := by
    intro i
    cases hit : index.hits rect (fun _ => true) i with
    | false => rfl
    | true =>
        obtain ⟨entry, read, _, overlaps⟩ := (index.hits_iff rect _ i).mp hit
        rw [clear entry (Array.mem_of_getElem? read)] at overlaps
        cases overlaps
  simp [overlapsAny, overlapsWhere, none]

namespace Placement

def taken (start : SpatialIndex α) (rects : Nat → Rect α) : Nat → Placement α
  | 0 => { rooms := #[], touchingLeft := 0, index := start }
  | k + 1 => (taken start rects k).withRoom (rects k) 0

variable (start : SpatialIndex α) (rects : Nat → Rect α)

theorem taken_size (k : Nat) : (taken start rects k).rooms.size = k := by
  induction k with
  | zero => rfl
  | succ k ih => rw [taken, withRoom, Array.size_push, ih]

theorem taken_alone (k : Nat) : (taken start rects k).touchingLeft = 0 := by
  cases k <;> rfl

theorem taken_entries (k : Nat) (entry : Reservation α) (listed : entry ∈ (taken start rects k).index.entries) :
    entry ∈ start.entries ∨ ∃ j < k, entry.rect = rects j := by
  induction k with
  | zero => exact .inl listed
  | succ k ih =>
      rcases Array.mem_push.mp listed with old | rfl
      · obtain first | ⟨j, before, same⟩ := ih old
        · exact .inl first
        · exact .inr ⟨j, Nat.lt_succ_of_lt before, same⟩
      · exact .inr ⟨k, Nat.lt_succ_self k, rfl⟩

variable (request : PlacementRequest α) (streams : Nat → Rng) (count : Nat)

theorem taken_step (unpadded : request.padding = 0) (empty : start.entries = #[]) (k : Nat)
    (drawn : (scattered request).run (streams k) = (some (rects k), streams (k + 1)))
    (inside : request.bounds.containsRect (rects k) = true) (apart : ∀ j < k, (rects j).overlaps (rects k) = false) :
    (step request (taken start rects k)).run (streams k) = (taken start rects (k + 1), streams (k + 1)) := by
  have clear : (taken start rects k).index.overlapsAny (rects k) = false := by
    apply SpatialIndex.overlaps_any_clear
    intro entry listed
    obtain old | ⟨j, before, same⟩ := taken_entries start rects k entry listed
    · simp [empty] at old
    · rw [same]
      exact apart j before
  have accepted : accept request false (rects k) (taken start rects k) = taken start rects (k + 1) := by
    simp [accept, unpadded, inside, clear, taken, withRoom, taken_alone]
  rw [step_scattered request _ (taken_alone start rects k), drawn]
  simp only [Option.elim_some, accepted]

theorem place_rooms_taken (alone : touchingCount request = 0) (unpadded : request.padding = 0)
    (known : request.sizes.isEmpty = false) (wanted : request.roomCount = count) (enough : request.maxAttempts = count)
    (empty : start.entries = #[])
    (drawn : ∀ k < count, (scattered request).run (streams k) = (some (rects k), streams (k + 1)))
    (inside : ∀ k < count, request.bounds.containsRect (rects k) = true)
    (apart : ∀ k < count, ∀ j < k, (rects j).overlaps (rects k) = false) :
    (placeRooms request start).run (streams 0) =
      ((.ok (taken start rects count).rooms, (taken start rects count).index), streams count) := by
  have missing : ∀ k < count, (taken start rects k).rooms.size < request.roomCount := by
    intro k fits
    rwa [taken_size, wanted]
  have steps : ∀ k < count, (step request (taken start rects k)).run (streams k) =
      (taken start rects (k + 1), streams (k + 1)) := fun k fits =>
    taken_step start rects request streams unpadded empty k (drawn k fits) (inside k fits) (apart k fits)
  have run := run_steps request (taken start rects) streams count missing steps count 0 (by omega)
  rw [Nat.zero_add, taken] at run
  simp only [placeRooms, known, alone, enough, Bool.false_and, Bool.false_eq_true, if_false, draw_run_bind, run,
    taken_size, wanted, Nat.lt_irrefl]
  rfl

end Placement

end Floorplan

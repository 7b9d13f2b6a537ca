import Floorplan.Proofs.Door.Offers
import Floorplan.Proofs.Grid.Map

set_option autoImplicit false

namespace Floorplan

open Floorplan.Random (Draw Rng)

namespace Heap

variable {β : Type}

theorem graft_perm (first : β) (a b : Heap β) : (graft first a b).toList.Perm (first :: (a.toList ++ b.toList)) := by
  rw [graft]
  split
  · exact .refl _
  · exact .cons first List.perm_append_comm

theorem meld_perm (le : β → β → Bool) (a b : Heap β) : (meld le a b).toList.Perm (a.toList ++ b.toList) := by
  fun_induction meld le a b with
  | case1 b => exact .refl _
  | case2 a => simp [toList]
  | case3 rankA firstA leftA rightA rankB firstB leftB rightB before ih =>
      refine (graft_perm _ _ _).trans (.cons firstA ?_)
      have melded := ih.append_left leftA.toList
      rwa [← List.append_assoc] at melded
  | case4 rankA firstA leftA rightA rankB firstB leftB rightB after ih =>
      -- the second root comes first, and its left part before the first tree
      have melded := (ih.append_left leftB.toList).trans (List.perm_append_comm_assoc _ _ _)
      exact (graft_perm _ _ _).trans ((melded.cons firstB).trans List.perm_middle.symm)

theorem push_mem (le : β → β → Bool) (heap : Heap β) (x y : β) :
    y ∈ (heap.push le x).toList ↔ y ∈ heap.toList ∨ y = x := by
  rw [push, (meld_perm le _ _).mem_iff]
  simp [toList]

theorem pop_mem (le : β → β → Bool) (heap rest : Heap β) (first y : β)
    (popped : heap.pop? le = some (first, rest)) : y ∈ heap.toList ↔ y = first ∨ y ∈ rest.toList := by
  cases heap with
  | empty => cases popped
  | node rank top left right =>
      cases popped
      rw [(meld_perm le _ _).mem_iff]
      simp [toList]

end Heap

namespace GridPath

structure Search.Within (allowed : Nat → Prop) (search : Search) : Prop where
  labels : ∀ (i : Nat) (label : Label), search.labels[i]? = some (some label) →
    ∀ before, label.previous = some before → allowed before
  queue : ∀ visit ∈ search.queue.toList, allowed visit.place

namespace Search.Within

variable {allowed : Nat → Prop} {search : Search} (within : search.Within allowed)

include within

theorem label (i : Nat) (label : Label) (rest : Nat) (place : allowed i)
    (previous : ∀ before, label.previous = some before → allowed before) :
    (search.label i label rest).Within allowed := by
  rw [Search.label]
  split
  next =>
    constructor
    · intro j found read
      rw [Array.getElem?_setIfInBounds] at read
      split at read
      next =>
        split at read
        · obtain rfl := Option.some.inj (Option.some.inj read)
          exact previous
        · cases read
      next => exact within.labels j found read
    · intro visit queued
      rcases (Heap.push_mem _ _ _ visit).mp queued with old | rfl
      · exact within.queue visit old
      · exact place
  next => exact within

theorem pop (visit : Visit) (queue : Heap Visit) (popped : search.queue.pop? Visit.before = some (visit, queue)) :
    allowed visit.place ∧ ({ search with queue } : Search).Within allowed := by
  have mem := fun other => Heap.pop_mem Visit.before search.queue queue visit other popped
  exact ⟨within.queue visit ((mem visit).mpr (.inl rfl)), within.labels,
    fun other queued => within.queue other ((mem other).mpr (.inr queued))⟩

end Search.Within

def Problem.Allows (problem : Problem) (sources : List Cell) (i : Nat) : Prop :=
  (∃ source ∈ sources, problem.raster.place? source = some i)
    ∨ i < problem.raster.cells.size ∧ problem.open? problem.goalPlaces i = true

variable (problem : Problem) (sources : List Cell) (box : CellSpan)

theorem start_within : (start problem box sources).Within (problem.Allows sources) := by
  rw [start]
  refine List.foldlRecOn sources _ ?_ fun search within cell listed => ?_
  · constructor
    · intro i label read
      rw [Array.getElem?_replicate] at read
      split at read <;> cases read
    · exact fun visit queued => absurd queued List.not_mem_nil
  · split
    next => exact within
    next i placed => exact within.label i _ _ (.inl ⟨cell, listed, placed⟩) nofun

theorem expand_within (visit : Visit) (place : problem.Allows sources visit.place) (search : Search)
    (within : search.Within (problem.Allows sources)) :
    (expand problem problem.goalPlaces box visit search).Within (problem.Allows sources) := by
  rw [expand]
  refine List.foldlRecOn _ _ within fun search within cell _ => ?_
  rw [reach]
  split
  next => exact within
  next i placed =>
    split
    next opens =>
      apply within.label i _ _ (.inr ⟨problem.raster.place_lt cell i placed, opens⟩)
      intro before same
      obtain rfl := Option.some.inj same
      exact place
    next => exact within

theorem run_within (search : Search) (within : search.Within (problem.Allows sources)) (final : Labels) (goal : Nat)
    (found : run problem problem.goalPlaces box search = some (final, goal)) :
    problem.Allows sources goal ∧ ∀ (i : Nat) (label : Label), final[i]? = some (some label) →
      ∀ before, label.previous = some before → problem.Allows sources before := by
  fun_induction run problem problem.goalPlaces box search with
  | case1 search none => cases found
  | case2 search visit queue popped labels turn stale ih => exact ih (within.pop visit queue popped).2 found
  | case3 search visit queue popped labels current reached =>
      obtain ⟨rfl, rfl⟩ := Prod.mk.inj (Option.some.inj found)
      exact ⟨(within.pop visit queue popped).1, within.labels⟩
  | case4 search visit queue popped labels turn current further ih =>
      obtain ⟨place, rest⟩ := within.pop visit queue popped
      exact ih (expand_within problem sources box visit place _ rest) found

theorem walk_back_allowed (allowed : Nat → Prop) (labels : Labels)
    (previous : ∀ (i : Nat) (label : Label), labels[i]? = some (some label) →
      ∀ before, label.previous = some before → allowed before)
    (steps i : Nat) (path : List Nat) (place : allowed i) (rest : ∀ j ∈ path, allowed j) :
    ∀ j ∈ walkBack labels steps i path, allowed j := by
  have longer : ∀ j ∈ i :: path, allowed j := List.forall_mem_cons.mpr ⟨place, rest⟩
  induction steps generalizing i path with
  | zero => exact longer
  | succ steps ih =>
      rw [walkBack]
      split
      next => exact longer
      next before read =>
        obtain ⟨label, joined, same⟩ := Option.bind_eq_some_iff.mp read
        have labelled := Option.join_eq_some_iff.mp joined
        have earlier := previous i label labelled before same
        exact ih before (i :: path) earlier longer (List.forall_mem_cons.mpr ⟨earlier, longer⟩)

-- Every cell of a path is a source or an open place of the map.
theorem shortest_allowed (path : List Cell) (found : shortest problem sources = some path) :
    ∀ cell ∈ path, ∃ i, problem.Allows sources i ∧ problem.raster.place? cell = some i := by
  rw [shortest] at found
  split at found
  next => cases found
  next =>
    simp only at found
    split at found
    next => cases found
    next labels goal searched =>
      obtain rfl := Option.some.inj found
      obtain ⟨place, previous⟩ := run_within problem sources _ _ (start_within problem sources _) labels goal searched
      intro cell member
      obtain ⟨i, listed, rfl⟩ := List.mem_map.mp member
      have allowed := walk_back_allowed _ labels previous _ goal [] place (by simp) i listed
      refine ⟨i, allowed, problem.raster.place_cell_at i ?_⟩
      rcases allowed with ⟨source, _, placed⟩ | ⟨inRange, _⟩
      · exact problem.raster.place_lt source i placed
      · exact inRange

theorem shortest_here (problem : Problem) (cell : Cell) (i : Nat) (placed : problem.raster.place? cell = some i)
    (goal : problem.goals = [cell]) : shortest problem [cell] = some [cell] := by
  have inRange := problem.raster.place_lt cell i placed
  have goals : problem.goalPlaces = [i] := by simp [Problem.goalPlaces, goal, placed]
  have started : ∀ box, start problem box [cell] =
      { labels := (Array.replicate problem.raster.cells.size none).setIfInBounds i
          (some { cost := 0, previous := none })
        queue := .node 1 { estimate := 0 + stepsTo box cell, cost := 0, turn := 0, place := i } .empty .empty
        turn := 1 } := by
    intro box
    have free : (Array.replicate problem.raster.cells.size (none : Option Label))[i]? = some none := by
      rw [Array.getElem?_replicate, if_pos inRange]
    simp only [start, List.foldl_cons, List.foldl_nil, placed, Search.label, Labels.improves, free, if_true,
      Heap.push, Heap.meld]
  -- the first visit that is popped is to the goal, and no step leads to it
  have arrived : ∀ box, run problem [i] box (start problem box [cell]) =
      some ((start problem box [cell]).labels, i) := by
    intro box
    rw [started, run]
    simp [Heap.pop?, Labels.cost?, inRange]
  simp only [shortest, goal, goals, List.isEmpty_cons, Bool.or_self, Bool.false_eq_true, if_false, arrived]
  simp [started, Labels.cost?, inRange, walkBack, problem.raster.cell_at_place cell i placed]

end GridPath

namespace Grid

def Opens (raster : Raster) (crossing : CrossingPolicy) (forced : Bool) (cell : Cell) : Prop :=
  ∃ state, raster.state? cell = some state ∧ state ≠ .room
    ∧ (state = .corridor → (forced || crossing.allows) = true)

theorem usable_opens (raster : Raster) (crossing : CrossingPolicy) (forced : Bool) (cell : Cell)
    (fits : usable raster crossing forced cell = true) : Opens raster crossing forced cell := by
  rw [usable] at fits
  split at fits
  next read => exact ⟨.buffer, read, nofun, nofun⟩
  next read => exact ⟨.corridor, read, nofun, fun _ => fits⟩
  next => cases fits

theorem passable_opens (raster : Raster) (crossing : CrossingPolicy) (forced : Bool) (cell : Cell) (state : CellState)
    (read : raster.state? cell = some state) (passes : state.passable crossing forced = true) :
    Opens raster crossing forced cell := by
  refine ⟨state, read, ?_, ?_⟩
  · rintro rfl
    cases passes
  · rintro rfl
    exact passes

variable {α : Type} [Coord α]

theorem door_cells_open (raster : Raster) (crossing : CrossingPolicy) (room : Room α) (wall : Wall)
    (thickness : α) (forced : Bool) :
    ∀ cell ∈ (doorCells raster crossing room wall thickness forced).map (·.cell),
      Opens raster crossing forced cell := by
  intro cell member
  obtain ⟨candidate, listed, rfl⟩ := List.mem_map.mp member
  exact usable_opens raster crossing forced candidate.cell (List.mem_filter.mp listed).2

def Follows (raster : Raster) (crossing : CrossingPolicy) (forced : Bool) (geometry : Geometry α) : Prop :=
  geometry = .doorway ∨ ∃ path, geometry = .path path ∧ ∀ cell ∈ path, Opens raster crossing forced cell

theorem route_pair_follows (raster : Raster) (crossing : CrossingPolicy) (a b : Room α) (walls : Wall × Wall)
    (thickness : α) (forced : Bool) (proposal : Proposal α)
    (made : routePair raster crossing a b walls thickness forced = some proposal) :
    Follows raster crossing forced proposal.geometry := by
  obtain ⟨_, _, _, _, path, searched, _, _, rfl⟩ :=
    route_pair_doors raster crossing a b walls thickness forced proposal made
  refine .inr ⟨path, rfl, fun cell member => ?_⟩
  obtain ⟨i, allowed, placed⟩ := GridPath.shortest_allowed _ _ path searched cell member
  have same : ∀ other, raster.place? other = some i → other = cell := fun other otherPlaced =>
    (raster.cell_at_place other i otherPlaced).symm.trans (raster.cell_at_place cell i placed)
  rcases allowed with ⟨source, listed, sourcePlaced⟩ | ⟨inRange, opens⟩
  · rw [← same source sourcePlaced]
    exact door_cells_open raster crossing a walls.1 thickness forced source listed
  · rcases Bool.or_eq_true_iff.mp opens with goal | passes
    · obtain ⟨target, listed, targetPlaced⟩ := List.mem_filterMap.mp (List.contains_iff_mem.mp goal)
      rw [← same target targetPlaced]
      exact door_cells_open raster crossing b walls.2 thickness forced target listed
    · split at passes
      next => cases passes
      next state read =>
        have read : raster.state? cell = some state := by
          rw [← raster.cell_at_place cell i placed, raster.state_cell_at i inRange, read]
        exact passable_opens raster crossing forced cell state read passes

theorem doorway_geometry (a b : Room α) (wall : Wall) (thickness : α) (rng : Rng) (proposal : Proposal α)
    (drawn : ((doorway a b wall thickness).run rng).1 = some proposal) : proposal.geometry = .doorway := by
  rw [doorway] at drawn
  split at drawn
  · split at drawn
    · cases drawn
    · cases drawn
      rfl
  · cases drawn

theorem propose_follows (raster : Raster) (crossing : CrossingPolicy) (a b : Room α) (thickness : α)
    (attempt : Nat) (rng : Rng) (proposal : Proposal α)
    (drawn : ((propose raster crossing a b thickness attempt).run rng).1 = some proposal) :
    Follows raster crossing false proposal.geometry := by
  rcases propose_cases raster crossing a b thickness attempt rng proposal drawn with
    ⟨wall, shared⟩ | ⟨walls, _, made⟩
  · exact .inl (doorway_geometry a b wall thickness rng proposal shared)
  · exact route_pair_follows raster crossing a b walls thickness false proposal made

theorem propose_forced_follows (raster : Raster) (crossing : CrossingPolicy) (a b : Room α) (thickness : α)
    (proposal : Proposal α) (made : proposeForced raster crossing a b thickness = some proposal) :
    Follows raster crossing true proposal.geometry := by
  rw [proposeForced] at made
  obtain ⟨walls, _, chosen⟩ := List.exists_of_findSome?_eq_some made
  exact route_pair_follows raster crossing a b walls thickness true proposal chosen

end Grid

end Floorplan

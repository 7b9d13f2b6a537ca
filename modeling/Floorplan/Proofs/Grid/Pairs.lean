import Floorplan.Proofs.Grid.Nearest

set_option autoImplicit false

namespace Floorplan

open Floorplan.Random (Draw Rng)

namespace DoorSpan

theorem intersect_some_iff (span other : DoorSpan Rat) :
    (∃ s, span.intersect other = some s) ↔ ∃ v, span.contains v = true ∧ other.contains v = true := by
  rw [← Option.ne_none_iff_exists', ne_eq, (intersect_leaves span other).empty]
  exact Classical.not_forall_not

end DoorSpan

namespace Wall

variable {α : Type} [Coord α]

theorem sideways_cases (dx : α) : sideways dx = .right ∨ sideways dx = .left := by
  rw [sideways]
  split
  · exact .inl rfl
  · exact .inr rfl

theorem upright_cases (dy : α) : upright dy = .bottom ∨ upright dy = .top := by
  rw [upright]
  split
  · exact .inl rfl
  · exact .inr rfl

end Wall

namespace Grid

open GridPath (Leads)

theorem wall_pairs_each {α : Type} [Coord α] (a b : Room α) :
    (wallPairs a b).length = 16 ∧ (wallPairs a b).Nodup ∧ ∀ source target, (source, target) ∈ wallPairs a b := by
  have every : ∀ pairs : List (Wall × Wall), pairs.Perm (Wall.all.flatMap fun source => Wall.all.map fun target =>
      (source, target)) → pairs.length = 16 ∧ pairs.Nodup ∧ ∀ source target, (source, target) ∈ pairs := by
    intro pairs perm
    refine ⟨perm.length_eq, perm.nodup_iff.mpr (by decide), fun source target => perm.mem_iff.mpr ?_⟩
    cases source <;> cases target <;> decide
  apply every
  rw [wallPairs]
  rcases Wall.sideways_cases (b.center.x - a.center.x) with sideways | sideways <;>
    rcases Wall.upright_cases (b.center.y - a.center.y) with upright | upright <;>
    simp only [sideways, upright] <;> split <;> decide

-- What a pair of walls can be joined by.
inductive Offers (raster : Raster) (crossing : CrossingPolicy) (a b : Room Rat) (thickness : Rat) (walls : Wall × Wall) :
    Proposal Rat → Prop
  | doorway (v : Rat) (opposite : walls.2 = walls.1.opposite) (line : walls.1.line a.rect = walls.2.line b.rect)
      (first : (a.doorSpan walls.1 thickness).contains v = true)
      (second : (b.doorSpan walls.2 thickness).contains v = true) :
      Offers raster crossing a b thickness walls
        { doors := ({ wall := walls.1, anchor := walls.1.pointAt a.rect v },
            { wall := walls.2, anchor := walls.1.pointAt a.rect v })
          geometry := .doorway }
  | path (source : DoorCell Rat) (sourceListed : source ∈ doorCells raster crossing a walls.1 thickness false)
      (goal : DoorCell Rat) (goalListed : goal ∈ doorCells raster crossing b walls.2 thickness false) (path : List Cell)
      (leads : Leads (raster.Passable crossing false) [source.cell] [goal.cell] path) :
      Offers raster crossing a b thickness walls { doors := (source.door, goal.door), geometry := .path path }

variable (raster : Raster) (crossing : CrossingPolicy)

theorem doorway_offers (a b : Room Rat) (wall : Wall) (thickness : Rat) (rng : Rng) :
    (∀ proposal, ((doorway a b wall thickness).run rng).1 = some proposal →
        Offers raster crossing a b thickness (wall, wall.opposite) proposal)
      ∧ (((doorway a b wall thickness).run rng).1 = none → ¬ (wall.line a.rect = wall.opposite.line b.rect
        ∧ ∃ v, (a.doorSpan wall thickness).contains v = true
          ∧ (b.doorSpan wall.opposite thickness).contains v = true)) := by
  rw [doorway]
  split
  next line =>
    rw [← DoorSpan.intersect_some_iff]
    cases met : (a.doorSpan wall thickness).intersect (b.doorSpan wall.opposite thickness) with
    | none =>
        constructor
        · intro proposal drawn
          cases drawn
        · rintro _ ⟨_, s, found⟩
          cases found
    | some span =>
        obtain ⟨proper, both⟩ := DoorSpan.intersect_spec _ _ span met
        have held := (both _).mp (span.sample_mem proper rng)
        refine ⟨fun proposal drawn => ?_, fun none => by cases none⟩
        cases drawn
        exact .doorway (span.sample.run rng).1 rfl (beq_iff_eq.mp line) held.1 held.2
  next apart =>
    constructor
    · intro proposal drawn
      cases drawn
    · exact fun _ shared => apart (beq_iff_eq.mpr shared.1)

theorem door_cell_placed {α : Type} [Coord α] (room : Room α) (wall : Wall) (thickness : α) (forced : Bool) :
    ∀ cell ∈ (doorCells raster crossing room wall thickness forced).map (·.cell),
      ∃ i, raster.place? cell = some i := by
  intro cell member
  obtain ⟨state, read, _⟩ := door_cells_open raster crossing room wall thickness forced cell member
  obtain ⟨i, placed, _⟩ := Option.bind_eq_some_iff.mp read
  exact ⟨i, placed⟩

theorem route_pair_none_iff {α : Type} [Coord α] (a b : Room α) (walls : Wall × Wall) (thickness : α) (forced : Bool) :
    let sources := doorCells raster crossing a walls.1 thickness forced
    let goals := doorCells raster crossing b walls.2 thickness forced
    routePair raster crossing a b walls thickness forced = none ↔
      GridPath.shortest { raster, crossing, forced, goals := goals.map (·.cell) } (sources.map (·.cell)) = none := by
  intro sources goals
  constructor
  · intro failed
    by_contra answered
    obtain ⟨path, found⟩ := Option.ne_none_iff_exists'.mp answered
    obtain ⟨⟨first, firstListed, starts⟩, ⟨last, lastListed, ends⟩, _, _⟩ := GridPath.shortest_leads path found
    have ended : ∀ (cells : List (DoorCell α)) (tip : Option Cell) (cell : Cell), cell ∈ cells.map (·.cell) →
        tip = some cell → ∃ door, cells.find? (fun door => tip == some door.cell) = some door := by
      rintro cells _ _ listed rfl
      obtain ⟨door, member, rfl⟩ := List.mem_map.mp listed
      exact Option.isSome_iff_exists.mp (List.find?_isSome.mpr ⟨door, member, beq_self_eq_true _⟩)
    obtain ⟨firstDoor, firstFound⟩ := ended sources _ first firstListed starts
    obtain ⟨lastDoor, lastFound⟩ := ended goals _ last lastListed ends
    simp only [routePair, Option.bind_eq_bind] at failed
    rw [found, Option.bind_some, firstFound, Option.bind_some, lastFound, Option.bind_some] at failed
    cases failed
  · intro failed
    simp only [routePair, Option.bind_eq_bind]
    rw [failed]
    rfl

theorem door_cells_on_map {α : Type} [Coord α] (a b : Room α) (walls : Wall × Wall) (thickness : α) (forced : Bool) :
    ∀ cell ∈ (doorCells raster crossing a walls.1 thickness forced).map (·.cell)
        ++ (doorCells raster crossing b walls.2 thickness forced).map (·.cell), ∃ i, raster.place? cell = some i := by
  intro cell member
  rcases List.mem_append.mp member with own | other
  · exact door_cell_placed raster crossing a walls.1 thickness forced cell own
  · exact door_cell_placed raster crossing b walls.2 thickness forced cell other

theorem route_pair_offers (a b : Room Rat) (walls : Wall × Wall) (thickness : Rat) :
    (∀ proposal, routePair raster crossing a b walls thickness false = some proposal →
        Offers raster crossing a b thickness walls proposal)
      ∧ (routePair raster crossing a b walls thickness false = none →
        ∀ source ∈ doorCells raster crossing a walls.1 thickness false,
          ∀ goal ∈ doorCells raster crossing b walls.2 thickness false,
            ∀ path, ¬ Leads (raster.Passable crossing false) [source.cell] [goal.cell] path) := by
  constructor
  · intro proposal made
    obtain ⟨source, sourceListed, goal, goalListed, path, searched, starts, ends, rfl⟩ :=
      route_pair_doors raster crossing a b walls thickness false proposal made
    obtain ⟨_, _, steps, inner⟩ := GridPath.shortest_leads path searched
    exact .path source sourceListed goal goalListed path
      ⟨⟨_, List.mem_singleton_self _, starts⟩, ⟨_, List.mem_singleton_self _, ends⟩, steps,
        fun cell between => (inner cell between).1⟩
  · intro none source sourceListed goal goalListed path leads
    have searched := (route_pair_none_iff raster crossing a b walls thickness false).mp none
    refine (GridPath.shortest_none_iff _ _ (door_cells_on_map raster crossing a b walls thickness false)).mp searched path
      (leads.mono (fun cell passes => .inl passes) ?_ ?_)
    · exact List.cons_subset.mpr ⟨List.mem_map_of_mem sourceListed, List.nil_subset _⟩
    · exact List.cons_subset.mpr ⟨List.mem_map_of_mem goalListed, List.nil_subset _⟩

end Grid

end Floorplan

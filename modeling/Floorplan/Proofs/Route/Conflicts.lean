import Floorplan.Proofs.Index.Search
import Floorplan.Proofs.Route.Call

set_option autoImplicit false

namespace Floorplan

theorem distinct_ignoring {β : Type} [DecidableEq β] (values later : List β) (own : β) (counts : β → Bool)
    (absent : own ∉ values) (only : ∀ value ∈ later, value = own) :
    ((values ++ later).eraseDups.filter fun value => value != own && counts value) =
      values.eraseDups.filter counts := by
  have ignored : ((later.removeAll values).eraseDups.filter fun value => value != own && counts value) = [] := by
    rw [List.filter_eq_nil_iff]
    intro value member
    have same := only value (List.mem_of_mem_filter (List.mem_eraseDups.mp member))
    simp [same]
  rw [List.eraseDups_append, List.filter_append, ignored, List.append_nil]
  apply List.filter_congr
  intro value member
  have different : value ≠ own := fun same => absent (same ▸ List.mem_eraseDups.mp member)
  simp [different]

variable {α : Type} [Coord α]

namespace RouteRules

variable (rules : RouteRules α)

def guards (occupant : Occupant) : Bool := occupant.isRoom || !rules.crossing.allows

def rectConflicts (entries : List (Reservation α)) (rect : Rect α) : Nat :=
  (if rules.bounds.containsRect rect then 0 else 1)
    + (((entries.filter fun entry => entry.rect.overlaps rect).map
        (·.occupant)).eraseDups.filter rules.guards).length

def conflicts (edge : Edge α) (proposal : Proposal α) (board : RouteBoard α) : Nat :=
  rules.doorConflicts board.rooms edge.a proposal.doors.1
    + rules.doorConflicts board.rooms edge.b proposal.doors.2
    + (proposal.geometry.rects.map (rules.rectConflicts board.index.entries.toList)).sum

theorem door_conflicts_pushed (edge : Edge α) (doors : Door α × Door α) (board : RouteBoard α) (id : RoomId)
    (door : Door α) :
    rules.doorConflicts (board.pushDoors edge doors).rooms id door = rules.doorConflicts board.rooms id door := by
  simp only [doorConflicts, RouteBoard.pushDoors, Array.getElem?_modify]
  cases board.rooms[id.index]? with
  | none => simp
  | some room =>
      by_cases first : edge.a.index = id.index <;> by_cases second : edge.b.index = id.index <;>
        simp only [first, second, ↓reduceIte, Option.map_some] <;> rfl

variable [LawfulCoord α]

theorem area_conflicts_eq (index : SpatialIndex α) (searchable : index.Searchable)
    (entries later : List (Reservation α)) (split : index.entries.toList = entries ++ later) (own : Occupant)
    (absent : ∀ entry ∈ entries, entry.occupant ≠ own) (only : ∀ entry ∈ later, entry.occupant = own)
    (rect : Rect α) (sized : rect.Sized) :
    rules.areaConflicts index own rect = rules.rectConflicts entries rect := by
  have met := distinct_ignoring ((entries.filter fun entry => entry.rect.overlaps rect).map (·.occupant))
    ((later.filter fun entry => entry.rect.overlaps rect).map (·.occupant)) own rules.guards
    (by
      intro member
      obtain ⟨entry, passed, same⟩ := List.mem_map.mp member
      exact absent entry (List.mem_of_mem_filter passed) same)
    (by
      intro occupant member
      obtain ⟨entry, passed, rfl⟩ := List.mem_map.mp member
      exact only entry (List.mem_of_mem_filter passed))
  rw [← List.map_append, ← List.filter_append] at met
  rw [areaConflicts, SpatialIndex.overlapping_eq index searchable rect sized, split]
  exact congrArg (fun occupants => _ + List.length occupants) met

theorem reserve_counting_eq (rects : List (Rect α)) (counted : Nat) (board : RouteBoard α)
    (searchable : board.index.Searchable) (sized : ∀ rect ∈ rects, rect.Sized)
    (entries later : List (Reservation α)) (split : board.index.entries.toList = entries ++ later)
    (absent : ∀ entry ∈ entries, entry.occupant ≠ board.occupant)
    (only : ∀ entry ∈ later, entry.occupant = board.occupant) :
    (rules.reserveCounting rects counted board).1 =
      counted + (rects.map (rules.rectConflicts entries)).sum := by
  -- the pieces entered so far carry the occupant of the board, which is never counted
  induction rects generalizing counted board later with
  | nil => rfl
  | cons rect rest ih =>
      have rectSized := sized rect (by simp)
      have here := rules.area_conflicts_eq board.index searchable entries later split board.occupant absent only
        rect rectSized
      have grown : (board.index.reserve rect board.occupant).entries.toList =
          entries ++ (later ++ [{ rect, occupant := board.occupant }]) := by
        rw [← List.append_assoc, ← split]
        exact Array.toList_push
      rw [reserveCounting, ih _ (board.reserve rect board.occupant)
        (board.index.reserve_searchable searchable rect rectSized board.occupant)
        (fun other member => sized other (by simp [member])) _ grown absent ?_, here, List.map_cons, List.sum_cons]
      · omega
      · intro entry member
        rcases List.mem_append.mp member with earlier | last
        · exact only entry earlier
        · rw [List.mem_singleton.mp last]
          rfl

theorem try_reserve_conflicts (edge : Edge α) (proposal : Proposal α) (board : RouteBoard α)
    (searchable : board.index.Searchable) (sized : ∀ rect ∈ proposal.geometry.rects, rect.Sized)
    (fresh : ∀ entry ∈ board.index.entries.toList, entry.occupant ≠ board.occupant) :
    (rules.tryReserve edge proposal board).1 = rules.conflicts edge proposal board := by
  have counted := rules.reserve_counting_eq proposal.geometry.rects
    (rules.doorConflicts board.rooms edge.a proposal.doors.1
      + rules.doorConflicts board.rooms edge.b proposal.doors.2)
    (board.pushDoors edge proposal.doors) searchable sized board.index.entries.toList []
    (by simp [RouteBoard.pushDoors]) fresh (by simp)
  rw [conflicts, ← counted, tryReserve]
  simp only [door_conflicts_pushed]
  split
  next clear => exact clear.symm
  next => rfl

end RouteRules

end Floorplan

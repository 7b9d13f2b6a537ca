import Floorplan.Proofs.Grid.Everywhere
import Floorplan.Proofs.Words.Raster
import Floorplan.Words.Path

set_option autoImplicit false

namespace Floorplan.Words

open GridPath (Label Labels Problem Search Visit boxAround neighbours stepsTo walkBack)

section Sound

variable (problem : Problem) (goals : List Nat) (box : CellSpan) (visit : Visit) (search : Search)

theorem steps_sound (cell : Cell) : Sound (stepsTo? box cell) (stepsTo box cell) := by
  refine (word_sound _).bind ((word_sound _).bind ((word_sound _).bind ((word_sound _).bind
    ((word_sound _).bind ((word_sound _).bind ((word_sound _).bind ?_))))))
  have same : (max (box.x0 - cell.x) 0 + max (cell.x - box.x1) 0
      + (max (box.y0 - cell.y) 0 + max (cell.y - box.y1) 0)).toNat = stepsTo box cell := by
    rw [stepsTo]
    omega
  rw [same]
  exact .pure _

theorem neighbours_sound (cell : Cell) : Sound (neighbours? cell) (neighbours cell) :=
  (word_sound _).bind ((word_sound _).bind ((word_sound _).bind ((word_sound _).bind (.pure _))))

theorem label_sound (cell : Cell) (i : Nat) (label : Label) :
    Sound (label? search box cell i label) (search.label i label (stepsTo box cell)) := by
  rw [label?]
  split
  · exact .none _
  · split
    · exact (steps_sound box cell).bind (.pure _)
    next same =>
      rw [Search.label, if_neg same]
      exact .pure search

theorem start_sound (sources : List Cell) :
    Sound (start? problem box sources) (GridPath.start problem box sources) := by
  refine .foldl (fun search cell => (place_sound problem.raster cell).bind ?_) sources _
  cases problem.raster.place? cell with
  | none => exact .pure search
  | some i => exact label_sound box search cell i _

theorem opens_sound (i : Nat) : Sound (opens? problem goals i) (problem.open? goals i) := by
  rw [opens?, Problem.open?]
  split
  next goal =>
    rw [goal]
    exact .pure true
  next other =>
    rw [Bool.not_eq_true] at other
    rw [other]
    cases problem.raster.cells[i]? with
    | none => exact .none _
    | some state => exact .pure _

theorem reach_sound (cell : Cell) :
    Sound (reach? problem goals box visit search cell) (GridPath.reach problem goals box visit search cell) := by
  refine (place_sound problem.raster cell).bind ?_
  rw [GridPath.reach]
  cases problem.raster.place? cell with
  | none => exact .pure search
  | some i =>
      refine (opens_sound problem goals i).bind ?_
      simp only
      split
      · exact label_sound box search cell i _
      · exact .pure search

theorem expand_sound :
    Sound (expand? problem goals box visit search) (GridPath.expand problem goals box visit search) :=
  (cell_at_sound problem.raster visit.place).bind ((neighbours_sound _).bind
    (.foldl (fun search cell => reach_sound problem goals box visit search cell) _ search))

theorem run_sound : Sound (run? problem goals box search) (GridPath.run problem goals box search) := by
  fun_induction run? problem goals box search with
  | case1 search empty =>
      rw [GridPath.run.eq_def, empty]
      exact .pure none
  | case2 search visit queue popped labels turn stale ih =>
      rw [GridPath.run.eq_def, popped]
      simp only
      rw [if_pos stale]
      exact ih
  | case3 search visit queue popped labels current reached =>
      rw [GridPath.run.eq_def, popped]
      simp only
      rw [if_neg current, if_pos reached]
      exact .pure _
  | case4 search visit queue popped labels turn current further broken => exact .none _
  | case5 search visit queue popped labels turn current further later expanded ih =>
      rw [GridPath.run.eq_def, popped]
      simp only
      rw [if_neg current, if_neg further, ← expand_sound problem goals box visit _ later expanded]
      exact ih

theorem goal_places_eq : (problem.goals.map problem.raster.place?).filterMap id = problem.goalPlaces := by
  rw [List.filterMap_map]
  rfl

theorem shortest_sound (sources : List Cell) :
    Sound (shortest? problem sources) (GridPath.shortest problem sources) := by
  rw [shortest?, GridPath.shortest]
  split
  · exact .pure none
  · refine (Sound.mapList problem.goals (place_sound problem.raster)).bind ?_
    refine (start_sound problem _ sources).bind ?_
    rw [goal_places_eq]
    refine (run_sound problem problem.goalPlaces _ _).bind ?_
    simp only
    cases GridPath.run problem problem.goalPlaces (boxAround problem.goals)
      (GridPath.start problem (boxAround problem.goals) sources) with
    | none => exact .pure none
    | some found => exact (Sound.mapList _ (cell_at_sound problem.raster)).bind (.pure _)

end Sound

section Answers

variable {raster : Raster} (framed : Framed raster)

structure BoxOn (raster : Raster) (box : CellSpan) : Prop where
  left : raster.origin.x ≤ box.x0
  top : raster.origin.y ≤ box.y0
  right : box.x1 < raster.origin.x + raster.width
  bottom : box.y1 < raster.origin.y + raster.height
  wide : box.x0 ≤ box.x1
  high : box.y0 ≤ box.y1

include framed

theorem held_in_words (cell : Cell) (held : raster.span.Holds cell) : InWords cell ∧ InReach raster cell := by
  obtain ⟨⟨west, east⟩, north, south⟩ := held
  simp only [Raster.span] at west east north south
  obtain ⟨left, top, right, bottom, _, _, _⟩ := framed
  have least : Number.cellMin ≤ 0 := by decide
  simp only [InReach, InWords]
  omega

theorem box_around_on (cell : Cell) (rest : List Cell) (held : ∀ other ∈ cell :: rest, raster.span.Holds other) :
    BoxOn raster (boxAround (cell :: rest)) := by
  obtain ⟨left, top, right, bottom, _, _, _⟩ := framed
  -- the box of no cells is turned around, and every other one takes it up
  have inside : raster.origin.x ≤ (boxAround rest).x0 ∧ raster.origin.y ≤ (boxAround rest).y0
      ∧ (boxAround rest).x1 < raster.origin.x + raster.width
      ∧ (boxAround rest).y1 < raster.origin.y + raster.height := by
    have others := (List.forall_mem_cons.mp held).2
    clear held
    induction rest with
    | nil =>
        simp only [boxAround]
        omega
    | cons next rest ih =>
        obtain ⟨here, others⟩ := List.forall_mem_cons.mp others
        have box := ih others
        simp only [CellSpan.Holds, Raster.span] at here
        simp only [boxAround]
        omega
  have here := held cell List.mem_cons_self
  simp only [CellSpan.Holds, Raster.span] at here
  simp only [boxAround]
  constructor <;> simp only <;> omega

theorem steps_answers (box : CellSpan) (on : BoxOn raster box) (cell : Cell) (held : raster.span.Holds cell) :
    stepsTo? box cell = some (stepsTo box cell) := by
  apply (steps_sound box cell).eq_some
  obtain ⟨left, top, right, bottom, wide, high⟩ := on
  obtain ⟨⟨west, east⟩, north, south⟩ := held
  simp only [Raster.span] at west east north south
  -- no two cells are farther apart than the map has cells
  have far : (raster.width : Int) + raster.height ≤ Number.cellMax + 1 := by
    have size := framed.cells
    rw [raster.size_cells, Int.natCast_mul] at size
    have corner : 0 ≤ ((raster.width : Int) - 1) * ((raster.height : Int) - 1) :=
      Int.mul_nonneg (by omega) (by omega)
    rw [Int.sub_mul, Int.mul_sub] at corner
    omega
  have least : Number.cellMin ≤ -Number.cellMax := by decide
  simp only [stepsTo?, Option.bind_eq_bind]
  rw [word_eq (box.x0 - cell.x) (by omega) (by omega), Option.bind_some,
    word_eq (cell.x - box.x1) (by omega) (by omega), Option.bind_some, word_eq _ (by omega) (by omega),
    Option.bind_some, word_eq (box.y0 - cell.y) (by omega) (by omega), Option.bind_some,
    word_eq (cell.y - box.y1) (by omega) (by omega), Option.bind_some, word_eq _ (by omega) (by omega),
    Option.bind_some, word_eq _ (by omega) (by omega)]
  rfl

theorem neighbours_answer (cell : Cell) (held : raster.span.Holds cell) :
    neighbours? cell = some (neighbours cell) ∧ ∀ other ∈ neighbours cell, InReach raster other := by
  obtain ⟨⟨west, east⟩, north, south⟩ := held
  simp only [Raster.span] at west east north south
  obtain ⟨left, top, right, bottom, _, _, _⟩ := framed
  have least : Number.cellMin ≤ -1 := by decide
  constructor
  · simp only [neighbours?, Option.bind_eq_bind]
    rw [word_eq (cell.y - 1) (by omega) (by omega), Option.bind_some, word_eq (cell.x + 1) (by omega) (by omega),
      Option.bind_some, word_eq (cell.y + 1) (by omega) (by omega), Option.bind_some,
      word_eq (cell.x - 1) (by omega) (by omega)]
    rfl
  · intro other beside
    simp only [neighbours, List.mem_cons, List.not_mem_nil, or_false] at beside
    rcases beside with rfl | rfl | rfl | rfl <;> simp only [InReach, InWords] <;> omega

end Answers

section Search

variable {problem : Problem} (framed : Framed problem.raster)

structure Ranged (problem : Problem) (search : Search) : Prop where
  size : search.labels.size = problem.raster.cells.size
  within : search.Within (· < problem.raster.cells.size)

include framed

theorem label_answers (box : CellSpan) (on : BoxOn problem.raster box) (cell : Cell) (i : Nat)
    (placed : problem.raster.place? cell = some i) (label : Label)
    (previous : ∀ before, label.previous = some before → before < problem.raster.cells.size) (search : Search)
    (ranged : Ranged problem search) :
    label? search box cell i label = some (search.label i label (stepsTo box cell))
      ∧ Ranged problem (search.label i label (stepsTo box cell)) := by
  have inRange := problem.raster.place_lt cell i placed
  have held := problem.raster.held_of_place cell i placed
  have size := ranged.size
  constructor
  · apply (label_sound box search cell i label).eq_some
    rw [label?, if_neg (by omega), steps_answers framed box on cell held]
    split <;> rfl
  · exact ⟨(GridPath.label_size search i label _).trans ranged.size,
      ranged.within.label i label _ inRange previous⟩

theorem start_answers (box : CellSpan) (on : BoxOn problem.raster box) (sources : List Cell)
    (reach : ∀ cell ∈ sources, InReach problem.raster cell) :
    start? problem box sources = some (GridPath.start problem box sources)
      ∧ Ranged problem (GridPath.start problem box sources) := by
  refine fold_answers (Ranged problem) sources (fun search cell listed ranged => ?_) _ ?_
  · rw [place_answers framed.cells cell (reach cell listed)]
    cases placed : problem.raster.place? cell with
    | none => exact ⟨rfl, ranged⟩
    | some i => exact label_answers framed box on cell i placed _ (fun _ same => by cases same) search ranged
  · refine ⟨Array.size_replicate, ?_, fun visit queued => absurd queued List.not_mem_nil⟩
    intro i label read
    rw [Array.getElem?_replicate] at read
    split at read <;> cases read

theorem reach_answers (goals : List Nat) (box : CellSpan) (on : BoxOn problem.raster box) (visit : Visit)
    (place : visit.place < problem.raster.cells.size) (search : Search) (ranged : Ranged problem search) (cell : Cell)
    (near : InReach problem.raster cell) :
    reach? problem goals box visit search cell = some (GridPath.reach problem goals box visit search cell)
      ∧ Ranged problem (GridPath.reach problem goals box visit search cell) := by
  rw [reach?, place_answers framed.cells cell near, GridPath.reach]
  cases placed : problem.raster.place? cell with
  | none => exact ⟨rfl, ranged⟩
  | some i =>
      have opens : opens? problem goals i = some (problem.open? goals i) := by
        apply (opens_sound problem goals i).eq_some
        rw [opens?, Array.getElem?_eq_getElem (problem.raster.place_lt cell i placed)]
        split <;> rfl
      have labelled :=
        label_answers framed box on cell i placed { cost := visit.cost + 1, previous := some visit.place }
        (fun before same => Option.some.inj same ▸ place) search ranged
      change (opens? problem goals i).bind _ = _ ∧ _
      rw [opens, Option.bind_some]
      simp only
      split
      · exact labelled
      · exact ⟨rfl, ranged⟩

theorem expand_answers (goals : List Nat) (box : CellSpan) (on : BoxOn problem.raster box) (visit : Visit)
    (place : visit.place < problem.raster.cells.size) (search : Search) (ranged : Ranged problem search) :
    expand? problem goals box visit search = some (GridPath.expand problem goals box visit search)
      ∧ Ranged problem (GridPath.expand problem goals box visit search) := by
  have held := problem.raster.held_of_place _ _ (problem.raster.place_cell_at visit.place place)
  obtain ⟨next, near⟩ := neighbours_answer framed _ held
  rw [expand?, cell_at_answers framed visit.place place]
  change (neighbours? (problem.raster.cellAt visit.place)).bind _ = _ ∧ _
  rw [next]
  exact fold_answers (Ranged problem) _
    (fun search cell beside ranged =>
      reach_answers framed goals box on visit place search ranged cell (near cell beside))
    search ranged

theorem run_answers (goals : List Nat) (box : CellSpan) (on : BoxOn problem.raster box) (search : Search)
    (ranged : Ranged problem search) :
    run? problem goals box search = some (GridPath.run problem goals box search)
      ∧ ∀ labels goal, GridPath.run problem goals box search = some (labels, goal) →
        goal < problem.raster.cells.size ∧ ∀ (i : Nat) (label : Label), labels[i]? = some (some label) →
          ∀ before, label.previous = some before → before < problem.raster.cells.size := by
  fun_induction GridPath.run problem goals box search with
  | case1 search empty =>
      rw [run?.eq_def, empty]
      exact ⟨rfl, fun _ _ found => by cases found⟩
  | case2 search visit queue popped labels turn stale ih =>
      rw [run?.eq_def, popped]
      simp only
      rw [if_pos stale]
      exact ih ⟨ranged.size, (ranged.within.pop visit queue popped).2⟩
  | case3 search visit queue popped labels current reached =>
      rw [run?.eq_def, popped]
      simp only
      rw [if_neg current, if_pos reached]
      refine ⟨rfl, fun final goal found => ?_⟩
      obtain ⟨rfl, rfl⟩ := Prod.mk.inj (Option.some.inj found)
      exact ⟨(ranged.within.pop visit queue popped).1, ranged.within.labels⟩
  | case4 search visit queue popped labels turn current further ih =>
      obtain ⟨place, rest⟩ := ranged.within.pop visit queue popped
      obtain ⟨answered, ranged⟩ :=
        expand_answers framed goals box on visit place { labels, queue, turn } ⟨ranged.size, rest⟩
      rw [run?.eq_def, popped]
      simp only
      rw [if_neg current, if_neg further]
      split
      next broken =>
        rw [answered] at broken
        cases broken
      next later expanded =>
        rw [answered] at expanded
        obtain rfl := Option.some.inj expanded
        exact ih ranged

theorem shortest_answers (sources : List Cell) (fromMap : ∀ cell ∈ sources, problem.raster.span.Holds cell)
    (toMap : ∀ cell ∈ problem.goals, problem.raster.span.Holds cell) :
    shortest? problem sources = some (GridPath.shortest problem sources) := by
  apply (shortest_sound problem sources).eq_some
  rw [shortest?]
  split
  · rfl
  next given =>
    have goals : problem.goals ≠ [] := by
      intro empty
      simp [empty] at given
    obtain ⟨goal, rest, listed⟩ := List.exists_cons_of_ne_nil goals
    have on := listed ▸ box_around_on framed goal rest (listed ▸ toMap)
    have places := map_answers problem.goals fun cell wanted =>
      place_answers framed.cells cell (held_in_words framed cell (toMap cell wanted)).2
    obtain ⟨started, ranged⟩ := start_answers framed _ on sources fun cell listed =>
      (held_in_words framed cell (fromMap cell listed)).2
    obtain ⟨ran, inRange⟩ := run_answers framed problem.goalPlaces _ on _ ranged
    simp only [Option.bind_eq_bind]
    rw [places, Option.bind_some, started, Option.bind_some, goal_places_eq, ran, Option.bind_some]
    cases found : GridPath.run problem problem.goalPlaces (boxAround problem.goals)
      (GridPath.start problem (boxAround problem.goals) sources) with
    | none => rfl
    | some final =>
        obtain ⟨place, previous⟩ := inRange final.1 final.2 found
        have path :=
          GridPath.walk_back_allowed _ final.1 previous ((final.1.cost? final.2).getD 0) final.2 [] place (by simp)
        simp only
        rw [map_answers _ fun i listed => cell_at_answers framed i (path i listed)]
        rfl

end Search

end Floorplan.Words

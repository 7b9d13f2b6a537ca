import Mathlib.Data.List.Chain
import Floorplan.Proofs.Grid.Search

set_option autoImplicit false

namespace Floorplan

def Raster.Passable (raster : Raster) (crossing : CrossingPolicy) (forced : Bool) (cell : Cell) : Prop :=
  ∃ state, raster.state? cell = some state ∧ state.passable crossing forced = true

namespace GridPath

def Beside (c d : Cell) : Prop := d ∈ neighbours c

-- A path from one of the sources to one of the goals, each step of which leads to a cell beside the last.
structure Leads (between : Cell → Prop) (sources goals path : List Cell) : Prop where
  first : ∃ cell ∈ sources, path.head? = some cell
  last : ∃ cell ∈ goals, path.getLast? = some cell
  steps : path.IsChain Beside
  inner : ∀ cell ∈ path.tail.dropLast, between cell

theorem Leads.mono {between wider : Cell → Prop} {sources goals moreSources moreGoals path : List Cell}
    (leads : Leads between sources goals path) (wide : ∀ cell, between cell → wider cell)
    (fromMore : sources ⊆ moreSources) (toMore : goals ⊆ moreGoals) : Leads wider moreSources moreGoals path := by
  obtain ⟨⟨source, listed, starts⟩, ⟨goal, wanted, ends⟩, steps, inner⟩ := leads
  exact ⟨⟨source, fromMore listed, starts⟩, ⟨goal, toMore wanted, ends⟩, steps,
    fun cell member => wide cell (inner cell member)⟩

def Labels.label? (labels : Labels) (i : Nat) : Option Label := labels[i]?.join

theorem improves_iff (labels : Labels) (i cost : Nat) :
    labels.improves i cost = true ↔ i < labels.size ∧ ∀ old, labels.label? i = some old → cost < old.cost := by
  rw [Labels.improves, Labels.label?]
  cases found : labels[i]? with
  | none => simp only [Nat.not_lt.mpr (Array.getElem?_eq_none_iff.mp found), Bool.false_eq_true, false_and]
  | some entry =>
      have inRange := (Array.getElem?_eq_some_iff.mp found).1
      cases entry with
      | none => simp only [inRange, Option.join_some, reduceCtorEq, false_implies, implies_true, and_self]
      | some old => simp only [inRange, Option.join_some, decide_eq_true_eq, Option.some.injEq, forall_eq', true_and]

theorem label_reads (search : Search) (i : Nat) (label : Label) (rest j : Nat) :
    (search.label i label rest).labels.label? j =
      if j = i ∧ search.labels.improves i label.cost = true then some label else search.labels.label? j := by
  rw [Search.label]
  by_cases better : search.labels.improves i label.cost = true
  · simp only [better, if_true, and_true, Labels.label?, Array.getElem?_setIfInBounds]
    by_cases here : i = j
    · have inRange := ((improves_iff _ _ _).mp better).1
      simp [here, here ▸ inRange]
    · simp [here, Ne.symm here]
  · simp only [better, Bool.false_eq_true, if_false, and_false]

theorem label_queues (search : Search) (i : Nat) (label : Label) (rest : Nat) (visit : Visit) :
    visit ∈ (search.label i label rest).queue.toList ↔
      visit ∈ search.queue.toList ∨ search.labels.improves i label.cost = true
        ∧ visit = { estimate := label.cost + rest, cost := label.cost, turn := search.turn, place := i } := by
  rw [Search.label]
  by_cases better : search.labels.improves i label.cost = true
  · simp only [better, if_true, true_and]
    exact Heap.push_mem _ _ _ visit
  · simp only [better, Bool.false_eq_true, if_false, false_and, or_false]

theorem label_size (search : Search) (i : Nat) (label : Label) (rest : Nat) :
    (search.label i label rest).labels.size = search.labels.size := by
  rw [Search.label]
  split
  · exact Array.size_setIfInBounds
  · rfl

theorem label_shortens (search : Search) (i : Nat) (label : Label) (rest j : Nat) (old : Label)
    (read : search.labels.label? j = some old) :
    ∃ new, (search.label i label rest).labels.label? j = some new ∧ new.cost ≤ old.cost := by
  rw [label_reads]
  split
  next here =>
    obtain ⟨rfl, better⟩ := here
    exact ⟨label, rfl, Nat.le_of_lt (((improves_iff _ _ _).mp better).2 old read)⟩
  next => exact ⟨old, read, Nat.le_refl _⟩

variable (problem : Problem) (sources : List Cell)

inductive Reached (labels : Labels) (i : Nat) : Label → Prop
  | source (cell : Cell) (listed : cell ∈ sources) (placed : problem.raster.place? cell = some i) :
      Reached labels i { cost := 0, previous := none }
  | step (before cost : Nat) (earlier : Label) (opens : problem.open? problem.goalPlaces i = true)
      (noGoal : problem.goalPlaces.contains before = false)
      (beside : Beside (problem.raster.cellAt before) (problem.raster.cellAt i))
      (read : labels.label? before = some earlier) (longer : earlier.cost < cost) :
      Reached labels i { cost, previous := some before }

def Traced (labels : Labels) : Prop :=
  ∀ i label, labels.label? i = some label → Reached problem sources labels i label

inductive Trail (labels : Labels) : Nat → List Nat → Prop
  | first (i : Nat) (start : (labels.label? i).bind (·.previous) = none) : Trail labels i [i]
  | next (before i : Nat) (trail : List Nat) (earlier : Trail labels before trail)
      (read : (labels.label? i).bind (·.previous) = some before) : Trail labels i (trail ++ [i])

inductive Walk : Nat → List Nat → Prop
  | source (i : Nat) (cell : Cell) (listed : cell ∈ sources) (placed : problem.raster.place? cell = some i) :
      Walk i [i]
  | step (before i : Nat) (walk : List Nat) (earlier : Walk before walk)
      (opens : problem.open? problem.goalPlaces i = true) (noGoal : problem.goalPlaces.contains before = false)
      (beside : Beside (problem.raster.cellAt before) (problem.raster.cellAt i)) : Walk i (walk ++ [i])

variable {problem sources}

theorem label_traced (search : Search) (traced : Traced problem sources search.labels) (i : Nat) (label : Label)
    (rest : Nat) (reached : Reached problem sources search.labels i label) :
    Traced problem sources (search.label i label rest).labels := by
  have kept : ∀ j old, Reached problem sources search.labels j old →
      Reached problem sources (search.label i label rest).labels j old := by
    intro j old before
    cases before with
    | source cell listed placed => exact .source cell listed placed
    | step before cost earlier opens noGoal beside read longer =>
        obtain ⟨new, newRead, shorter⟩ := label_shortens search i label rest before earlier read
        exact .step before cost new opens noGoal beside newRead (Nat.lt_of_le_of_lt shorter longer)
  intro j found read
  rw [label_reads] at read
  split at read
  next here =>
    obtain rfl := Option.some.inj read
    exact here.1 ▸ kept i label reached
  next => exact kept j found (traced j found read)

theorem start_traced (box : CellSpan) : Traced problem sources (start problem box sources).labels := by
  rw [start]
  refine List.foldlRecOn (motive := fun search : Search => Traced problem sources search.labels) sources _ ?_
    fun search traced cell listed => ?_
  · intro i label read
    simp only [Labels.label?, Array.getElem?_replicate] at read
    split at read <;> cases read
  · split
    next => exact traced
    next i placed => exact label_traced search traced i _ _ (.source cell listed placed)

theorem expand_traced (box : CellSpan) (visit : Visit) (noGoal : problem.goalPlaces.contains visit.place = false)
    (search : Search) (traced : Traced problem sources search.labels)
    (visited : ∃ label, search.labels.label? visit.place = some label ∧ label.cost ≤ visit.cost) :
    Traced problem sources (expand problem problem.goalPlaces box visit search).labels := by
  rw [expand]
  refine (List.foldlRecOn (motive := fun search : Search => Traced problem sources search.labels
    ∧ ∃ label, search.labels.label? visit.place = some label ∧ label.cost ≤ visit.cost) _ _ ⟨traced, visited⟩
    fun search kept cell listed => ?_).1
  obtain ⟨traced, label, read, short⟩ := kept
  rw [reach]
  split
  next => exact ⟨traced, label, read, short⟩
  next i placed =>
    split
    next opens =>
      have beside : Beside (problem.raster.cellAt visit.place) (problem.raster.cellAt i) := by
        rw [problem.raster.cell_at_place cell i placed]
        exact listed
      constructor
      · exact label_traced search traced i _ _
          (.step visit.place _ label opens noGoal beside read (Nat.lt_succ_of_le short))
      · obtain ⟨new, newRead, shorter⟩ := label_shortens search i
          { cost := visit.cost + 1, previous := some visit.place } (stepsTo box cell) visit.place label read
        exact ⟨new, newRead, Nat.le_trans shorter short⟩
    next => exact ⟨traced, label, read, short⟩

theorem run_traced (box : CellSpan) (search : Search) (traced : Traced problem sources search.labels)
    (final : Labels) (goal : Nat) (found : run problem problem.goalPlaces box search = some (final, goal)) :
    Traced problem sources final ∧ problem.goalPlaces.contains goal = true
      ∧ ∃ label, final.label? goal = some label := by
  fun_induction run problem problem.goalPlaces box search with
  | case1 search none => cases found
  | case2 search visit queue popped labels turn stale ih => exact ih traced found
  | case3 search visit queue popped labels current reached =>
      obtain ⟨rfl, rfl⟩ := Prod.mk.inj (Option.some.inj found)
      obtain ⟨label, read, _⟩ := Option.map_eq_some_iff.mp (Decidable.not_not.mp current)
      exact ⟨traced, reached, label, read⟩
  | case4 search visit queue popped labels turn current further ih =>
      obtain ⟨label, read, cost⟩ := Option.map_eq_some_iff.mp (Decidable.not_not.mp current)
      exact ih (expand_traced box visit (Bool.eq_false_iff.mpr further) _ traced
        ⟨label, read, Nat.le_of_eq cost⟩) found

-- A label of cost 0 is that of a source, so a walk of as many steps as the cost comes to an end, and the number of
-- steps that it is given does not matter.
theorem walk_back_trail (labels : Labels) (traced : Traced problem sources labels) (steps i : Nat) (label : Label)
    (path : List Nat) (read : labels.label? i = some label) (enough : label.cost ≤ steps) :
    ∃ trail, Trail labels i trail ∧ trail.length ≤ label.cost + 1 ∧ walkBack labels steps i path = trail ++ path := by
  induction steps generalizing i label path with
  | zero =>
      cases traced i label read with
      | source cell listed placed => exact ⟨[i], .first i (congrArg (Option.bind · _) read), Nat.le_refl _, rfl⟩
      | step before cost earlier _ _ _ _ longer => exact absurd (Nat.lt_of_lt_of_le longer enough) (Nat.not_lt_zero _)
  | succ steps ih =>
      have previous : (labels.label? i).bind (·.previous) = label.previous := congrArg (Option.bind · _) read
      have here : (labels[i]?.join).bind (·.previous) = label.previous := previous
      rw [walkBack, here]
      cases traced i label read with
      | source cell listed placed => exact ⟨[i], .first i previous, Nat.le_refl _, rfl⟩
      | step before cost earlier opens noGoal beside earlierRead longer =>
          obtain ⟨trail, followed, short, walked⟩ := ih before earlier (i :: path) earlierRead
            (Nat.le_of_lt_succ (Nat.lt_of_lt_of_le longer enough))
          refine ⟨trail ++ [i], .next before i trail followed previous, ?_, ?_⟩
          · rw [List.length_append, List.length_singleton]
            exact Nat.succ_le_succ (Nat.le_trans short longer)
          · rw [List.append_assoc]
            exact walked

namespace Trail

variable {labels : Labels} {i : Nat} {places : List Nat} (trail : Trail labels i places)
  (traced : Traced problem sources labels) (label : Label) (read : labels.label? i = some label)

include trail traced read

theorem walk : Walk problem sources i places := by
  induction trail generalizing label with
  | first i start =>
      rw [read, Option.bind_some] at start
      cases traced i label read with
      | source cell listed placed => exact .source i cell listed placed
      | step before cost earlier _ _ _ _ _ => cases start
  | next before i trail _ previous ih =>
      rw [read, Option.bind_some] at previous
      cases traced i label read with
      | source cell listed placed => cases previous
      | step _ cost earlier opens noGoal beside earlierRead longer =>
          cases previous
          exact .step before i trail (ih earlier earlierRead) opens noGoal beside

theorem falls : places.Nodup ∧ ∀ j ∈ places, ∃ old, labels.label? j = some old ∧ old.cost ≤ label.cost := by
  induction trail generalizing label with
  | first i start => exact ⟨List.nodup_singleton i, fun j here =>
      ⟨label, List.mem_singleton.mp here ▸ read, Nat.le_refl _⟩⟩
  | next before i trail _ previous ih =>
      rw [read, Option.bind_some] at previous
      cases traced i label read with
      | source cell listed placed => cases previous
      | step _ cost earlier opens noGoal beside earlierRead longer =>
          cases previous
          obtain ⟨once, lower⟩ := ih earlier earlierRead
          constructor
          · refine List.nodup_append.mpr ⟨once, List.nodup_singleton i, fun j member k here same => ?_⟩
            obtain ⟨old, oldRead, short⟩ := lower j member
            rw [same, List.mem_singleton.mp here, read] at oldRead
            obtain rfl := Option.some.inj oldRead
            exact absurd longer (Nat.not_lt.mpr short)
          · intro j member
            rcases List.mem_append.mp member with old | here
            · obtain ⟨old, oldRead, short⟩ := lower j old
              exact ⟨old, oldRead, Nat.le_of_lt (Nat.lt_of_le_of_lt short longer)⟩
            · exact ⟨_, List.mem_singleton.mp here ▸ read, Nat.le_refl _⟩

end Trail

theorem Walk.first {i : Nat} {walk : List Nat} (walked : Walk problem sources i walk) :
    ∃ cell ∈ sources, ∃ j rest, walk = j :: rest ∧ problem.raster.place? cell = some j := by
  induction walked with
  | source i cell listed placed => exact ⟨cell, listed, i, [], rfl, placed⟩
  | step before i walk _ _ _ _ ih =>
      obtain ⟨cell, listed, j, rest, rfl, placed⟩ := ih
      exact ⟨cell, listed, j, rest ++ [i], rfl, placed⟩

theorem Walk.last {i : Nat} {walk : List Nat} (walked : Walk problem sources i walk) : walk.getLast? = some i := by
  cases walked with
  | source cell listed placed => rfl
  | step before walk => exact List.getLast?_concat

theorem Walk.steps {i : Nat} {walk : List Nat} (walked : Walk problem sources i walk) :
    (walk.map problem.raster.cellAt).IsChain Beside := by
  induction walked with
  | source i cell listed placed => exact .singleton _
  | step before i walk earlier _ _ beside ih =>
      rw [List.map_append, List.isChain_append]
      refine ⟨ih, .singleton _, fun x xLast y yFirst => ?_⟩
      rw [List.getLast?_map, earlier.last] at xLast
      obtain rfl := Option.some.inj xLast
      obtain rfl := Option.some.inj yFirst
      exact beside

theorem Walk.opened {i : Nat} {walk : List Nat} (walked : Walk problem sources i walk) :
    ∀ j ∈ walk.tail, problem.open? problem.goalPlaces j = true := by
  induction walked with
  | source i cell listed placed => exact fun j member => absurd member List.not_mem_nil
  | step before i walk earlier opens _ _ ih =>
      obtain ⟨_, _, j, rest, rfl, _⟩ := earlier.first
      intro k member
      rcases List.mem_append.mp member with old | new
      · exact ih k old
      · exact List.mem_singleton.mp new ▸ opens

theorem Walk.no_goal {i : Nat} {walk : List Nat} (walked : Walk problem sources i walk) :
    ∀ j ∈ walk.dropLast, problem.goalPlaces.contains j = false := by
  induction walked with
  | source i cell listed placed => exact fun j member => absurd member List.not_mem_nil
  | step before i walk earlier _ noGoal _ ih =>
      intro k member
      rw [List.dropLast_concat] at member
      rw [← List.dropLast_append_getLast? before earlier.last] at member
      rcases List.mem_append.mp member with old | new
      · exact ih k old
      · exact List.mem_singleton.mp new ▸ noGoal

def Problem.Clear (problem : Problem) (cell : Cell) : Prop :=
  problem.raster.Passable problem.crossing problem.forced cell ∧ cell ∉ problem.goals

theorem goal_place (cell : Cell) (goal : cell ∈ problem.goals) (i : Nat)
    (placed : problem.raster.place? cell = some i) :
    problem.goalPlaces.contains i = true :=
  List.contains_iff_mem.mpr (List.mem_filterMap.mpr ⟨cell, goal, placed⟩)

theorem open_clear (i : Nat) (opens : problem.open? problem.goalPlaces i = true)
    (noGoal : problem.goalPlaces.contains i = false) : problem.Clear (problem.raster.cellAt i) := by
  rw [Problem.open?, noGoal, Bool.false_or] at opens
  split at opens
  next => cases opens
  next state read =>
    have inRange := (Array.getElem?_eq_some_iff.mp read).1
    refine ⟨⟨state, (problem.raster.state_cell_at i inRange).trans read, opens⟩, fun goal => ?_⟩
    rw [goal_place _ goal i (problem.raster.place_cell_at i inRange)] at noGoal
    cases noGoal

theorem goal_cell (i : Nat) (goal : problem.goalPlaces.contains i = true) :
    problem.raster.cellAt i ∈ problem.goals := by
  obtain ⟨cell, listed, placed⟩ := List.mem_filterMap.mp (List.contains_iff_mem.mp goal)
  rw [problem.raster.cell_at_place cell i placed]
  exact listed

theorem Walk.leads {i : Nat} {walk : List Nat} (walked : Walk problem sources i walk)
    (goal : problem.goalPlaces.contains i = true) :
    Leads problem.Clear sources problem.goals (walk.map problem.raster.cellAt) := by
  refine ⟨?_, ⟨_, goal_cell i goal, ?_⟩, walked.steps, ?_⟩
  · obtain ⟨cell, listed, j, rest, rfl, placed⟩ := walked.first
    exact ⟨cell, listed, congrArg some (problem.raster.cell_at_place cell j placed)⟩
  · rw [List.getLast?_map, walked.last]
    rfl
  · intro cell member
    rw [← List.map_tail, ← List.map_dropLast] at member
    obtain ⟨j, inner, rfl⟩ := List.mem_map.mp member
    refine open_clear j (walked.opened j (List.dropLast_subset _ inner)) (walked.no_goal j ?_)
    rw [← List.tail_dropLast] at inner
    exact List.mem_of_mem_tail inner

theorem shortest_trail (path : List Cell) (found : shortest problem sources = some path) :
    ∃ labels goal label places,
      run problem problem.goalPlaces (boxAround problem.goals) (start problem (boxAround problem.goals) sources)
          = some (labels, goal)
        ∧ Traced problem sources labels ∧ problem.goalPlaces.contains goal = true ∧ labels.label? goal = some label
        ∧ Trail labels goal places ∧ places.length ≤ label.cost + 1 ∧ path = places.map problem.raster.cellAt := by
  rw [shortest] at found
  split at found
  next => cases found
  next =>
    simp only at found
    split at found
    next => cases found
    next labels goal searched =>
      obtain rfl := Option.some.inj found
      obtain ⟨traced, reached, label, read⟩ := run_traced _ _ (start_traced _) labels goal searched
      have cost : (labels.cost? goal).getD 0 = label.cost :=
        congrArg (fun label => (Option.map Label.cost label).getD 0) read
      obtain ⟨places, trail, short, walked⟩ :=
        walk_back_trail labels traced label.cost goal label [] read (Nat.le_refl _)
      rw [List.append_nil] at walked
      exact ⟨labels, goal, label, places, searched, traced, reached, read, trail, short, by rw [cost, walked]⟩

theorem shortest_leads (path : List Cell) (found : shortest problem sources = some path) :
    Leads problem.Clear sources problem.goals path := by
  obtain ⟨labels, goal, label, places, _, traced, reached, read, trail, _, rfl⟩ := shortest_trail path found
  exact (trail.walk traced label read).leads reached

theorem shortest_once (path : List Cell) (found : shortest problem sources = some path) : path.Nodup := by
  obtain ⟨labels, goal, label, places, _, traced, _, read, trail, _, rfl⟩ := shortest_trail path found
  exact (trail.falls traced label read).1.map problem.raster.cell_at_injective

end GridPath

end Floorplan

import Floorplan.Proofs.Grid.Everywhere

/-!
The search finds the nearest goal. Visits are made in the order of their estimates, and no step brings a place more
than a step nearer to the goals, so when the first goal is visited no path can be shorter than the one to it.
-/

set_option autoImplicit false

namespace Floorplan

namespace Heap

variable {β : Type} {le : β → β → Bool}

inductive Ordered (le : β → β → Bool) : Heap β → Prop
  | empty : Ordered le .empty
  | node (rank : Nat) (first : β) (left right : Heap β) (least : ∀ x ∈ left.toList ++ right.toList, le first x = true)
      (leftOrdered : Ordered le left) (rightOrdered : Ordered le right) : Ordered le (.node rank first left right)

theorem Ordered.graft {first : β} {a b : Heap β} (least : ∀ x ∈ a.toList ++ b.toList, le first x = true)
    (aOrdered : Ordered le a) (bOrdered : Ordered le b) : Ordered le (graft first a b) := by
  rw [Heap.graft]
  split
  · exact .node _ _ _ _ least aOrdered bOrdered
  · exact .node _ _ _ _ (fun x member => least x (List.perm_append_comm.mem_iff.mp member)) bOrdered aOrdered

section

variable (trans : ∀ x y z, le x y = true → le y z = true → le x z = true)
  (total : ∀ x y, (le x y || le y x) = true)

include trans total

omit total in
theorem Ordered.above {rank : Nat} {first x : β} {left right : Heap β}
    (ordered : Ordered le (.node rank first left right))
    (before : le x first = true) : ∀ y ∈ (Heap.node rank first left right).toList, le x y = true := by
  cases ordered with
  | node _ _ _ _ least =>
      intro y member
      rcases List.mem_cons.mp member with rfl | below
      · exact before
      · exact trans _ _ _ before (least y below)

theorem Ordered.meld {a b : Heap β} (aOrdered : Ordered le a) (bOrdered : Ordered le b) : Ordered le (meld le a b) := by
  fun_induction Heap.meld le a b with
  | case1 b => exact bOrdered
  | case2 a => exact aOrdered
  | case3 rankA firstA leftA rightA rankB firstB leftB rightB before ih =>
      have others := bOrdered.above trans before
      cases aOrdered with
      | node _ _ _ _ least leftOrdered rightOrdered =>
          refine .graft (fun x member => ?_) leftOrdered (ih rightOrdered bOrdered)
          rw [List.mem_append, (meld_perm le _ _).mem_iff, List.mem_append] at member
          rcases member with left | right | other
          · exact least x (List.mem_append_left _ left)
          · exact least x (List.mem_append_right _ right)
          · exact others x other
  | case4 rankA firstA leftA rightA rankB firstB leftB rightB after ih =>
      have others := aOrdered.above trans ((Bool.or_eq_true_iff.mp (total firstA firstB)).resolve_left after)
      cases bOrdered with
      | node _ _ _ _ least leftOrdered rightOrdered =>
          refine .graft (fun x member => ?_) leftOrdered (ih aOrdered rightOrdered)
          rw [List.mem_append, (meld_perm le _ _).mem_iff, List.mem_append] at member
          rcases member with left | other | right
          · exact least x (List.mem_append_left _ left)
          · exact others x other
          · exact least x (List.mem_append_right _ right)

theorem Ordered.push {heap : Heap β} (ordered : Ordered le heap) (x : β) : Ordered le (heap.push le x) :=
  ordered.meld trans total (.node 1 x _ _ (fun _ member => absurd member List.not_mem_nil) .empty .empty)

theorem Ordered.pop {heap rest : Heap β} {first : β} (ordered : Ordered le heap)
    (popped : heap.pop? le = some (first, rest)) : Ordered le rest ∧ ∀ x ∈ rest.toList, le first x = true := by
  cases ordered with
  | empty => cases popped
  | node rank top left right least leftOrdered rightOrdered =>
      cases popped
      exact ⟨leftOrdered.meld trans total rightOrdered, fun x member =>
        least x ((meld_perm le _ _).mem_iff.mp member)⟩

end

end Heap

namespace GridPath

namespace Visit

theorem before_iff (v w : Visit) : v.before w = true ↔ v.estimate < w.estimate
    ∨ v.estimate = w.estimate ∧ (v.cost < w.cost ∨ v.cost = w.cost ∧ v.turn ≤ w.turn) := by
  simp only [before, Bool.or_eq_true, Bool.and_eq_true, decide_eq_true_eq, beq_iff_eq]

theorem before_trans (u v w : Visit) (first : u.before v = true) (second : v.before w = true) :
    u.before w = true := by
  rw [before_iff] at first second ⊢
  omega

theorem before_total (v w : Visit) : (v.before w || w.before v) = true := by
  rw [Bool.or_eq_true_iff, before_iff, before_iff]
  omega

theorem before_estimate (v w : Visit) (before : v.before w = true) : v.estimate ≤ w.estimate := by
  rw [before_iff] at before
  omega

end Visit

section Steps

theorem steps_beside (box : CellSpan) (c d : Cell) (beside : Beside c d) : stepsTo box c ≤ stepsTo box d + 1 := by
  simp only [Beside, neighbours, List.mem_cons, List.not_mem_nil, or_false] at beside
  rcases beside with rfl | rfl | rfl | rfl <;> simp only [stepsTo] <;> omega

theorem steps_inside (cells : List Cell) (cell : Cell) (listed : cell ∈ cells) :
    stepsTo (boxAround cells) cell = 0 := by
  have inside : (boxAround cells).x0 ≤ cell.x ∧ cell.x ≤ (boxAround cells).x1
      ∧ (boxAround cells).y0 ≤ cell.y ∧ cell.y ≤ (boxAround cells).y1 := by
    induction cells with
    | nil => cases listed
    | cons first rest ih =>
        simp only [boxAround]
        rcases List.mem_cons.mp listed with rfl | later
        · omega
        · have within := ih later
          omega
  simp only [stepsTo]
  omega

theorem steps_along (goals : List Cell) (path : List Cell) (cell last : Cell) (steps : (cell :: path).IsChain Beside)
    (ends : (cell :: path).getLast? = some last) (goal : last ∈ goals) :
    stepsTo (boxAround goals) cell ≤ path.length := by
  induction path generalizing cell with
  | nil =>
      obtain rfl := Option.some.inj ends
      exact Nat.le_of_eq (steps_inside goals cell goal)
  | cons further rest ih =>
      obtain ⟨beside, chain⟩ := List.isChain_cons_cons.mp steps
      exact Nat.le_trans (steps_beside _ cell further beside) (Nat.succ_le_succ (ih further chain ends))

end Steps

structure Search.Ranked (raster : Raster) (box : CellSpan) (search : Search) : Prop where
  ordered : search.queue.Ordered Visit.before
  estimates : ∀ visit ∈ search.queue.toList,
    visit.estimate = visit.cost + stepsTo box (raster.cellAt visit.place)

variable {problem : Problem} {box : CellSpan}

namespace Search.Ranked

variable {search : Search} (ranked : search.Ranked problem.raster box)

include ranked

theorem label (cell : Cell) (i : Nat) (placed : problem.raster.place? cell = some i) (label : Label) :
    (search.label i label (stepsTo box cell)).Ranked problem.raster box := by
  constructor
  · rw [Search.label]
    split
    · exact ranked.ordered.push Visit.before_trans Visit.before_total _
    · exact ranked.ordered
  · intro visit queued
    rcases (label_queues search i label _ visit).mp queued with old | ⟨_, rfl⟩
    · exact ranked.estimates visit old
    · rw [problem.raster.cell_at_place cell i placed]

theorem pop (visit : Visit) (queue : Heap Visit) (popped : search.queue.pop? Visit.before = some (visit, queue)) :
    ({ search with queue } : Search).Ranked problem.raster box :=
  ⟨(ranked.ordered.pop Visit.before_trans Visit.before_total popped).1, fun other queued =>
    ranked.estimates other ((Heap.pop_mem _ _ _ visit other popped).mpr (.inr queued))⟩

theorem expand (visit : Visit) : (expand problem problem.goalPlaces box visit search).Ranked problem.raster box := by
  rw [GridPath.expand]
  refine List.foldlRecOn _ _ ranked fun search ranked cell _ => ?_
  rw [reach]
  split
  next => exact ranked
  next i placed =>
    split
    next => exact ranked.label cell i placed _
    next => exact ranked

theorem turn {later : Search} (turn : Turn problem box search later) : later.Ranked problem.raster box := by
  cases turn with
  | stale visit queue popped _ => exact ranked.pop visit queue popped
  | visited visit queue popped _ _ => exact (ranked.pop visit queue popped).expand visit

theorem turns {final : Search} (turns : Relation.ReflTransGen (Turn problem box) search final) :
    final.Ranked problem.raster box := by
  induction turns with
  | refl => exact ranked
  | tail _ turn ih => exact ih.turn turn

end Search.Ranked

theorem start_ranked (sources : List Cell) : (start problem box sources).Ranked problem.raster box := by
  rw [start]
  refine List.foldlRecOn sources _ ⟨.empty, fun _ queued => absurd queued List.not_mem_nil⟩
    fun search ranked cell _ => ?_
  split
  next => exact ranked
  next i placed => exact ranked.label cell i placed _

variable (problem) in
def Fits (sources : List Cell) (cell : Cell) : Prop :=
  problem.raster.Passable problem.crossing problem.forced cell ∨ cell ∈ sources ∨ cell ∈ problem.goals

theorem passable_open (cell : Cell) (passes : problem.raster.Passable problem.crossing problem.forced cell) :
    ∃ i, problem.raster.place? cell = some i ∧ problem.open? problem.goalPlaces i = true := by
  obtain ⟨state, read, passes⟩ := passes
  obtain ⟨i, placed, found⟩ := Option.bind_eq_some_iff.mp read
  refine ⟨i, placed, ?_⟩
  rw [Problem.open?, found]
  exact Bool.or_eq_true_iff.mpr (.inr passes)

-- Labels from the sources on, all closed but those from which a path to a goal has at least so many steps.
structure Bounded (problem : Problem) (sources : List Cell) (bound : Nat) (labels : Labels) : Prop where
  sources : ∀ cell ∈ sources, ∃ i, problem.raster.place? cell = some i ∧ labels.AtMost i 0
  goals : ∀ cell ∈ problem.goals, ∃ i, problem.raster.place? cell = some i
  each : ∀ i label, labels.label? i = some label → Closed problem labels i label.cost
    ∨ bound ≤ label.cost + stepsTo (boxAround problem.goals) (problem.raster.cellAt i)

namespace Bounded

variable {sources : List Cell} {bound : Nat} {labels : Labels} (bounded : Bounded problem sources bound labels)

include bounded

theorem next (cell further : Cell) (i cost : Nat) (placed : problem.raster.place? cell = some i)
    (closed : Closed problem labels i cost) (beside : Beside cell further) (fits : Fits problem sources further) :
    ∃ j, problem.raster.place? further = some j ∧ labels.AtMost j (cost + 1) := by
  have reaches := closed.2 further (by rwa [problem.raster.cell_at_place cell i placed])
  rcases fits with passes | source | goal
  · obtain ⟨j, furtherPlaced, opens⟩ := passable_open further passes
    exact ⟨j, furtherPlaced, reaches j furtherPlaced opens⟩
  · obtain ⟨j, furtherPlaced, atMost⟩ := bounded.sources further source
    exact ⟨j, furtherPlaced, atMost.mono (Nat.zero_le _)⟩
  · obtain ⟨j, furtherPlaced⟩ := bounded.goals further goal
    refine ⟨j, furtherPlaced, reaches j furtherPlaced ?_⟩
    rw [Problem.open?, goal_place further goal j furtherPlaced, Bool.true_or]

theorem along (path : List Cell) (cell last : Cell) (steps : (cell :: path).IsChain Beside)
    (fits : ∀ further ∈ path, Fits problem sources further) (ends : (cell :: path).getLast? = some last)
    (goal : last ∈ problem.goals) (i cost : Nat) (placed : problem.raster.place? cell = some i)
    (atMost : labels.AtMost i cost) : bound ≤ cost + path.length := by
  obtain ⟨label, read, short⟩ := atMost
  have left := steps_along problem.goals path cell last steps ends goal
  rw [← problem.raster.cell_at_place cell i placed] at left
  induction path generalizing cell i cost label with
  | nil =>
      obtain rfl := Option.some.inj ends
      rcases bounded.each i label read with closed | far
      · have noGoal := closed.1
        rw [goal_place cell goal i placed] at noGoal
        cases noGoal
      · omega
  | cons further rest ih =>
      rcases bounded.each i label read with closed | far
      · obtain ⟨beside, chain⟩ := List.isChain_cons_cons.mp steps
        obtain ⟨fit, others⟩ := List.forall_mem_cons.mp fits
        obtain ⟨j, furtherPlaced, new, newRead, newShort⟩ :=
          bounded.next cell further i label.cost placed closed beside fit
        have furtherLeft := steps_along problem.goals rest further last chain ends goal
        rw [← problem.raster.cell_at_place further j furtherPlaced] at furtherLeft
        have longer := ih further chain others ends j (label.cost + 1) furtherPlaced new newRead newShort furtherLeft
        rw [List.length_cons]
        omega
      · omega

theorem path_long (path : List Cell) (leads : Leads (Fits problem sources) sources problem.goals path) :
    bound < path.length := by
  obtain ⟨⟨source, listed, starts⟩, ⟨goal, wanted, ends⟩, steps, inner⟩ := leads
  cases path with
  | nil => cases starts
  | cons cell rest =>
      obtain rfl := Option.some.inj starts
      have fits : ∀ further ∈ rest, Fits problem sources further := by
        intro further member
        cases rest with
        | nil => cases member
        | cons next others =>
            have endsHere : (next :: others).getLast? = some goal := ends
            rw [← List.dropLast_append_getLast? goal endsHere] at member
            rcases List.mem_append.mp member with between | last
            · exact inner further between
            · exact .inr (.inr (List.mem_singleton.mp last ▸ wanted))
      obtain ⟨i, placed, atMost⟩ := bounded.sources cell listed
      have long := bounded.along rest cell goal steps fits ends wanted i 0 placed atMost
      rw [List.length_cons]
      omega

end Bounded

section Outcome

variable (problem) (sources : List Cell)
  (onMap : ∀ cell ∈ sources ++ problem.goals, ∃ i, problem.raster.place? cell = some i)

include onMap

-- When the search ends at a goal, whatever still waits is estimated to be no nearer; when it ends without one,
-- nothing waits.
theorem run_bounded :
    match run problem problem.goalPlaces (boxAround problem.goals) (start problem (boxAround problem.goals) sources) with
    | none => ∀ bound, ∃ labels, Bounded problem sources bound labels
    | some (labels, goal) => ∀ label, labels.label? goal = some label → Bounded problem sources label.cost labels := by
  obtain ⟨begun, started⟩ := start_explored problem (boxAround problem.goals) sources
  obtain ⟨final, turns, ends⟩ :=
    run_turns problem (boxAround problem.goals) (start problem (boxAround problem.goals) sources)
  obtain ⟨explored, kept⟩ := turns_explored turns begun
  have ranked := (start_ranked sources).turns turns
  have labelled : ∀ cell ∈ sources, ∃ i, problem.raster.place? cell = some i ∧ final.labels.AtMost i 0 := by
    intro cell listed
    obtain ⟨i, placed⟩ := onMap cell (List.mem_append_left _ listed)
    exact ⟨i, placed, kept i 0 (started cell listed i placed)⟩
  have goalsPlaced : ∀ cell ∈ problem.goals, ∃ i, problem.raster.place? cell = some i := fun cell wanted =>
    onMap cell (List.mem_append_right _ wanted)
  generalize run problem problem.goalPlaces _ _ = answer at ends
  cases ends with
  | exhausted empty =>
      intro bound
      refine ⟨final.labels, labelled, goalsPlaced, fun i label read =>
        .inl ((explored.each i label read).resolve_left ?_)⟩
      rintro ⟨visit, listed, _⟩
      cases queue : final.queue with
      | empty =>
          rw [queue] at listed
          exact List.not_mem_nil listed
      | node rank first left right =>
          rw [queue] at empty
          cases empty
  | arrived visit queue popped current goal =>
      intro reached reachedRead
      refine ⟨labelled, goalsPlaced, fun i label read => (explored.each i label read).symm.imp_right ?_⟩
      rintro ⟨other, listed, rfl, cost⟩
      have same : visit.cost = reached.cost := by
        have found : final.labels.cost? visit.place = some reached.cost := congrArg (Option.map Label.cost) reachedRead
        exact Option.some.inj (current.symm.trans found)
      have otherCost : label.cost = other.cost := by
        have found : final.labels.cost? other.place = some label.cost := congrArg (Option.map Label.cost) read
        exact Option.some.inj (found.symm.trans cost)
      have estimate := ranked.estimates visit ((Heap.pop_mem _ _ _ visit visit popped).mpr (.inl rfl))
      have otherEstimate := ranked.estimates other listed
      have first : visit.estimate ≤ other.estimate := by
        rcases (Heap.pop_mem _ _ _ visit other popped).mp listed with rfl | waits
        · exact Nat.le_refl _
        · exact Visit.before_estimate visit other
            ((ranked.ordered.pop Visit.before_trans Visit.before_total popped).2 other waits)
      omega

theorem shortest_none_iff :
    shortest problem sources = none ↔ ∀ path, ¬ Leads (Fits problem sources) sources problem.goals path := by
  constructor
  · intro none path leads
    rw [shortest] at none
    split at none
    next empty =>
      obtain ⟨⟨source, listed, _⟩, ⟨goal, wanted, _⟩, _, _⟩ := leads
      rcases Bool.or_eq_true_iff.mp empty with noSource | noGoal
      · exact List.not_mem_nil (List.isEmpty_iff.mp noSource ▸ listed)
      · exact List.not_mem_nil (List.isEmpty_iff.mp noGoal ▸ wanted)
    next =>
      have bounded := run_bounded problem sources onMap
      simp only at none
      split at none
      next searched =>
        rw [searched] at bounded
        obtain ⟨labels, longer⟩ := bounded path.length
        exact absurd (longer.path_long path leads) (Nat.lt_irrefl _)
      next => cases none
  · intro nowhere
    cases found : shortest problem sources with
    | none => rfl
    | some path =>
        refine absurd ?_ (nowhere path)
        exact (shortest_leads path found).mono (fun cell clear => .inl clear.1) (List.Subset.refl _)
          (List.Subset.refl _)

theorem shortest_least (path : List Cell) (found : shortest problem sources = some path) (other : List Cell)
    (leads : Leads (Fits problem sources) sources problem.goals other) : path.length ≤ other.length := by
  obtain ⟨labels, goal, label, places, searched, _, _, read, _, short, rfl⟩ := shortest_trail path found
  have bounded := run_bounded problem sources onMap
  rw [searched] at bounded
  rw [List.length_map]
  exact Nat.le_trans short ((bounded label read).path_long other leads)

end Outcome

end GridPath

end Floorplan

import Mathlib.Logic.Relation
import Floorplan.Proofs.Grid.Paths

/-!
The search looks everywhere. It goes on in turns, which come to an end, and a place that it gave a label is visited
sooner or later; then every open place beside it has a label of at most one step more.
-/

set_option autoImplicit false

namespace Floorplan.GridPath

def Labels.AtMost (labels : Labels) (i cost : Nat) : Prop := ∃ label, labels.label? i = some label ∧ label.cost ≤ cost

theorem Labels.AtMost.mono {labels : Labels} {i cost more : Nat} (atMost : labels.AtMost i cost) (le : cost ≤ more) :
    labels.AtMost i more := by
  obtain ⟨label, read, short⟩ := atMost
  exact ⟨label, read, Nat.le_trans short le⟩

def Search.Queued (search : Search) (i : Nat) : Prop :=
  ∃ visit ∈ search.queue.toList, visit.place = i ∧ search.labels.cost? i = some visit.cost

structure Search.Grown (earlier later : Search) : Prop where
  size : later.labels.size = earlier.labels.size
  atMost : ∀ i cost, earlier.labels.AtMost i cost → later.labels.AtMost i cost
  queued : ∀ i label, later.labels.label? i = some label →
    later.Queued i ∨ earlier.labels.label? i = some label ∧ ¬ earlier.Queued i

theorem Search.Grown.refl (search : Search) : search.Grown search :=
  ⟨rfl, fun _ _ atMost => atMost,
    fun i _ read => (Classical.em (search.Queued i)).imp_right fun not => ⟨read, not⟩⟩

theorem Search.Grown.trans {a b c : Search} (first : a.Grown b) (second : b.Grown c) : a.Grown c := by
  refine ⟨second.size.trans first.size, fun i cost atMost => second.atMost i cost (first.atMost i cost atMost),
    fun i label read => ?_⟩
  rcases second.queued i label read with queued | ⟨before, not⟩
  · exact .inl queued
  · exact .inr ((first.queued i label before).resolve_left not)

theorem label_grown (search : Search) (i : Nat) (label : Label) (rest : Nat) :
    search.Grown (search.label i label rest) := by
  refine ⟨label_size search i label rest, fun j cost ⟨old, read, short⟩ => ?_, fun j found read => ?_⟩
  · obtain ⟨new, newRead, shorter⟩ := label_shortens search i label rest j old read
    exact ⟨new, newRead, Nat.le_trans shorter short⟩
  · have cost : (search.label i label rest).labels.cost? j = some found.cost := congrArg (Option.map Label.cost) read
    rw [label_reads] at read
    split at read
    next here =>
      obtain ⟨rfl, better⟩ := here
      obtain rfl := Option.some.inj read
      exact .inl ⟨_, (label_queues search j label rest _).mpr (.inr ⟨better, rfl⟩), rfl, cost⟩
    next =>
      have same : search.labels.cost? j = some found.cost := congrArg (Option.map Label.cost) read
      by_cases queued : search.Queued j
      · obtain ⟨visit, listed, place, visitCost⟩ := queued
        exact .inl ⟨visit, (label_queues search i label rest visit).mpr (.inl listed), place,
          cost.trans (same.symm.trans visitCost)⟩
      · exact .inr ⟨read, queued⟩

theorem label_at_most (search : Search) (i : Nat) (label : Label) (rest : Nat) (inRange : i < search.labels.size) :
    (search.label i label rest).labels.AtMost i label.cost := by
  rw [Labels.AtMost, label_reads]
  split
  next => exact ⟨label, rfl, Nat.le_refl _⟩
  next kept =>
    by_contra longer
    refine kept ⟨rfl, (improves_iff _ _ _).mpr ⟨inRange, fun old read => ?_⟩⟩
    exact Nat.lt_of_not_le fun short => longer ⟨old, read, short⟩

variable (problem : Problem) (box : CellSpan)

-- A place that was visited with its label is no goal, and every open place beside it has a label of at most one
-- step more.
def Closed (labels : Labels) (i cost : Nat) : Prop :=
  problem.goalPlaces.contains i = false ∧ ∀ cell, Beside (problem.raster.cellAt i) cell →
    ∀ j, problem.raster.place? cell = some j → problem.open? problem.goalPlaces j = true → labels.AtMost j (cost + 1)

structure Search.Explored (search : Search) : Prop where
  size : search.labels.size = problem.raster.cells.size
  each : ∀ i label, search.labels.label? i = some label →
    search.Queued i ∨ Closed problem search.labels i label.cost

variable {problem}

-- Steps that only give labels give one to whatever one of them is sure to reach.
theorem fold_grown {β : Type} (step : Search → β → Search)
    (grows : ∀ search x, Search.Grown search (step search x)) (items : List β) (search : Search) :
    search.Grown (items.foldl step search) ∧ ∀ x ∈ items, ∀ i cost,
      (∀ other : Search, other.labels.size = search.labels.size → (step other x).labels.AtMost i cost) →
        (items.foldl step search).labels.AtMost i cost := by
  induction items generalizing search with
  | nil => exact ⟨.refl search, fun x member => absurd member List.not_mem_nil⟩
  | cons first rest ih =>
      obtain ⟨grown, reached⟩ := ih (step search first)
      have size := (grows search first).size
      refine ⟨(grows search first).trans grown, fun x member i cost reaches => ?_⟩
      rcases List.mem_cons.mp member with rfl | later
      · exact grown.atMost i cost (reaches search rfl)
      · exact reached x later i cost fun other same => reaches other (same.trans size)

variable (problem) in
theorem start_explored (sources : List Cell) :
    (start problem box sources).Explored problem ∧ ∀ cell ∈ sources, ∀ i, problem.raster.place? cell = some i →
      (start problem box sources).labels.AtMost i 0 := by
  let blank : Search :=
    { labels := Array.replicate problem.raster.cells.size none, queue := .empty, turn := 0 }
  have unlabelled : ∀ i, blank.labels.label? i = none := by
    intro i
    simp only [blank, Labels.label?, Array.getElem?_replicate]
    split <;> rfl
  have size : blank.labels.size = problem.raster.cells.size := Array.size_replicate
  obtain ⟨grown, reached⟩ : blank.Grown (start problem box sources) ∧ ∀ cell ∈ sources, ∀ i,
      problem.raster.place? cell = some i → (start problem box sources).labels.AtMost i 0 := by
    refine (fold_grown _ ?_ sources blank).imp_right fun reached cell listed i placed =>
      reached cell listed i 0 fun other same => ?_
    · intro search cell
      split
      · exact .refl search
      · exact label_grown search _ _ _
    · simp only [placed]
      refine label_at_most other i { cost := 0, previous := none } _ ?_
      rw [same, size]
      exact problem.raster.place_lt cell i placed
  refine ⟨⟨grown.size.trans size, fun i label read => .inl ((grown.queued i label read).resolve_right fun old => ?_)⟩,
    reached⟩
  rw [unlabelled] at old
  cases old.1

theorem reach_grown (goals : List Nat) (visit : Visit) (search : Search) (cell : Cell) :
    search.Grown (reach problem goals box visit search cell) := by
  rw [reach]
  split
  next => exact .refl search
  next i placed =>
    split
    next => exact label_grown search i _ _
    next => exact .refl search

theorem expand_grown (visit : Visit) (search : Search) (size : search.labels.size = problem.raster.cells.size) :
    let later := expand problem problem.goalPlaces box visit search
    search.Grown later ∧ ∀ cell, Beside (problem.raster.cellAt visit.place) cell →
      ∀ j, problem.raster.place? cell = some j → problem.open? problem.goalPlaces j = true →
        later.labels.AtMost j (visit.cost + 1) := by
  obtain ⟨grown, reached⟩ := fold_grown (reach problem problem.goalPlaces box visit) (reach_grown box _ visit)
    (neighbours (problem.raster.cellAt visit.place)) search
  refine ⟨grown, fun cell beside j placed opens => reached cell beside j _ fun other same => ?_⟩
  simp only [reach, placed, opens, if_true]
  refine label_at_most other j { cost := visit.cost + 1, previous := some visit.place } _ ?_
  rw [same, size]
  exact problem.raster.place_lt cell j placed

section Turns

variable (problem)

inductive Turn (search : Search) : Search → Prop
  | stale (visit : Visit) (queue : Heap Visit) (popped : search.queue.pop? Visit.before = some (visit, queue))
      (stale : search.labels.cost? visit.place ≠ some visit.cost) : Turn search { search with queue }
  | visited (visit : Visit) (queue : Heap Visit) (popped : search.queue.pop? Visit.before = some (visit, queue))
      (current : search.labels.cost? visit.place = some visit.cost)
      (noGoal : problem.goalPlaces.contains visit.place = false) :
      Turn search (expand problem problem.goalPlaces box visit { search with queue })

inductive Ends (search : Search) : Option (Labels × Nat) → Prop
  | exhausted (empty : search.queue.pop? Visit.before = none) : Ends search none
  | arrived (visit : Visit) (queue : Heap Visit) (popped : search.queue.pop? Visit.before = some (visit, queue))
      (current : search.labels.cost? visit.place = some visit.cost)
      (goal : problem.goalPlaces.contains visit.place = true) : Ends search (some (search.labels, visit.place))

theorem turns_end : WellFounded fun later earlier => Turn problem box earlier later := by
  let rank (search : Search) : Nat × Nat × Nat := (search.labels.unlabelled, search.labels.total, search.queue.size)
  refine Subrelation.wf (fun {later earlier} turn => ?_) (InvImage.wf rank (inferInstance : WellFoundedRelation
    (Nat × Nat × Nat)).wf)
  cases turn with
  | stale visit queue popped stale =>
      have fewer := Heap.size_pop _ _ _ _ popped
      exact .right _ (.right _ (Nat.lt_of_lt_of_eq (Nat.lt_succ_self _) fewer))
  | visited visit queue popped current noGoal =>
      have fewer := Heap.size_pop _ _ _ _ popped
      rcases expand_after problem problem.goalPlaces box visit { earlier with queue } with more | ⟨same, shorter⟩ | same
      · exact .left _ _ more
      · change Prod.Lex _ _ (rank _) (rank _)
        simp only [rank]
        rw [same]
        exact .right _ (.left _ _ shorter)
      · rw [same]
        exact .right _ (.right _ (Nat.lt_of_lt_of_eq (Nat.lt_succ_self _) fewer))

theorem run_turns (search : Search) : ∃ final, Relation.ReflTransGen (Turn problem box) search final
    ∧ Ends problem final (run problem problem.goalPlaces box search) := by
  fun_induction run problem problem.goalPlaces box search with
  | case1 search empty => exact ⟨search, .refl, .exhausted empty⟩
  | case2 search visit queue popped labels turn stale ih =>
      obtain ⟨final, turns, ends⟩ := ih
      exact ⟨final, .head (.stale visit queue popped stale) turns, ends⟩
  | case3 search visit queue popped labels current reached =>
      exact ⟨search, .refl, .arrived visit queue popped (Decidable.not_not.mp current) reached⟩
  | case4 search visit queue popped labels turn current further ih =>
      obtain ⟨final, turns, ends⟩ := ih
      exact ⟨final, .head (.visited visit queue popped (Decidable.not_not.mp current)
        (Bool.eq_false_iff.mpr further)) turns, ends⟩

variable {problem box}

theorem Turn.explored {search later : Search} (turn : Turn problem box search later)
    (explored : search.Explored problem) :
    later.Explored problem ∧ ∀ i cost, search.labels.AtMost i cost → later.labels.AtMost i cost := by
  cases turn with
  | stale visit queue popped stale =>
      refine ⟨⟨explored.size, fun i label read => (explored.each i label read).imp_left ?_⟩, fun _ _ atMost => atMost⟩
      rintro ⟨other, listed, place, cost⟩
      refine ⟨other, ((Heap.pop_mem _ _ _ visit other popped).mp listed).resolve_left ?_, place, cost⟩
      rintro rfl
      exact stale (place ▸ cost)
  | visited visit queue popped current noGoal =>
      obtain ⟨grown, beside⟩ := expand_grown box visit { search with queue } explored.size
      refine ⟨⟨grown.size.trans explored.size, fun i label read => ?_⟩, grown.atMost⟩
      rcases grown.queued i label read with queued | ⟨before, not⟩
      · exact .inl queued
      · right
        by_cases here : i = visit.place
        · subst here
          have cost : visit.cost = label.cost := by
            have same : search.labels.cost? visit.place = some label.cost := congrArg (Option.map Label.cost) before
            rw [current] at same
            exact Option.some.inj same
          exact ⟨noGoal, cost ▸ beside⟩
        · rcases explored.each i label before with ⟨other, listed, place, cost⟩ | ⟨noGoal, closed⟩
          · refine absurd ⟨other, ?_, place, cost⟩ not
            refine ((Heap.pop_mem _ _ _ visit other popped).mp listed).resolve_left ?_
            rintro rfl
            exact here place.symm
          · exact ⟨noGoal, fun cell next j placed opens => grown.atMost j _ (closed cell next j placed opens)⟩

theorem turns_explored {search final : Search} (turns : Relation.ReflTransGen (Turn problem box) search final)
    (explored : search.Explored problem) :
    final.Explored problem ∧ ∀ i cost, search.labels.AtMost i cost → final.labels.AtMost i cost := by
  induction turns with
  | refl => exact ⟨explored, fun _ _ atMost => atMost⟩
  | tail _ turn ih =>
      obtain ⟨next, kept⟩ := turn.explored ih.1
      exact ⟨next, fun i cost atMost => kept i cost (ih.2 i cost atMost)⟩

end Turns

end Floorplan.GridPath

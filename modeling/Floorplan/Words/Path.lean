import Floorplan.GridPath
import Floorplan.Words.Raster

set_option autoImplicit false

namespace Floorplan.Words

open GridPath (Label Labels Problem Search Visit boxAround label_after walkBack)

def stepsTo? (box : CellSpan) (cell : Cell) : Option Nat := do
  let left ← word? (box.x0 - cell.x)
  let right ← word? (cell.x - box.x1)
  let across ← word? (max left 0 + max right 0)
  let above ← word? (box.y0 - cell.y)
  let below ← word? (cell.y - box.y1)
  let down ← word? (max above 0 + max below 0)
  let steps ← word? (across + down)
  pure steps.toNat

def neighbours? (cell : Cell) : Option (List Cell) := do
  let above ← word? (cell.y - 1)
  let right ← word? (cell.x + 1)
  let below ← word? (cell.y + 1)
  let left ← word? (cell.x - 1)
  pure [{ x := cell.x, y := above }, { x := right, y := cell.y }, { x := cell.x, y := below },
    { x := left, y := cell.y }]

def label? (search : Search) (box : CellSpan) (cell : Cell) (i : Nat) (label : Label) : Option Search :=
  if search.labels.size ≤ i then none
  else if search.labels.improves i label.cost then do
    let rest ← stepsTo? box cell
    pure (search.label i label rest)
  else some search

def start? (problem : Problem) (box : CellSpan) (sources : List Cell) : Option Search :=
  sources.foldlM
    (fun search cell => do
      match ← place? problem.raster cell with
      | none => pure search
      | some i => label? search box cell i { cost := 0, previous := none })
    { labels := Array.replicate problem.raster.cells.size none, queue := .empty, turn := 0 }

def opens? (problem : Problem) (goals : List Nat) (i : Nat) : Option Bool :=
  if goals.contains i then some true
  else problem.raster.cells[i]?.map fun state => state.passable problem.crossing problem.forced

def reach? (problem : Problem) (goals : List Nat) (box : CellSpan) (visit : Visit) (search : Search)
    (cell : Cell) : Option Search := do
  match ← place? problem.raster cell with
  | none => pure search
  | some i =>
    if ← opens? problem goals i then
      label? search box cell i { cost := visit.cost + 1, previous := some visit.place }
    else pure search

def expand? (problem : Problem) (goals : List Nat) (box : CellSpan) (visit : Visit) (search : Search) :
    Option Search := do
  let cell ← cellAt? problem.raster visit.place
  let next ← neighbours? cell
  next.foldlM (reach? problem goals box visit) search

theorem label_some_after (search later : Search) (box : CellSpan) (cell : Cell) (i : Nat) (label : Label)
    (labelled : label? search box cell i label = some later) : later.After search := by
  rw [label?] at labelled
  split at labelled
  · cases labelled
  · split at labelled
    · obtain ⟨rest, _, labelled⟩ := Option.bind_eq_some_iff.mp labelled
      cases labelled
      exact label_after search i label rest
    · cases labelled
      exact .inr (.inr rfl)

theorem reach_some_after (problem : Problem) (goals : List Nat) (box : CellSpan) (visit : Visit)
    (search later : Search) (cell : Cell) (reached : reach? problem goals box visit search cell = some later) :
    later.After search := by
  obtain ⟨place, _, reached⟩ := Option.bind_eq_some_iff.mp reached
  cases place with
  | none =>
    cases reached
    exact .inr (.inr rfl)
  | some i =>
    obtain ⟨opens, _, reached⟩ := Option.bind_eq_some_iff.mp reached
    split at reached
    · exact label_some_after search later box cell i _ reached
    · cases reached
      exact .inr (.inr rfl)

theorem reach_all_some_after (problem : Problem) (goals : List Nat) (box : CellSpan) (visit : Visit)
    (cells : List Cell) (search later : Search)
    (reached : cells.foldlM (reach? problem goals box visit) search = some later) : later.After search := by
  induction cells generalizing search with
  | nil =>
    cases reached
    exact .inr (.inr rfl)
  | cons cell rest ih =>
    rw [List.foldlM_cons] at reached
    obtain ⟨next, first, reached⟩ := Option.bind_eq_some_iff.mp reached
    exact GridPath.After.trans (reach_some_after problem goals box visit search next cell first) (ih next reached)

theorem expand_some_after (problem : Problem) (goals : List Nat) (box : CellSpan) (visit : Visit)
    (search later : Search) (expanded : expand? problem goals box visit search = some later) :
    later.After search := by
  obtain ⟨cell, _, expanded⟩ := Option.bind_eq_some_iff.mp expanded
  obtain ⟨next, _, expanded⟩ := Option.bind_eq_some_iff.mp expanded
  exact reach_all_some_after problem goals box visit next search later expanded

def run? (problem : Problem) (goals : List Nat) (box : CellSpan) (search : Search) :
    Option (Option (Labels × Nat)) :=
  match _popped : search.queue.pop? Visit.before with
  | none => some none
  | some (visit, queue) =>
    let labels := search.labels
    let turn := search.turn
    if labels.cost? visit.place ≠ some visit.cost then run? problem goals box { labels, queue, turn }
    else if goals.contains visit.place then some (some (labels, visit.place))
    else
      match _expanded : expand? problem goals box visit { labels, queue, turn } with
      | none => none
      | some later => run? problem goals box later
termination_by (search.labels.unlabelled, search.labels.total, search.queue.size)
decreasing_by
  · have shorter := Heap.size_pop _ _ _ _ _popped
    refine Prod.Lex.right _ (Prod.Lex.right _ ?_)
    omega
  · have shorter := Heap.size_pop _ _ _ _ _popped
    rcases expand_some_after problem goals box visit { labels, queue, turn } later _expanded with h | ⟨h, k⟩ | h
    · exact Prod.Lex.left _ _ h
    · rw [h]
      exact Prod.Lex.right _ (Prod.Lex.left _ _ k)
    · rw [h]
      refine Prod.Lex.right _ (Prod.Lex.right _ ?_)
      show queue.size < search.queue.size
      omega

def shortest? (problem : Problem) (sources : List Cell) : Option (Option (List Cell)) :=
  if sources.isEmpty || problem.goals.isEmpty then some none
  else do
    let box := boxAround problem.goals
    let goals ← problem.goals.mapM (place? problem.raster)
    let search ← start? problem box sources
    match ← run? problem (goals.filterMap id) box search with
    | none => pure none
    | some (labels, goal) =>
      let path := walkBack labels ((labels.cost? goal).getD 0) goal []
      let cells ← path.mapM (cellAt? problem.raster)
      pure (some cells)

end Floorplan.Words

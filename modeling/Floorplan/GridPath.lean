import Floorplan.Config
import Floorplan.Heap
import Floorplan.Raster

/-!
Shortest paths over the cells of a map, from any of several sources to the nearest of several goals.
Cells are visited in the order of the least length a path through them can have; every step of the
search leaves fewer cells without a label, or shortens one, or takes a cell off the queue.
-/

set_option autoImplicit false

namespace Floorplan

def CellState.passable (state : CellState) (crossing : CrossingPolicy) (forced : Bool) : Bool :=
  match state with
  | .free => true
  | .corridor => forced || crossing.allows
  | .buffer => forced
  | .room => false

namespace GridPath

structure Label where
  cost : Nat
  previous : Option Nat
deriving DecidableEq

abbrev Labels := Array (Option Label)

namespace Labels

def cost? (labels : Labels) (i : Nat) : Option Nat := (labels[i]?.join).map (·.cost)

def improves (labels : Labels) (i cost : Nat) : Bool :=
  match labels[i]? with
  | none => false
  | some none => true
  | some (some label) => decide (cost < label.cost)

def missing : Option Label → Nat
  | none => 1
  | some _ => 0

def weight : Option Label → Nat
  | none => 0
  | some label => label.cost

def unlabelled (labels : Labels) : Nat := (labels.toList.map missing).foldr (· + ·) 0

def total (labels : Labels) : Nat := (labels.toList.map weight).foldr (· + ·) 0

end Labels

/-- A place to visit, with the least length of a path through it and the turn it was queued in. -/
structure Visit where
  estimate : Nat
  cost : Nat
  turn : Nat
  place : Nat
deriving DecidableEq

def Visit.before (v w : Visit) : Bool :=
  decide (v.estimate < w.estimate) || v.estimate == w.estimate
    && (decide (v.cost < w.cost) || v.cost == w.cost && decide (v.turn ≤ w.turn))

structure Search where
  labels : Labels
  queue : Heap Visit
  turn : Nat

structure Problem where
  raster : Raster
  crossing : CrossingPolicy
  forced : Bool
  goals : List Cell

def boxAround : List Cell → CellSpan
  | [] => { x0 := Number.cellMax, y0 := Number.cellMax, x1 := Number.cellMin, y1 := Number.cellMin }
  | cell :: rest =>
    let box := boxAround rest
    { x0 := min cell.x box.x0
      y0 := min cell.y box.y0
      x1 := max cell.x box.x1
      y1 := max cell.y box.y1 }

def stepsTo (box : CellSpan) (cell : Cell) : Nat :=
  (box.x0 - cell.x).toNat + (cell.x - box.x1).toNat
    + ((box.y0 - cell.y).toNat + (cell.y - box.y1).toNat)

def neighbours (cell : Cell) : List Cell :=
  [{ x := cell.x, y := cell.y - 1 }, { x := cell.x + 1, y := cell.y },
    { x := cell.x, y := cell.y + 1 }, { x := cell.x - 1, y := cell.y }]

namespace Problem

def goalPlaces (problem : Problem) : List Nat := problem.goals.filterMap problem.raster.place?

def open? (problem : Problem) (goals : List Nat) (i : Nat) : Bool :=
  goals.contains i
    || match problem.raster.cells[i]? with
      | none => false
      | some state => state.passable problem.crossing problem.forced

end Problem

def Search.label (search : Search) (i : Nat) (label : Label) (rest : Nat) : Search :=
  if search.labels.improves i label.cost then
    let { labels, queue, turn } := search
    let visit := { estimate := label.cost + rest, cost := label.cost, turn, place := i }
    { labels := labels.setIfInBounds i (some label)
      queue := queue.push Visit.before visit
      turn := turn + 1 }
  else search

def start (problem : Problem) (box : CellSpan) (sources : List Cell) : Search :=
  sources.foldl
    (fun search cell =>
      match problem.raster.place? cell with
      | none => search
      | some i => search.label i { cost := 0, previous := none } (stepsTo box cell))
    { labels := Array.replicate problem.raster.cells.size none, queue := .empty, turn := 0 }

def reach (problem : Problem) (goals : List Nat) (box : CellSpan) (visit : Visit) (search : Search)
    (cell : Cell) : Search :=
  match problem.raster.place? cell with
  | none => search
  | some i =>
    if problem.open? goals i then
      search.label i { cost := visit.cost + 1, previous := some visit.place } (stepsTo box cell)
    else search

def expand (problem : Problem) (goals : List Nat) (box : CellSpan) (visit : Visit)
    (search : Search) : Search :=
  (neighbours (problem.raster.cellAt visit.place)).foldl (reach problem goals box visit) search

/-- A search after another that labels more places, or as many with shorter paths, or no other. -/
def Search.After (later earlier : Search) : Prop :=
  later.labels.unlabelled < earlier.labels.unlabelled
    ∨ later.labels.unlabelled = earlier.labels.unlabelled ∧ later.labels.total < earlier.labels.total
    ∨ later = earlier

theorem sum_map_set {β : Type} (f : β → Nat) (items : List β) (i : Nat) (x y : β)
    (found : items[i]? = some x) :
    ((items.set i y).map f).foldr (· + ·) 0 + f x = (items.map f).foldr (· + ·) 0 + f y := by
  induction items generalizing i with
  | nil => simp at found
  | cons first rest ih =>
    cases i with
    | zero =>
      have same : first = x := by simpa using found
      simp only [List.set_cons_zero, List.map_cons, List.foldr_cons, same]
      omega
    | succ i =>
      have step := ih i (by simpa using found)
      simp only [List.set_cons_succ, List.map_cons, List.foldr_cons]
      omega

theorem label_after (search : Search) (i : Nat) (label : Label) (rest : Nat) :
    (search.label i label rest).After search := by
  unfold Search.label
  split
  · rename_i better
    unfold Search.After Labels.unlabelled Labels.total
    unfold Labels.improves at better
    simp only [Array.toList_setIfInBounds]
    cases found : search.labels[i]? with
    | none => simp [found] at better
    | some old =>
      rw [← Array.getElem?_toList] at found
      have missing := sum_map_set Labels.missing search.labels.toList i old (some label) found
      have weight := sum_map_set Labels.weight search.labels.toList i old (some label) found
      rw [Array.getElem?_toList] at found
      cases old with
      | none =>
        left
        simp only [Labels.missing] at missing
        omega
      | some old =>
        have shorter : label.cost < old.cost := by simpa [found] using better
        right
        left
        simp only [Labels.missing] at missing
        simp only [Labels.weight] at weight
        omega
  · exact .inr (.inr rfl)

theorem reach_after (problem : Problem) (goals : List Nat) (box : CellSpan) (visit : Visit)
    (search : Search) (cell : Cell) : (reach problem goals box visit search cell).After search := by
  unfold reach
  split
  · exact .inr (.inr rfl)
  · split
    · exact label_after ..
    · exact .inr (.inr rfl)

theorem After.trans {a b c : Search} (first : b.After a) (second : c.After b) : c.After a := by
  rcases first with h | h | rfl
  · rcases second with k | k | rfl
    · exact .inl (by omega)
    · exact .inl (by omega)
    · exact .inl h
  · rcases second with k | k | rfl
    · exact .inl (by omega)
    · exact .inr (.inl (by omega))
    · exact .inr (.inl h)
  · exact second

theorem expand_after (problem : Problem) (goals : List Nat) (box : CellSpan) (visit : Visit)
    (search : Search) : (expand problem goals box visit search).After search := by
  unfold expand
  generalize neighbours (problem.raster.cellAt visit.place) = cells
  induction cells generalizing search with
  | nil => exact .inr (.inr rfl)
  | cons cell rest ih => exact After.trans (reach_after ..) (ih _)

def run (problem : Problem) (goals : List Nat) (box : CellSpan) (search : Search) :
    Option (Labels × Nat) :=
  match _popped : search.queue.pop? Visit.before with
  | none => none
  | some (visit, queue) =>
    let labels := search.labels
    let turn := search.turn
    -- a place is queued again when its label is shortened, and its older visits are passed over
    if labels.cost? visit.place ≠ some visit.cost then run problem goals box { labels, queue, turn }
    else if goals.contains visit.place then some (labels, visit.place)
    else run problem goals box (expand problem goals box visit { labels, queue, turn })
termination_by (search.labels.unlabelled, search.labels.total, search.queue.size)
decreasing_by
  · have shorter := Heap.size_pop _ _ _ _ _popped
    refine Prod.Lex.right _ (Prod.Lex.right _ ?_)
    omega
  · have shorter := Heap.size_pop _ _ _ _ _popped
    rcases expand_after problem goals box visit { labels, queue, turn } with h | ⟨h, k⟩ | h
    · exact Prod.Lex.left _ _ h
    · rw [h]
      exact Prod.Lex.right _ (Prod.Lex.left _ _ k)
    · rw [h]
      refine Prod.Lex.right _ (Prod.Lex.right _ ?_)
      show queue.size < search.queue.size
      omega

def walkBack (labels : Labels) : Nat → Nat → List Nat → List Nat
  | 0, i, path => i :: path
  | steps + 1, i, path =>
    match (labels[i]?.join).bind (·.previous) with
    | none => i :: path
    | some before => walkBack labels steps before (i :: path)

def shortest (problem : Problem) (sources : List Cell) : Option (List Cell) :=
  if sources.isEmpty || problem.goals.isEmpty then none
  else
    let box := boxAround problem.goals
    match run problem problem.goalPlaces box (start problem box sources) with
    | none => none
    | some (labels, goal) =>
      let path := walkBack labels ((labels.cost? goal).getD 0) goal []
      some (path.map problem.raster.cellAt)

end GridPath

end Floorplan

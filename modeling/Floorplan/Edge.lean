import Floorplan.Components
import Floorplan.Room

/-!
Which rooms are joined. The tree edges are the pairs of rooms, shortest first and then in the order
of the rooms, that link two parts not linked before; extra edges add loops to the tree.
-/

set_option autoImplicit false

namespace Floorplan

open Floorplan.Random (Draw)

inductive Metric where
  | euclidean
  | manhattan
deriving DecidableEq

def Metric.distance {α : Type} [Coord α] (metric : Metric) (p q : Point α) : α :=
  let dx := p.x - q.x
  let dy := p.y - q.y
  match metric with
  | .euclidean => Coord.root (dx * dx + dy * dy)
  | .manhattan => Coord.abs dx + Coord.abs dy

inductive EdgeKind where
  | tree
  | extra
deriving DecidableEq

structure Edge (α : Type) where
  a : RoomId
  b : RoomId
  weight : α
  kind : EdgeKind
deriving BEq, DecidableEq

def unordered (a b : RoomId) : RoomId × RoomId := if a.index ≤ b.index then (a, b) else (b, a)

namespace Edge

variable {α : Type}

def isTree (e : Edge α) : Bool := decide (e.kind = .tree)

def key (e : Edge α) : RoomId × RoomId := unordered e.a e.b

end Edge

variable {α : Type} [Coord α]

def pairEdges (metric : Metric) : List (Room α) → List (Edge α)
  | [] => []
  | room :: later =>
    later.map (fun other =>
      { a := room.id, b := other.id, weight := metric.distance room.center other.center, kind := .tree })
      ++ pairEdges metric later

def linkingEdges : List (Edge α) → Components → List (Edge α)
  | [], _ => []
  | e :: rest, components =>
    let (fresh, components) := components.merge e.a.index e.b.index
    if fresh then e :: linkingEdges rest components else linkingEdges rest components

def spanningTree (rooms : Array (Room α)) (metric : Metric) : List (Edge α) :=
  let candidates := pairEdges metric rooms.toList
  linkingEdges (candidates.mergeSort fun e f => Coord.totalLe e.weight f.weight) (.new rooms.size)

def partners (id : RoomId) (pairs : List (RoomId × RoomId)) : List RoomId :=
  pairs.filterMap fun (a, b) => if a = id then some b else if b = id then some a else none

def nearest? : List (RoomId × α) → Option (RoomId × α)
  | [] => none
  | first :: rest =>
    some (rest.foldl (fun best next => if Coord.totalLe best.2 next.2 then best else next) first)

def nearestUnpaired (rooms : Array (Room α)) (metric : Metric) (id : RoomId)
    (pairs : List (RoomId × RoomId)) : Option (RoomId × α) :=
  match rooms[id.index]? with
  | none => none
  | some room =>
    let joined := partners id pairs
    let free := rooms.toList.filter fun other => other.id != id && !joined.contains other.id
    nearest? (free.map fun other => (other.id, metric.distance room.center other.center))

/-- Walk over tree edges until `left` extra ones are found: one from a drawn end of each edge to the
room nearest to that end and not yet paired with it. -/
def extraFrom (rooms : Array (Room α)) (metric : Metric) :
    List (Edge α) → Nat → List (RoomId × RoomId) → Draw (List (Edge α))
  | [], _, _ => pure []
  | _ :: _, 0, _ => pure []
  | e :: rest, left + 1, pairs => do
    let first ← Random.oneIn 2
    let source := if first then e.a else e.b
    match nearestUnpaired rooms metric source pairs with
    | none => extraFrom rooms metric rest (left + 1) pairs
    | some (target, weight) =>
      let more ← extraFrom rooms metric rest left (unordered source target :: pairs)
      pure ({ a := source, b := target, weight, kind := .extra } :: more)

-- without a limit on the list of the edges, as `Words.extraEdges?` has it
def extraEdges (rooms : Array (Room α)) (tree : List (Edge α)) (count : Nat) (metric : Metric) :
    Draw (List (Edge α)) := do
  let order ← Random.shuffle tree.toArray
  extraFrom rooms metric order.toList count (tree.map Edge.key)

def extraCount (treeSize : Nat) (fraction : α) : Nat :=
  (Coord.toInt .nearest 0 Number.countMax (Coord.ofInt treeSize * fraction)).toNat

def buildEdges (rooms : Array (Room α)) (metric : Metric) (fraction : α) : Draw (List (Edge α)) := do
  let tree := spanningTree rooms metric
  let count := extraCount tree.length fraction
  if count = 0 then pure tree
  else
    let extra ← extraEdges rooms tree count metric
    pure (tree ++ extra)

end Floorplan

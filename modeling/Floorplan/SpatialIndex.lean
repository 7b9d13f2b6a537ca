import Std.Data.ExtHashMap
import Floorplan.Connector

/-!
Reserved rectangles and a search over them. The reservations are a list in order of insertion; a
map from square buckets to their numbers only narrows a search down, and every candidate is tested
with `Rect.overlaps`. Reservations are taken back in the reverse of their order.
-/

set_option autoImplicit false

namespace Floorplan

inductive Occupant where
  | room (id : RoomId)
  | connector (id : ConnectorId)
deriving DecidableEq, Hashable

namespace Occupant

def isRoom : Occupant → Bool
  | .room _ => true
  | .connector _ => false

def isConnector : Occupant → Bool
  | .room _ => false
  | .connector _ => true

end Occupant

structure Reservation (α : Type) where
  rect : Rect α
  occupant : Occupant
deriving BEq, DecidableEq

structure Checkpoint where
  count : Nat
deriving DecidableEq

/-- The numbers of the reservations in each bucket that has any, least first. -/
abbrev Buckets := Std.ExtHashMap (Int × Int) (Array Nat)

namespace Buckets

def add (i : Nat) (buckets : Buckets) (key : Int × Int) : Buckets :=
  buckets.alter key fun
    | none => some #[i]
    | some ids => some (ids.push i)

def drop (i : Nat) (buckets : Buckets) (key : Int × Int) : Buckets :=
  buckets.alter key fun
    | none => none
    | some ids =>
      -- numbers only grow along a bucket, so the last reservation stands at its end
      let rest := if ids.back? = some i then ids.pop else ids
      if rest.isEmpty then none else some rest

end Buckets

structure SpatialIndex (α : Type) where
  cellSize : α
  entries : Array (Reservation α)
  buckets : Buckets

def span (lo hi : Int) : List Int := (List.range (hi - lo + 1).toNat).map fun (i : Nat) => lo + i

namespace SpatialIndex

variable {α : Type} [Coord α]

def new (cellSize : α) : SpatialIndex α := { cellSize, entries := #[], buckets := ∅ }

def size (index : SpatialIndex α) : Nat := index.entries.size

def isEmpty (index : SpatialIndex α) : Bool := index.entries.isEmpty

def keys (index : SpatialIndex α) (rect : Rect α) : List (Int × Int) :=
  let bucket (v : α) : Int := Coord.floorCell (v / index.cellSize)
  let rows := span (bucket rect.top) (bucket rect.bottom)
  (span (bucket rect.left) (bucket rect.right)).flatMap fun x => rows.map fun y => (x, y)

def reserve (index : SpatialIndex α) (rect : Rect α) (occupant : Occupant) : SpatialIndex α :=
  let keys := index.keys rect
  let i := index.entries.size
  { cellSize := index.cellSize
    entries := index.entries.push { rect, occupant }
    buckets := keys.foldl (Buckets.add i) index.buckets }

def reserveAll (index : SpatialIndex α) (rects : List (Rect α)) (occupant : Occupant) :
    SpatialIndex α :=
  rects.foldl (fun index rect => index.reserve rect occupant) index

def bucket (index : SpatialIndex α) (key : Int × Int) : Array Nat := index.buckets.getD key #[]

def hits (index : SpatialIndex α) (rect : Rect α) (filter : Occupant → Bool) (i : Nat) : Bool :=
  match index.entries[i]? with
  | none => false
  | some entry => filter entry.occupant && entry.rect.overlaps rect

def overlapsWhere (index : SpatialIndex α) (rect : Rect α) (filter : Occupant → Bool) : Bool :=
  (index.keys rect).any fun key => (index.bucket key).any (index.hits rect filter)

def overlapsAny (index : SpatialIndex α) (rect : Rect α) : Bool :=
  index.overlapsWhere rect fun _ => true

def overlapping (index : SpatialIndex α) (rect : Rect α) : List Occupant :=
  -- a reservation is met once in every bucket that it shares with the rectangle
  let candidates := (index.keys rect).flatMap fun key =>
    (index.bucket key).toList.filter (index.hits rect fun _ => true)
  let numbers := (candidates.mergeSort fun i j => decide (i ≤ j)).eraseReps
  (numbers.filterMap fun i => index.entries[i]?.map (·.occupant)).eraseDups

def checkpoint (index : SpatialIndex α) : Checkpoint := { count := index.entries.size }

def pop (index : SpatialIndex α) : SpatialIndex α :=
  match index.entries.back? with
  | none => index
  | some last =>
    let keys := index.keys last.rect
    let i := index.entries.size - 1
    { cellSize := index.cellSize
      entries := index.entries.pop
      buckets := keys.foldl (Buckets.drop i) index.buckets }

def popTimes : Nat → SpatialIndex α → SpatialIndex α
  | 0, index => index
  | n + 1, index => popTimes n index.pop

/-- Take back every reservation made after the checkpoint; none when there are no more than it
counts. -/
def rollback (index : SpatialIndex α) (checkpoint : Checkpoint) : SpatialIndex α :=
  index.popTimes (index.entries.size - checkpoint.count)

end SpatialIndex

end Floorplan

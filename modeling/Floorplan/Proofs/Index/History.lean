import Mathlib.Data.List.Sort
import Floorplan.SpatialIndex

set_option autoImplicit false

namespace Floorplan

theorem mem_span (lo hi i : Int) : i ∈ span lo hi ↔ lo ≤ i ∧ i ≤ hi := by
  simp only [span, List.mem_map, List.mem_range]
  constructor
  · rintro ⟨n, bound, rfl⟩
    omega
  · rintro ⟨low, high⟩
    exact ⟨(i - lo).toNat, by omega, by omega⟩

theorem span_nodup (lo hi : Int) : (span lo hi).Nodup := by
  apply List.Nodup.map _ List.nodup_range
  intro m n same
  have shifted : lo + (m : Int) = lo + (n : Int) := same
  omega

theorem foldl_alter_get (change : Option (Array Nat) → Option (Array Nat)) (keys : List (Int × Int))
    (nodup : keys.Nodup) (buckets : Buckets) (key : Int × Int) :
    (keys.foldl (fun (buckets : Buckets) key => buckets.alter key change) buckets)[key]? =
      if key ∈ keys then change buckets[key]? else buckets[key]? := by
  induction keys generalizing buckets with
  | nil => simp
  | cons head tail ih =>
      obtain ⟨absent, rest⟩ := List.nodup_cons.mp nodup
      rw [List.foldl_cons, ih rest, Std.ExtHashMap.getElem?_alter]
      by_cases hit : head = key
      · subst hit
        simp [absent]
      · simp [hit, Ne.symm hit]

namespace Rect

variable {α : Type} [Coord α]

def reaches (rect : Rect α) (cellSize : α) (key : Int × Int) : Bool :=
  decide (Coord.floorCell (rect.left / cellSize) ≤ key.1
      ∧ key.1 ≤ Coord.floorCell (rect.right / cellSize))
    && decide (Coord.floorCell (rect.top / cellSize) ≤ key.2
      ∧ key.2 ≤ Coord.floorCell (rect.bottom / cellSize))

end Rect

namespace SpatialIndex

variable {α : Type} [Coord α]

theorem mem_keys (index : SpatialIndex α) (rect : Rect α) (key : Int × Int) :
    key ∈ index.keys rect ↔ rect.reaches index.cellSize key = true := by
  obtain ⟨x, y⟩ := key
  simp [keys, Rect.reaches, mem_span]

theorem keys_nodup (index : SpatialIndex α) (rect : Rect α) : (index.keys rect).Nodup := by
  rw [keys, List.nodup_flatMap]
  constructor
  · intro x _
    exact List.Nodup.map (fun _ _ same => congrArg Prod.snd same) (span_nodup _ _)
  · apply (span_nodup _ _).imp
    intro x x' different key member member'
    obtain ⟨y, _, rfl⟩ := List.mem_map.mp member
    obtain ⟨y', _, same⟩ := List.mem_map.mp member'
    exact different (congrArg Prod.fst same).symm

def reachers (cellSize : α) (entries : List (Reservation α)) (key : Int × Int) : List Nat :=
  (List.range entries.length).filter fun i => entries[i]?.any fun entry => entry.rect.reaches cellSize key

theorem reachers_concat (cellSize : α) (entries : List (Reservation α)) (entry : Reservation α)
    (key : Int × Int) :
    reachers cellSize (entries ++ [entry]) key =
      reachers cellSize entries key ++ if entry.rect.reaches cellSize key then [entries.length] else [] := by
  have earlier : ∀ i ∈ List.range entries.length, (entries ++ [entry])[i]? = entries[i]? := by
    intro i member
    exact List.getElem?_append_left (List.mem_range.mp member)
  rw [reachers, List.length_append, List.length_singleton, List.range_succ, List.filter_append]
  congr 1
  · apply List.filter_congr
    intro i member
    rw [earlier i member]
  · by_cases hit : entry.rect.reaches cellSize key = true <;> simp [hit]

def filled (ids : List Nat) : Option (Array Nat) := if ids.isEmpty then none else some ids.toArray

structure Faithful (index : SpatialIndex α) : Prop where
  bucket : ∀ key, index.buckets[key]? = filled (reachers index.cellSize index.entries.toList key)

theorem faithful_unique (a b : SpatialIndex α) (aFaithful : a.Faithful) (bFaithful : b.Faithful)
    (cellSize : a.cellSize = b.cellSize) (entries : a.entries = b.entries) : a = b := by
  have buckets : a.buckets = b.buckets := by
    apply Std.ExtHashMap.ext_getElem?
    intro key
    rw [aFaithful.bucket key, bFaithful.bucket key, cellSize, entries]
  cases a
  cases b
  simp_all

theorem new_faithful (cellSize : α) : (SpatialIndex.new cellSize).Faithful where
  bucket := by
    intro key
    simp [new, reachers, filled]

theorem reserve_faithful (index : SpatialIndex α) (faithful : index.Faithful) (rect : Rect α)
    (occupant : Occupant) : (index.reserve rect occupant).Faithful where
  bucket := by
    intro key
    refine Eq.trans (foldl_alter_get _ _ (index.keys_nodup rect) index.buckets key) ?_
    rw [faithful.bucket key]
    simp only [reserve, Array.toList_push, reachers_concat, mem_keys, Array.length_toList]
    -- the new number is the largest so far, so it comes last in every bucket that it reaches
    by_cases hit : rect.reaches index.cellSize key = true
    · cases reachers index.cellSize index.entries.toList key <;> simp [hit, filled]
    · simp [hit]

theorem pop_faithful (index : SpatialIndex α) (faithful : index.Faithful) : index.pop.Faithful := by
  obtain ⟨cellSize, entries, buckets⟩ := index
  rw [pop]
  cases lastEq : entries.back? with
  | none => exact faithful
  | some last =>
      obtain ⟨earlier, rfl⟩ := Array.back?_eq_some_iff.mp lastEq
      constructor
      intro key
      have before := faithful.bucket key
      simp only [Array.toList_push, reachers_concat, Array.length_toList] at before
      refine Eq.trans (foldl_alter_get _ _ (keys_nodup _ _) buckets key) ?_
      simp only [mem_keys, Array.pop_push, Array.size_push, Nat.add_sub_cancel, before]
      -- the number of the last reservation stands at the end of every bucket that it reaches
      by_cases hit : last.rect.reaches cellSize key = true
      · simp [hit, filled]
      · simp [hit]

theorem pop_entries (index : SpatialIndex α) : index.pop.entries = index.entries.pop := by
  rw [pop]
  cases lastEq : index.entries.back? with
  | none =>
      rw [Array.back?_eq_none_iff.mp lastEq]
      rfl
  | some last => rfl

@[simp] theorem pop_cell_size (index : SpatialIndex α) : index.pop.cellSize = index.cellSize := by
  rw [pop]
  split <;> rfl

theorem pop_times_spec (n : Nat) (index : SpatialIndex α) (faithful : index.Faithful) :
    (popTimes n index).Faithful ∧ (popTimes n index).cellSize = index.cellSize
      ∧ (popTimes n index).entries.toList = index.entries.toList.take (index.entries.size - n) := by
  induction n generalizing index with
  | zero => exact ⟨faithful, rfl, (List.take_of_length_le (by simp [popTimes])).symm⟩
  | succ n ih =>
      obtain ⟨left, size, entries⟩ := ih index.pop (pop_faithful index faithful)
      refine ⟨left, size.trans (pop_cell_size index), entries.trans ?_⟩
      rw [pop_entries, Array.toList_pop, Array.size_pop, List.dropLast_eq_take, List.take_take,
        Array.length_toList]
      congr 1
      omega

theorem rollback_spec (index : SpatialIndex α) (faithful : index.Faithful) (checkpoint : Checkpoint) :
    (index.rollback checkpoint).Faithful ∧ (index.rollback checkpoint).cellSize = index.cellSize
      ∧ (index.rollback checkpoint).entries.toList = index.entries.toList.take checkpoint.count := by
  obtain ⟨left, size, entries⟩ :=
    pop_times_spec (index.entries.size - checkpoint.count) index faithful
  refine ⟨left, size, entries.trans ?_⟩
  rcases Nat.le_total checkpoint.count index.entries.size with fewer | more
  · rw [Nat.sub_sub_self fewer]
  · rw [Nat.sub_eq_zero_of_le more, Nat.sub_zero, List.take_of_length_le (by simp),
      List.take_of_length_le (by simpa using more)]

def ofReservations (cellSize : α) (entries : List (Reservation α)) : SpatialIndex α :=
  entries.foldl (fun index entry => index.reserve entry.rect entry.occupant) (.new cellSize)

end SpatialIndex

-- What can be asked of an index besides searches. A snapshot leaves it as it is.
inductive IndexOp (α : Type) where
  | reserve (rect : Rect α) (occupant : Occupant)
  | checkpoint
  | rollback (mark : Checkpoint)

namespace IndexOp

variable {α : Type} [Coord α]

def apply (index : SpatialIndex α) : IndexOp α → SpatialIndex α
  | .reserve rect occupant => index.reserve rect occupant
  | .checkpoint => index
  | .rollback mark => index.rollback mark

def applyToList (live : List (Reservation α)) : IndexOp α → List (Reservation α)
  | .reserve rect occupant => live ++ [{ rect, occupant }]
  | .checkpoint => live
  | .rollback mark => live.take mark.count

def run (ops : List (IndexOp α)) (index : SpatialIndex α) : SpatialIndex α := ops.foldl apply index

def runList (ops : List (IndexOp α)) (live : List (Reservation α)) : List (Reservation α) :=
  ops.foldl applyToList live

theorem apply_spec (op : IndexOp α) (index : SpatialIndex α) (faithful : index.Faithful) :
    (apply index op).Faithful ∧ (apply index op).cellSize = index.cellSize
      ∧ (apply index op).entries.toList = applyToList index.entries.toList op := by
  cases op with
  | reserve rect occupant =>
      exact ⟨index.reserve_faithful faithful rect occupant, rfl, Array.toList_push⟩
  | checkpoint => exact ⟨faithful, rfl, rfl⟩
  | rollback mark => exact index.rollback_spec faithful mark

theorem run_spec (ops : List (IndexOp α)) (index : SpatialIndex α) (faithful : index.Faithful) :
    (run ops index).Faithful ∧ (run ops index).cellSize = index.cellSize
      ∧ (run ops index).entries.toList = runList ops index.entries.toList := by
  induction ops generalizing index with
  | nil => exact ⟨faithful, rfl, rfl⟩
  | cons op rest ih =>
      obtain ⟨left, size, entries⟩ := apply_spec op index faithful
      obtain ⟨leftAll, sizes, all⟩ := ih (apply index op) left
      refine ⟨leftAll, sizes.trans size, all.trans ?_⟩
      rw [entries]
      rfl

end IndexOp

namespace SpatialIndex

variable {α : Type} [Coord α]

def Reached (index : SpatialIndex α) : Prop :=
  ∃ (cellSize : α) (ops : List (IndexOp α)), index = IndexOp.run ops (.new cellSize)

theorem of_reservations_run (cellSize : α) (entries : List (Reservation α)) :
    ofReservations cellSize entries =
      IndexOp.run (entries.map fun entry => .reserve entry.rect entry.occupant) (.new cellSize) := by
  rw [IndexOp.run, List.foldl_map]
  rfl

omit [Coord α] in
theorem reserve_list_entries (entries live : List (Reservation α)) :
    IndexOp.runList (entries.map fun entry => .reserve entry.rect entry.occupant) live = live ++ entries := by
  induction entries generalizing live with
  | nil => simp [IndexOp.runList]
  | cons entry rest ih =>
      have tail := ih (live ++ [entry])
      rw [List.append_assoc, List.singleton_append] at tail
      exact tail

theorem of_reservations_spec (cellSize : α) (entries : List (Reservation α)) :
    (ofReservations cellSize entries).Faithful ∧ (ofReservations cellSize entries).cellSize = cellSize
      ∧ (ofReservations cellSize entries).entries.toList = entries := by
  rw [of_reservations_run]
  obtain ⟨faithful, size, live⟩ := IndexOp.run_spec
    (entries.map fun entry => .reserve entry.rect entry.occupant) (.new cellSize) (new_faithful cellSize)
  exact ⟨faithful, size, live.trans (reserve_list_entries entries [])⟩

theorem faithful_of_reservations (index : SpatialIndex α) (faithful : index.Faithful) :
    index = ofReservations index.cellSize index.entries.toList := by
  obtain ⟨fresh, size, entries⟩ := of_reservations_spec index.cellSize index.entries.toList
  exact faithful_unique _ _ faithful fresh size.symm (Array.ext' entries.symm)

theorem reached_iff_faithful (index : SpatialIndex α) : index.Reached ↔ index.Faithful := by
  constructor
  · rintro ⟨cellSize, ops, rfl⟩
    exact (IndexOp.run_spec ops _ (new_faithful cellSize)).1
  · intro faithful
    exact ⟨_, _, (faithful_of_reservations index faithful).trans (of_reservations_run _ _)⟩

end SpatialIndex

end Floorplan

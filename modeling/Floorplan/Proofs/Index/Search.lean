import Floorplan.Proofs.Index.History
import Floorplan.Proofs.LawfulCoord

set_option autoImplicit false

namespace Floorplan

theorem erase_reps_loop (a : Nat) (rest kept : List Nat) (sorted : (a :: rest).Pairwise (· ≤ ·))
    (ordered : kept.reverse.Pairwise (· < ·)) (below : ∀ k ∈ kept, k < a) :
    (List.eraseRepsBy.loop (· == ·) a rest kept).Pairwise (· < ·)
      ∧ ∀ i, i ∈ List.eraseRepsBy.loop (· == ·) a rest kept ↔ i ∈ kept ∨ i ∈ a :: rest := by
  induction rest generalizing a kept with
  | nil =>
      rw [List.eraseRepsBy.loop, List.reverse_cons]
      refine ⟨List.pairwise_append.mpr ⟨ordered, by simp, by simpa using below⟩, ?_⟩
      intro i
      simp
  | cons b rest ih =>
      obtain ⟨least, tail⟩ := List.pairwise_cons.mp sorted
      have le : a ≤ b := least b (by simp)
      rw [List.eraseRepsBy.loop]
      by_cases same : a = b
      · subst same
        simp only [BEq.rfl]
        obtain ⟨strict, members⟩ := ih a kept tail ordered below
        refine ⟨strict, fun i => (members i).trans ?_⟩
        simp
      · have differ : (a == b) = false := by simpa using same
        simp only [differ]
        obtain ⟨strict, members⟩ := ih b (a :: kept) tail
          (by
            rw [List.reverse_cons]
            exact List.pairwise_append.mpr ⟨ordered, by simp, by simpa using below⟩)
          (by
            intro k member
            rcases List.mem_cons.mp member with rfl | earlier
            · omega
            · exact Nat.lt_of_lt_of_le (below k earlier) le)
        refine ⟨strict, fun i => (members i).trans ?_⟩
        simp only [List.mem_cons]
        tauto

theorem sorted_numbers_unique (numbers sorted : List Nat) (strict : sorted.Pairwise (· < ·))
    (same : ∀ i, i ∈ numbers ↔ i ∈ sorted) :
    (numbers.mergeSort fun i j => decide (i ≤ j)).eraseReps = sorted := by
  have ordered : (numbers.mergeSort fun i j => decide (i ≤ j)).Pairwise (· ≤ ·) := by
    have trans : ∀ i j k : Nat, decide (i ≤ j) = true → decide (j ≤ k) = true → decide (i ≤ k) = true := by
      simp only [decide_eq_true_eq]
      omega
    have total : ∀ i j : Nat, (decide (i ≤ j) || decide (j ≤ i)) = true := by
      simp only [Bool.or_eq_true, decide_eq_true_eq]
      omega
    simpa using List.pairwise_mergeSort trans total numbers
  have members : ∀ i, i ∈ (numbers.mergeSort fun i j => decide (i ≤ j)) ↔ i ∈ sorted := fun i =>
    List.mem_mergeSort.trans (same i)
  generalize (numbers.mergeSort fun i j => decide (i ≤ j)) = l at ordered members
  cases l with
  | nil =>
      cases sorted with
      | nil => rfl
      | cons first rest => simpa using members first
  | cons first rest =>
      obtain ⟨strict', members'⟩ := erase_reps_loop first rest [] ordered (by simp) (by simp)
      apply List.Pairwise.eq_of_mem_iff strict' strict
      intro i
      rw [← members i]
      simpa using members' i

theorem passing_entries {β γ : Type} (p : β → Bool) (f : β → γ) (entries : List β) :
    ((List.range entries.length).filter fun i => entries[i]?.any p).filterMap (fun i => entries[i]?.map f) =
      (entries.filter p).map f := by
  induction entries with
  | nil => rfl
  | cons entry rest ih =>
      rw [List.length_cons, List.range_succ_eq_map, List.filter_cons, List.filter_map]
      by_cases hit : p entry = true
      · simpa [hit, List.filterMap_map, Function.comp_def] using ih
      · simpa [hit, List.filterMap_map, Function.comp_def] using ih

namespace SpatialIndex

variable {α : Type} [Coord α]

theorem bucket_mem (index : SpatialIndex α) (faithful : index.Faithful) (key : Int × Int) (i : Nat) :
    i ∈ index.bucket key ↔
      ∃ entry, index.entries[i]? = some entry ∧ entry.rect.reaches index.cellSize key = true := by
  have content : index.bucket key = (reachers index.cellSize index.entries.toList key).toArray := by
    rw [bucket, Std.ExtHashMap.getD_eq_getD_getElem?, faithful.bucket key]
    cases reachers index.cellSize index.entries.toList key <;> rfl
  rw [content, List.mem_toArray, reachers, List.mem_filter, List.mem_range, Option.any_eq_true,
    Array.getElem?_toList]
  constructor
  · rintro ⟨_, found⟩
    exact found
  · rintro ⟨entry, read, reach⟩
    exact ⟨(Array.getElem?_eq_some_iff.mp read).1, entry, read, reach⟩

theorem hits_iff (index : SpatialIndex α) (rect : Rect α) (filter : Occupant → Bool) (i : Nat) :
    index.hits rect filter i = true ↔
      ∃ entry, index.entries[i]? = some entry ∧ filter entry.occupant = true
        ∧ entry.rect.overlaps rect = true := by
  rw [hits]
  cases index.entries[i]? <;> simp

variable [LawfulCoord α]

theorem meeting_cells (a0 a1 b0 b1 cellSize : α) (positive : Coord.zero < cellSize)
    (a : a0 ≤ a1) (b : b0 ≤ b1) (ab : a0 ≤ b1) (ba : b0 ≤ a1) :
    ∃ cell, (Coord.floorCell (a0 / cellSize) ≤ cell ∧ cell ≤ Coord.floorCell (a1 / cellSize))
      ∧ Coord.floorCell (b0 / cellSize) ≤ cell ∧ cell ≤ Coord.floorCell (b1 / cellSize) := by
  have aa := LawfulCoord.cell_mono _ _ _ positive a
  have bb := LawfulCoord.cell_mono _ _ _ positive b
  have ab' := LawfulCoord.cell_mono _ _ _ positive ab
  have ba' := LawfulCoord.cell_mono _ _ _ positive ba
  exact ⟨max (Coord.floorCell (a0 / cellSize)) (Coord.floorCell (b0 / cellSize)), by omega, by omega⟩

theorem common_bucket (r s : Rect α) (cellSize : α) (positive : Coord.zero < cellSize) (rSized : r.Sized)
    (sSized : s.Sized) (overlap : r.overlaps s = true) :
    ∃ key, r.reaches cellSize key = true ∧ s.reaches cellSize key = true := by
  obtain ⟨⟨rs, sr⟩, rsDown, srDown⟩ := Rect.overlaps_meet r s rSized sSized overlap
  obtain ⟨x, xr, xs⟩ := meeting_cells _ _ _ _ cellSize positive
    (Rect.sized_horizontal r rSized) (Rect.sized_horizontal s sSized) rs sr
  obtain ⟨y, yr, ys⟩ := meeting_cells _ _ _ _ cellSize positive
    (Rect.sized_vertical r rSized) (Rect.sized_vertical s sSized) rsDown srDown
  exact ⟨(x, y), by simp [Rect.reaches, xr, yr], by simp [Rect.reaches, xs, ys]⟩

-- The premises under which a search of the buckets misses nothing.
structure Searchable (index : SpatialIndex α) : Prop where
  faithful : index.Faithful
  cell_pos : Coord.zero < index.cellSize
  sized : ∀ entry ∈ index.entries.toList, entry.rect.Sized

omit [LawfulCoord α] in
theorem reserve_searchable (index : SpatialIndex α) (searchable : index.Searchable) (rect : Rect α)
    (sized : rect.Sized) (occupant : Occupant) : (index.reserve rect occupant).Searchable where
  faithful := index.reserve_faithful searchable.faithful rect occupant
  cell_pos := searchable.cell_pos
  sized := by
    intro entry member
    rcases Array.mem_push.mp (Array.mem_toList_iff.mp member) with earlier | rfl
    · exact searchable.sized entry (Array.mem_toList_iff.mpr earlier)
    · exact sized

theorem hit_in_bucket (index : SpatialIndex α) (searchable : index.Searchable) (rect : Rect α)
    (sized : rect.Sized) (filter : Occupant → Bool) (i : Nat) :
    (∃ key ∈ index.keys rect, i ∈ index.bucket key ∧ index.hits rect filter i = true) ↔
      index.hits rect filter i = true := by
  constructor
  · rintro ⟨_, _, _, hit⟩
    exact hit
  · intro hit
    obtain ⟨entry, read, _, overlap⟩ := (hits_iff index rect filter i).mp hit
    have member : entry ∈ index.entries.toList := Array.mem_toList_iff.mpr (Array.mem_of_getElem? read)
    -- the search visits the buckets of the query, and one of these holds the hit
    obtain ⟨key, here, there⟩ := common_bucket entry.rect rect index.cellSize searchable.cell_pos
      (searchable.sized entry member) sized overlap
    exact ⟨key, (index.mem_keys rect key).mpr there,
      (index.bucket_mem searchable.faithful key i).mpr ⟨entry, read, here⟩, hit⟩

theorem overlaps_where_eq (index : SpatialIndex α) (searchable : index.Searchable) (rect : Rect α)
    (sized : rect.Sized) (filter : Occupant → Bool) :
    index.overlapsWhere rect filter =
      index.entries.toList.any fun entry => filter entry.occupant && entry.rect.overlaps rect := by
  have found := fun i => hit_in_bucket index searchable rect sized filter i
  rw [Bool.eq_iff_iff, overlapsWhere, List.any_eq_true, List.any_eq_true]
  constructor
  · rintro ⟨key, _, hit⟩
    obtain ⟨i, bound, hit⟩ := Array.any_eq_true.mp hit
    obtain ⟨entry, read, passes, overlap⟩ := (hits_iff index rect filter _).mp hit
    exact ⟨entry, Array.mem_toList_iff.mpr (Array.mem_of_getElem? read), by simp [passes, overlap]⟩
  · rintro ⟨entry, member, passes⟩
    obtain ⟨i, read⟩ := Array.getElem?_of_mem (Array.mem_toList_iff.mp member)
    rw [Bool.and_eq_true] at passes
    obtain ⟨key, keyed, listed, hit⟩ :=
      (found i).mpr ((hits_iff index rect filter i).mpr ⟨entry, read, passes.1, passes.2⟩)
    refine ⟨key, keyed, Array.any_eq_true'.mpr ⟨i, listed, hit⟩⟩

theorem mem_candidates (index : SpatialIndex α) (searchable : index.Searchable) (rect : Rect α)
    (sized : rect.Sized) (i : Nat) :
    (i ∈ (index.keys rect).flatMap fun key =>
        (index.bucket key).toList.filter (index.hits rect fun _ => true)) ↔
      i ∈ (List.range index.entries.toList.length).filter fun i =>
        index.entries.toList[i]?.any fun entry => entry.rect.overlaps rect := by
  have found := hit_in_bucket index searchable rect sized (fun _ => true) i
  simp only [List.mem_flatMap, List.mem_filter, Array.mem_toList_iff, List.mem_range,
    Option.any_eq_true, Array.getElem?_toList]
  rw [found, hits_iff]
  simp only [true_and]
  constructor
  · rintro ⟨entry, read, overlap⟩
    exact ⟨by simpa using (Array.getElem?_eq_some_iff.mp read).1, entry, read, overlap⟩
  · rintro ⟨_, hit⟩
    exact hit

theorem overlapping_eq (index : SpatialIndex α) (searchable : index.Searchable) (rect : Rect α)
    (sized : rect.Sized) :
    index.overlapping rect =
      ((index.entries.toList.filter fun entry => entry.rect.overlaps rect).map (·.occupant)).eraseDups := by
  have numbers := sorted_numbers_unique _ _ (List.pairwise_lt_range.filter _)
    (mem_candidates index searchable rect sized)
  rw [overlapping, numbers, ← passing_entries]
  simp only [Array.getElem?_toList]

end SpatialIndex

variable {α : Type} [Coord α] [LawfulCoord α]

-- Every history leaves the reservations that the list keeps and the buckets that these fill, and
-- searches answer as over the list.
theorem index_refines_list (cellSize : α) (positive : Coord.zero < cellSize) (ops : List (IndexOp α)) :
    let index := IndexOp.run ops (.new cellSize)
    let live := IndexOp.runList ops []
    index.entries.toList = live
      ∧ index.checkpoint.count = live.length
      ∧ (∀ key, index.buckets[key]? = SpatialIndex.filled (SpatialIndex.reachers cellSize live key))
      ∧ index = SpatialIndex.ofReservations cellSize live
      ∧ ∀ query : Rect α, query.Sized → (∀ entry ∈ live, entry.rect.Sized) →
          (∀ filter : Occupant → Bool, index.overlapsWhere query filter = true ↔
            ∃ entry ∈ live, filter entry.occupant = true ∧ entry.rect.overlaps query = true)
          ∧ index.overlapping query =
              ((live.filter fun entry => entry.rect.overlaps query).map (·.occupant)).eraseDups := by
  intro index live
  obtain ⟨faithful, size, entries⟩ := IndexOp.run_spec ops _ (SpatialIndex.new_faithful cellSize)
  have content : index.entries.toList = live := entries
  have sameSize : index.cellSize = cellSize := size
  refine ⟨content, ?_, ?_, ?_, ?_⟩
  · rw [← content, Array.length_toList]
    rfl
  · intro key
    rw [← sameSize, ← content]
    exact faithful.bucket key
  · rw [← sameSize, ← content]
    exact SpatialIndex.faithful_of_reservations index faithful
  · intro query querySized liveSized
    rw [← sameSize] at positive
    rw [← content] at liveSized
    have searchable : index.Searchable := { faithful, cell_pos := positive, sized := liveSized }
    constructor
    · intro filter
      rw [SpatialIndex.overlaps_where_eq index searchable query querySized, content, List.any_eq_true]
      simp only [Bool.and_eq_true]
    · rw [SpatialIndex.overlapping_eq index searchable query querySized, content]

def rolledBack : List (IndexOp Rat) :=
  [.reserve ⟨-3, -3, 4, 4⟩ (.room ⟨0⟩), .checkpoint, .reserve ⟨0, 0, 9, 1⟩ (.connector ⟨0⟩),
    .rollback ⟨1⟩, .rollback ⟨7⟩, .reserve ⟨0, 0, 1, 5⟩ (.connector ⟨1⟩)]

theorem rolled_back_search :
    (Coord.zero : Rat) < 2
      ∧ (∀ entry ∈ IndexOp.runList rolledBack [], entry.rect.Sized)
      ∧ (⟨-1, -1, 2, 3⟩ : Rect Rat).Sized
      ∧ (IndexOp.run rolledBack (.new 2)).overlapping ⟨-1, -1, 2, 3⟩ = [.room ⟨0⟩, .connector ⟨1⟩] := by
  have positive : (Coord.zero : Rat) < 2 := by decide +kernel
  have live : IndexOp.runList rolledBack [] =
      [⟨⟨-3, -3, 4, 4⟩, .room ⟨0⟩⟩, ⟨⟨0, 0, 1, 5⟩, .connector ⟨1⟩⟩] := rfl
  have sized : ∀ entry ∈ IndexOp.runList rolledBack [], entry.rect.Sized := by
    rw [live]
    intro entry member
    apply Rect.sized_of_nonneg
    · revert entry
      decide +kernel
    · revert entry
      decide +kernel
  have query : (⟨-1, -1, 2, 3⟩ : Rect Rat).Sized :=
    Rect.sized_of_nonneg _ (by decide +kernel) (by decide +kernel)
  obtain ⟨_, _, _, _, search⟩ := index_refines_list 2 positive rolledBack
  refine ⟨positive, sized, query, (search _ query sized).2.trans ?_⟩
  rw [live]
  decide +kernel

end Floorplan

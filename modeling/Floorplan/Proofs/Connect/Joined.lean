import Mathlib.Logic.Relation
import Floorplan.Proofs.Connect.Balance

set_option autoImplicit false

namespace Floorplan.Components

variable {c : Components}

def Joined (pairs : List (Nat × Nat)) : Nat → Nat → Prop := Relation.EqvGen fun i j => (i, j) ∈ pairs

namespace Joined

variable {pairs more : List (Nat × Nat)} {i j k : Nat}

theorem refl (i : Nat) : Joined pairs i i := Relation.EqvGen.refl i

theorem symm (joined : Joined pairs i j) : Joined pairs j i := Relation.EqvGen.symm i j joined

theorem trans (first : Joined pairs i j) (second : Joined pairs j k) : Joined pairs i k :=
  Relation.EqvGen.trans i j k first second

theorem of_mem (member : (i, j) ∈ pairs) : Joined pairs i j := Relation.EqvGen.rel i j member

theorem mono (sub : pairs ⊆ more) (joined : Joined pairs i j) : Joined more i j :=
  Relation.EqvGen.mono (fun _ _ member => sub member) i j joined

theorem nil_iff : Joined [] i j ↔ i = j := by
  constructor
  · intro joined
    induction joined with
    | rel x y member => exact absurd member List.not_mem_nil
    | refl x => rfl
    | symm x y _ ih => exact ih.symm
    | trans x y z _ _ first second => exact first.trans second
  · rintro rfl
    exact refl i

theorem concat_iff (a b : Nat) :
    Joined (pairs ++ [(a, b)]) i j ↔
      Joined pairs i j ∨ (Joined pairs i a ∧ Joined pairs b j) ∨ (Joined pairs i b ∧ Joined pairs a j) := by
  constructor
  · intro joined
    induction joined with
    | rel x y member =>
        rcases List.mem_append.mp member with old | new
        · exact .inl (of_mem old)
        · cases List.mem_singleton.mp new
          exact .inr (.inl ⟨refl a, refl b⟩)
    | refl x => exact .inl (refl x)
    | symm x y _ ih =>
        rcases ih with old | ⟨before, after⟩ | ⟨before, after⟩
        · exact .inl old.symm
        · exact .inr (.inr ⟨after.symm, before.symm⟩)
        · exact .inr (.inl ⟨after.symm, before.symm⟩)
    | trans x y z _ _ first second =>
        rcases first with old | ⟨before, after⟩ | ⟨before, after⟩
        · rcases second with later | ⟨before', after'⟩ | ⟨before', after'⟩
          · exact .inl (old.trans later)
          · exact .inr (.inl ⟨old.trans before', after'⟩)
          · exact .inr (.inr ⟨old.trans before', after'⟩)
        · rcases second with later | ⟨_, after'⟩ | ⟨_, after'⟩
          · exact .inr (.inl ⟨before, after.trans later⟩)
          · exact .inr (.inl ⟨before, after'⟩)
          · exact .inl (before.trans after')
        · rcases second with later | ⟨_, after'⟩ | ⟨_, after'⟩
          · exact .inr (.inr ⟨before, after.trans later⟩)
          · exact .inl (before.trans after')
          · exact .inr (.inr ⟨before, after'⟩)
  · have larger : ∀ {x y}, Joined pairs x y → Joined (pairs ++ [(a, b)]) x y :=
      mono (List.subset_append_left _ _)
    have link : Joined (pairs ++ [(a, b)]) a b := of_mem (List.mem_append_right _ (List.mem_singleton.mpr rfl))
    rintro (old | ⟨before, after⟩ | ⟨before, after⟩)
    · exact larger old
    · exact (larger before).trans (link.trans (larger after))
    · exact (larger before).trans (link.symm.trans (larger after))

theorem concat_redundant {a b : Nat} (already : Joined pairs a b) :
    Joined (pairs ++ [(a, b)]) i j ↔ Joined pairs i j := by
  rw [concat_iff]
  constructor
  · rintro (old | ⟨before, after⟩ | ⟨before, after⟩)
    · exact old
    · exact before.trans (already.trans after)
    · exact before.trans (already.symm.trans after)
  · exact .inl

end Joined

structure Tracks (c : Components) (pairs : List (Nat × Nat)) : Prop extends Balanced c where
  linked : ∀ i < c.size, ∀ j < c.size, c.root i = c.root j ↔ Joined pairs i j

theorem Tracks.congr {pairs more : List (Nat × Nat)} (tracks : Tracks c pairs)
    (same : ∀ i j, Joined more i j ↔ Joined pairs i j) : Tracks c more where
  toBalanced := tracks.toBalanced
  linked i iRange j jRange := (tracks.linked i iRange j jRange).trans (same i j).symm

@[simp] theorem new_size (n : Nat) : (Components.new n).size = n := by
  rw [size, new, Array.size_range]

@[simp] theorem new_up (n i : Nat) : (Components.new n).up i = i := by
  rw [up, new, Array.getD_eq_getD_getElem?]
  by_cases inRange : i < n <;> simp [inRange]

@[simp] theorem new_rank (n i : Nat) : (Components.new n).rankOf i = 0 := by
  rw [rankOf, new, Array.getD_eq_getD_getElem?, Array.getElem?_replicate]
  split <;> rfl

theorem new_forest (n : Nat) : (Components.new n).Forest where
  rank_size := by rw [new_size, new, Array.size_replicate]
  up_lt i inRange := by rwa [new_up]
  climbs i _ moved := absurd (new_up n i) moved
  rank_lt i inRange := by
    rw [new_rank]
    exact Nat.zero_lt_of_lt inRange

theorem new_root (n i : Nat) (inRange : i < n) : (Components.new n).root i = i :=
  ((new_forest n).root_eq_self i (by rwa [new_size])).mpr (new_up n i)

theorem new_tracks (n : Nat) : Tracks (.new n) [] where
  toForest := new_forest n
  doubles := by
    intro r listed
    obtain ⟨inRange, own⟩ := mem_roots.mp listed
    rw [new_rank]
    exact Finset.card_pos.mpr ⟨r, Finset.mem_filter.mpr ⟨Finset.mem_range.mpr inRange, own⟩⟩
  counted := by
    have all : (Components.new n).roots = Finset.range n := by
      rw [roots, new_size]
      exact Finset.filter_true_of_mem fun i inRange => new_root n i (Finset.mem_range.mp inRange)
    rw [all, Finset.card_range]
    rfl
  linked := by
    intro i iRange j jRange
    rw [new_size] at iRange jRange
    rw [new_root n i iRange, new_root n j jRange]
    exact Joined.nil_iff.symm

theorem merge_tracks {pairs : List (Nat × Nat)} (tracks : Tracks c pairs) (a b : Nat) (aRange : a < c.size)
    (bRange : b < c.size) :
    Tracks (c.merge a b).2 (pairs ++ [(a, b)]) ∧ (c.merge a b).2.size = c.size
      ∧ ((c.merge a b).1 = true ↔ ¬ Joined pairs a b)
      ∧ (c.merge a b).2.count + (c.merge a b).1.toNat = c.count := by
  have linked := tracks.linked
  by_cases same : c.root a = c.root b
  · obtain ⟨stale, shorter⟩ := tracks.merge_linked a b aRange bRange same
    have already := (linked a aRange b bRange).mp same
    refine ⟨⟨tracks.shortened shorter, ?_⟩, shorter.size, ?_, ?_⟩
    · intro i iRange j jRange
      rw [shorter.size] at iRange jRange
      rw [shorter.root i iRange, shorter.root j jRange, linked i iRange j jRange,
        Joined.concat_redundant already]
    · simp [stale, already]
    · rw [stale, shorter.count]
      rfl
  · obtain ⟨fresh, balanced, fewer, size, joins⟩ := tracks.merge_joins a b aRange bRange same
    refine ⟨⟨balanced, ?_⟩, size, ?_, ?_⟩
    · intro i iRange j jRange
      rw [size] at iRange jRange
      rw [joins i iRange j jRange, linked i iRange j jRange, linked i iRange a aRange, linked b bRange j jRange,
        linked i iRange b bRange, linked a aRange j jRange, Joined.concat_iff]
    · simp [fresh, ← linked a aRange b bRange, same]
    · rw [fresh]
      exact fewer

theorem merges_track {pairs : List (Nat × Nat)} (tracks : Tracks c pairs) (more : List (Nat × Nat))
    (inRange : ∀ pair ∈ more, pair.1 < c.size ∧ pair.2 < c.size) :
    Tracks (more.foldl (fun c pair => (c.merge pair.1 pair.2).2) c) (pairs ++ more)
      ∧ (more.foldl (fun c pair => (c.merge pair.1 pair.2).2) c).size = c.size := by
  induction more generalizing c pairs with
  | nil =>
      rw [List.append_nil]
      exact ⟨tracks, rfl⟩
  | cons pair rest ih =>
      obtain ⟨aRange, bRange⟩ := inRange pair List.mem_cons_self
      obtain ⟨after, size, _, _⟩ := merge_tracks tracks pair.1 pair.2 aRange bRange
      obtain ⟨final, sameSize⟩ := ih after fun other member => by
        rw [size]
        exact inRange other (List.mem_cons_of_mem _ member)
      rw [List.append_assoc] at final
      exact ⟨final, sameSize.trans size⟩

theorem all_linked_iff {pairs : List (Nat × Nat)} (tracks : Tracks c pairs) :
    c.allLinked = true ↔ ∀ i < c.size, ∀ j < c.size, Joined pairs i j := by
  rw [allLinked, decide_eq_true_iff, tracks.counted, Finset.card_le_one]
  constructor
  · intro one i iRange j jRange
    apply (tracks.linked i iRange j jRange).mp
    exact one _ (mem_roots.mpr ⟨tracks.root_lt i iRange, tracks.root_root i iRange⟩) _
      (mem_roots.mpr ⟨tracks.root_lt j jRange, tracks.root_root j jRange⟩)
  · intro all i iListed j jListed
    obtain ⟨iRange, iRoot⟩ := mem_roots.mp iListed
    obtain ⟨jRange, jRoot⟩ := mem_roots.mp jListed
    rw [← iRoot, ← jRoot]
    exact (tracks.linked i iRange j jRange).mpr (all i iRange j jRange)

theorem count_of_joined {pairs : List (Nat × Nat)} (tracks : Tracks c pairs)
    (joined : ∀ i < c.size, ∀ j < c.size, Joined pairs i j) : c.count = min 1 c.size := by
  have few : c.count ≤ 1 := of_decide_eq_true ((all_linked_iff tracks).mpr joined)
  rcases Nat.eq_zero_or_pos c.size with empty | filled
  · have bound : c.count ≤ c.size := by
      rw [tracks.counted, ← Finset.card_range c.size]
      exact Finset.card_filter_le _ _
    omega
  · have some : 0 < c.count := by
      rw [tracks.counted]
      exact Finset.card_pos.mpr
        ⟨c.root 0, mem_roots.mpr ⟨tracks.root_lt 0 filled, tracks.root_root 0 filled⟩⟩
    omega

end Floorplan.Components

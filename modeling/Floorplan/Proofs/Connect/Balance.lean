import Mathlib.Algebra.Order.Group.Nat
import Mathlib.Data.Finset.Card
import Mathlib.Tactic.SplitIfs
import Floorplan.Proofs.Connect.Forest

set_option autoImplicit false

namespace Floorplan.Components

variable {c : Components}

def roots (c : Components) : Finset Nat := (Finset.range c.size).filter fun i => c.root i = i

def members (c : Components) (r : Nat) : Finset Nat := (Finset.range c.size).filter fun i => c.root i = r

structure Balanced (c : Components) : Prop extends Forest c where
  doubles : ∀ r ∈ c.roots, 2 ^ c.rankOf r ≤ (c.members r).card
  counted : c.count = c.roots.card

theorem mem_roots {i : Nat} : i ∈ c.roots ↔ i < c.size ∧ c.root i = i := by
  rw [roots, Finset.mem_filter, Finset.mem_range]

theorem rank_of_set {d : Components} (i level : Nat) (inRange : i < c.rank.size)
    (ranks : d.rank = c.rank.setIfInBounds i level) (j : Nat) :
    d.rankOf j = if j = i then level else c.rankOf j := by
  rw [rankOf, ranks, Array.getD_eq_getD_getElem?, Array.getElem?_setIfInBounds]
  by_cases here : j = i
  · simp [here, inRange]
  · rw [if_neg (Ne.symm here), if_neg here, rankOf, Array.getD_eq_getD_getElem?]

theorem members_disjoint {r s : Nat} (different : r ≠ s) : Disjoint (c.members r) (c.members s) := by
  apply Finset.disjoint_filter.mpr
  intro i _ first second
  exact different (first.symm.trans second)

theorem members_pair_le {r s : Nat} (different : r ≠ s) :
    (c.members r).card + (c.members s).card ≤ c.size := by
  rw [← Finset.card_union_of_disjoint (members_disjoint different), ← Finset.card_range c.size]
  exact Finset.card_le_card (Finset.union_subset (Finset.filter_subset _ _) (Finset.filter_subset _ _))

namespace Attached

variable {d : Components} {child top : Nat} (attached : Attached c d child top) (forest : c.Forest)
  (childRoot : c.root child = child)

include attached forest childRoot

theorem roots_erase : d.roots = c.roots.erase child := by
  have topRoot := (forest.root_eq_self top attached.top_lt).mpr attached.top_root
  ext i
  simp only [roots, Finset.mem_filter, Finset.mem_range, Finset.mem_erase, attached.size]
  constructor
  · rintro ⟨inRange, own⟩
    rw [attached.root forest (.inl childRoot) i inRange] at own
    by_cases below : c.root i = child
    · rw [if_pos below] at own
      rw [← own, topRoot] at below
      exact absurd below.symm attached.different
    · rw [if_neg below] at own
      exact ⟨fun same => below (own.trans same), inRange, own⟩
  · rintro ⟨other, inRange, own⟩
    rw [attached.root forest (.inl childRoot) i inRange, own, if_neg other]
    exact ⟨inRange, rfl⟩

theorem members_top : d.members top = c.members child ∪ c.members top := by
  ext i
  simp only [members, Finset.mem_filter, Finset.mem_range, Finset.mem_union, attached.size]
  by_cases inRange : i < c.size
  · rw [attached.root forest (.inl childRoot) i inRange]
    by_cases below : c.root i = child <;> simp [below, inRange, attached.different]
  · simp [inRange]

theorem members_other (r : Nat) (notChild : r ≠ child) (notTop : r ≠ top) : d.members r = c.members r := by
  rw [members, members, attached.size]
  apply Finset.filter_congr
  intro i inRange
  rw [attached.root forest (.inl childRoot) i (Finset.mem_range.mp inRange)]
  by_cases below : c.root i = child
  · simp [below, Ne.symm notChild, Ne.symm notTop]
  · rw [if_neg below]

end Attached

theorem redirected_eq (child top i j : Nat) : ((if i = child then top else i) = if j = child then top else j) ↔
    i = j ∨ (i = child ∧ top = j) ∨ (i = top ∧ child = j) := by
  split_ifs <;> omega

namespace Balanced

variable {d : Components} (balanced : c.Balanced)

include balanced

theorem shortened (shorter : Shortened c d) : d.Balanced := by
  have sameRoots : d.roots = c.roots := by
    rw [roots, roots, shorter.size]
    exact Finset.filter_congr fun i inRange => by rw [shorter.root i (Finset.mem_range.mp inRange)]
  have sameMembers : ∀ r, d.members r = c.members r := by
    intro r
    rw [members, members, shorter.size]
    exact Finset.filter_congr fun i inRange => by rw [shorter.root i (Finset.mem_range.mp inRange)]
  refine ⟨shorter.forest, ?_, ?_⟩
  · intro r isRoot
    rw [sameRoots] at isRoot
    rw [sameMembers, rankOf, shorter.rank]
    exact balanced.doubles r isRoot
  · rw [sameRoots, shorter.count]
    exact balanced.counted

theorem attached {child top : Nat} (attached : Attached c d child top) (childRoot : c.root child = child)
    (weight : 2 ^ d.rankOf top ≤ (c.members child).card + (c.members top).card)
    (fewer : d.count = c.count - 1) : d.Balanced ∧ d.count + 1 = c.count := by
  have forest := balanced.toForest
  have listed : child ∈ c.roots :=
    Finset.mem_filter.mpr ⟨Finset.mem_range.mpr attached.child_lt, childRoot⟩
  have erased := Finset.card_erase_add_one listed
  rw [← attached.roots_erase forest childRoot, ← balanced.counted] at erased
  refine ⟨⟨attached.forest forest, ?_, by omega⟩, by omega⟩
  intro r isRoot
  by_cases here : r = top
  · rw [here, attached.members_top forest childRoot,
      Finset.card_union_of_disjoint (members_disjoint attached.different)]
    exact weight
  · rw [attached.roots_erase forest childRoot] at isRoot
    obtain ⟨notChild, before⟩ := Finset.mem_erase.mp isRoot
    rw [attached.members_other forest childRoot r notChild here, attached.rank_same r here]
    exact balanced.doubles r before

theorem below_deeper (a b : Nat) (aListed : a ∈ c.roots) (bListed : b ∈ c.roots)
    (shallow : c.rankOf a < c.rankOf b) :
    let d : Components := { c with parent := c.parent.setIfInBounds a b, count := c.count - 1 }
    d.Balanced ∧ d.count + 1 = c.count ∧ Attached c d a b := by
  intro d
  obtain ⟨aRange, aRoot⟩ := mem_roots.mp aListed
  obtain ⟨bRange, bRoot⟩ := mem_roots.mp bListed
  have below : Attached c d a b :=
    { parent := rfl
      rank_size := rfl
      rank_same := fun _ _ => rfl
      rank_grows := Nat.le_refl _
      below := shallow
      rank_lt := balanced.rank_lt b bRange
      child_lt := aRange
      top_lt := bRange
      top_root := (balanced.root_eq_self b bRange).mp bRoot
      different := fun same => Nat.lt_irrefl _ (same ▸ shallow) }
  have weight := balanced.doubles b bListed
  obtain ⟨kept, fewer⟩ := balanced.attached below aRoot (Nat.le_add_left_of_le weight) rfl
  exact ⟨kept, fewer, below⟩

theorem below_level (a b : Nat) (aListed : a ∈ c.roots) (bListed : b ∈ c.roots) (different : a ≠ b)
    (level : c.rankOf a = c.rankOf b) :
    let d : Components :=
      { parent := c.parent.setIfInBounds a b
        rank := c.rank.setIfInBounds b (c.rankOf b + 1)
        count := c.count - 1 }
    d.Balanced ∧ d.count + 1 = c.count ∧ Attached c d a b := by
  intro d
  obtain ⟨aRange, aRoot⟩ := mem_roots.mp aListed
  obtain ⟨bRange, bRoot⟩ := mem_roots.mp bListed
  have ranks : ∀ i, d.rankOf i = if i = b then c.rankOf b + 1 else c.rankOf i :=
    rank_of_set b _ (by rwa [balanced.rank_size]) rfl
  have deeper : d.rankOf b = c.rankOf b + 1 := by rw [ranks, if_pos rfl]
  -- two classes of one rank together pay for the next one
  have weight : 2 ^ d.rankOf b ≤ (c.members a).card + (c.members b).card := by
    have aWeight := balanced.doubles a aListed
    have bWeight := balanced.doubles b bListed
    rw [level] at aWeight
    rw [deeper, Nat.pow_succ]
    omega
  have below : Attached c d a b :=
    { parent := rfl
      rank_size := Array.size_setIfInBounds
      rank_same := fun i other => by rw [ranks, if_neg other]
      rank_grows := by omega
      below := by omega
      rank_lt := Nat.lt_two_pow_self.trans_le (weight.trans (members_pair_le different))
      child_lt := aRange
      top_lt := bRange
      top_root := (balanced.root_eq_self b bRange).mp bRoot
      different }
  obtain ⟨kept, fewer⟩ := balanced.attached below aRoot weight rfl
  exact ⟨kept, fewer, below⟩

theorem join_spec (a b : Nat) (aListed : a ∈ c.roots) (bListed : b ∈ c.roots) (different : a ≠ b) :
    (c.join a b).Balanced ∧ (c.join a b).count + 1 = c.count
      ∧ (Attached c (c.join a b) a b ∨ Attached c (c.join a b) b a) := by
  simp only [join]
  split_ifs with shallow deep
  · obtain ⟨kept, fewer, below⟩ := balanced.below_deeper a b aListed bListed shallow
    exact ⟨kept, fewer, .inl below⟩
  · obtain ⟨kept, fewer, below⟩ := balanced.below_deeper b a bListed aListed deep
    exact ⟨kept, fewer, .inr below⟩
  · have level : c.rankOf b = c.rankOf a := Nat.le_antisymm (Nat.le_of_not_lt shallow) (Nat.le_of_not_lt deep)
    obtain ⟨kept, fewer, below⟩ := balanced.below_level b a bListed aListed different.symm level
    exact ⟨kept, fewer, .inr below⟩

theorem merge_linked (a b : Nat) (aRange : a < c.size) (bRange : b < c.size) (same : c.root a = c.root b) :
    (c.merge a b).1 = false ∧ Shortened c (c.merge a b).2 := by
  obtain ⟨aRoot, first⟩ := find_spec balanced.toForest a aRange
  obtain ⟨bRoot, second⟩ := find_spec first.forest b (by rwa [first.size])
  rw [first.root b bRange] at bRoot
  rw [merge, if_pos ⟨aRange, bRange⟩]
  simp only [aRoot, bRoot, same, if_true]
  exact ⟨trivial, first.trans second⟩

theorem merge_joins (a b : Nat) (aRange : a < c.size) (bRange : b < c.size) (apart : c.root a ≠ c.root b) :
    (c.merge a b).1 = true ∧ (c.merge a b).2.Balanced ∧ (c.merge a b).2.count + 1 = c.count
      ∧ (c.merge a b).2.size = c.size
      ∧ ∀ i < c.size, ∀ j < c.size, (c.merge a b).2.root i = (c.merge a b).2.root j ↔
          c.root i = c.root j ∨ (c.root i = c.root a ∧ c.root b = c.root j)
            ∨ (c.root i = c.root b ∧ c.root a = c.root j) := by
  obtain ⟨aRoot, first⟩ := find_spec balanced.toForest a aRange
  obtain ⟨bRoot, second⟩ := find_spec first.forest b (by rwa [first.size])
  rw [first.root b bRange] at bRoot
  -- both searches only shorten paths, so the two roots are still roots when they are joined
  have shorter := first.trans second
  have kept := balanced.shortened shorter
  have listed : ∀ i < c.size, c.root i ∈ ((c.find a).2.find b).2.roots := by
    intro i inRange
    have inside := balanced.root_lt i inRange
    rw [mem_roots, shorter.size, shorter.root _ inside]
    exact ⟨inside, balanced.root_root i inRange⟩
  obtain ⟨joined, fewer, below⟩ := kept.join_spec _ _ (listed a aRange) (listed b bRange) apart
  rw [merge, if_pos ⟨aRange, bRange⟩]
  simp only [aRoot, bRoot, if_neg apart]
  refine ⟨trivial, joined, fewer.trans shorter.count, ?_, ?_⟩
  · rcases below with below | below
    · exact below.size.trans shorter.size
    · exact below.size.trans shorter.size
  · intro i iRange j jRange
    have own : ∀ k < c.size, ((c.find a).2.find b).2.root (c.root k) = c.root k :=
      fun k inRange => (mem_roots.mp (listed k inRange)).2
    rcases below with below | below
    · have after := below.root kept.toForest (.inl (own a aRange))
      rw [after i (by rwa [shorter.size]), after j (by rwa [shorter.size]), shorter.root i iRange,
        shorter.root j jRange, redirected_eq]
    · have after := below.root kept.toForest (.inl (own b bRange))
      rw [after i (by rwa [shorter.size]), after j (by rwa [shorter.size]), shorter.root i iRange,
        shorter.root j jRange, redirected_eq]
      exact or_congr_right or_comm

end Balanced

end Floorplan.Components

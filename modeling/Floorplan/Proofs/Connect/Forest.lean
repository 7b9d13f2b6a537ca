import Mathlib.Data.Nat.Init
import Floorplan.Components

set_option autoImplicit false

namespace Floorplan.Components

variable {c : Components}

def rankOf (c : Components) (i : Nat) : Nat := c.rank.getD i 0

structure Forest (c : Components) : Prop where
  rank_size : c.rank.size = c.size
  up_lt : ∀ i < c.size, c.up i < c.size
  climbs : ∀ i < c.size, c.up i ≠ i → c.rankOf i < c.rankOf (c.up i)
  rank_lt : ∀ i < c.size, c.rankOf i < c.size

namespace Forest

variable (forest : c.Forest)

include forest

theorem walk_settled (steps others i : Nat) (inRange : i < c.size) (enough : c.size ≤ c.rankOf i + steps)
    (plenty : c.size ≤ c.rankOf i + others) : c.walk steps i = c.walk others i := by
  -- ranks climb at each step and stay below the size, so no walk runs out of steps
  induction steps generalizing others i with
  | zero => exact absurd (forest.rank_lt i inRange) (Nat.not_lt_of_ge enough)
  | succ steps ih =>
      cases others with
      | zero => exact absurd (forest.rank_lt i inRange) (Nat.not_lt_of_ge plenty)
      | succ others =>
          rw [walk, walk]
          by_cases top : c.up i = i
          · rw [if_pos top, if_pos top]
          · rw [if_neg top, if_neg top]
            have climb := forest.climbs i inRange top
            exact ih others _ (forest.up_lt i inRange) (by omega) (by omega)

theorem walk_ends (steps i : Nat) (inRange : i < c.size) (enough : c.size ≤ c.rankOf i + steps) :
    c.walk steps i < c.size ∧ c.up (c.walk steps i) = c.walk steps i
      ∧ c.rankOf i ≤ c.rankOf (c.walk steps i) := by
  induction steps generalizing i with
  | zero => exact absurd (forest.rank_lt i inRange) (Nat.not_lt_of_ge enough)
  | succ steps ih =>
      rw [walk]
      by_cases top : c.up i = i
      · rw [if_pos top]
        exact ⟨inRange, top, Nat.le_refl _⟩
      · rw [if_neg top]
        have climb := forest.climbs i inRange top
        obtain ⟨inside, ended, higher⟩ := ih _ (forest.up_lt i inRange) (by omega)
        exact ⟨inside, ended, by omega⟩

theorem root_lt (i : Nat) (inRange : i < c.size) : c.root i < c.size :=
  (forest.walk_ends c.size i inRange (Nat.le_add_left _ _)).1

theorem up_root (i : Nat) (inRange : i < c.size) : c.up (c.root i) = c.root i :=
  (forest.walk_ends c.size i inRange (Nat.le_add_left _ _)).2.1

theorem rank_root (i : Nat) (inRange : i < c.size) : c.rankOf i ≤ c.rankOf (c.root i) :=
  (forest.walk_ends c.size i inRange (Nat.le_add_left _ _)).2.2

theorem root_up (i : Nat) (inRange : i < c.size) : c.root (c.up i) = c.root i := by
  by_cases top : c.up i = i
  · rw [top]
  · have longer := forest.walk_settled c.size (c.size + 1) i inRange (Nat.le_add_left _ _) (by omega)
    rw [root, root, longer, walk, if_neg top]

-- What is the same at a place and above it, and known at the roots, is known everywhere.
theorem root_unique (value : Nat → Nat) (fixes : ∀ i < c.size, c.up i = i → value i = i)
    (along : ∀ i < c.size, value (c.up i) = value i) (i : Nat) (inRange : i < c.size) :
    c.root i = value i := by
  have walked : ∀ steps i, i < c.size → value (c.walk steps i) = value i := by
    intro steps
    induction steps with
    | zero => exact fun i _ => rfl
    | succ steps ih =>
        intro i inRange
        rw [walk]
        by_cases top : c.up i = i
        · rw [if_pos top]
        · rw [if_neg top, ih _ (forest.up_lt i inRange), along i inRange]
  rw [← fixes _ (forest.root_lt i inRange) (forest.up_root i inRange)]
  exact walked c.size i inRange

theorem root_eq_self (i : Nat) (inRange : i < c.size) : c.root i = i ↔ c.up i = i := by
  constructor
  · intro same
    have top := forest.up_root i inRange
    rwa [same] at top
  · intro top
    cases size : c.size with
    | zero => omega
    | succ steps => rw [root, size, walk, if_pos top]

theorem root_root (i : Nat) (inRange : i < c.size) : c.root (c.root i) = c.root i :=
  (forest.root_eq_self _ (forest.root_lt i inRange)).mpr (forest.up_root i inRange)

end Forest

structure Attached (c d : Components) (child top : Nat) : Prop where
  parent : d.parent = c.parent.setIfInBounds child top
  rank_size : d.rank.size = c.rank.size
  rank_same : ∀ i, i ≠ top → d.rankOf i = c.rankOf i
  rank_grows : c.rankOf top ≤ d.rankOf top
  below : c.rankOf child < d.rankOf top
  rank_lt : d.rankOf top < c.size
  child_lt : child < c.size
  top_lt : top < c.size
  top_root : c.up top = top
  different : child ≠ top

namespace Attached

variable {d : Components} {child top : Nat} (attached : Attached c d child top)

include attached

theorem size : d.size = c.size := by
  rw [Components.size, attached.parent, Array.size_setIfInBounds]
  rfl

theorem up (i : Nat) : d.up i = if i = child then top else c.up i := by
  have inside : child < c.parent.size := attached.child_lt
  rw [Components.up, attached.parent, Array.getD_eq_getD_getElem?, Array.getElem?_setIfInBounds]
  by_cases here : i = child
  · simp [here, inside]
  · rw [if_neg (Ne.symm here), if_neg here, Components.up, Array.getD_eq_getD_getElem?]

theorem forest (forest : c.Forest) : d.Forest where
  rank_size := by rw [attached.rank_size, forest.rank_size, attached.size]
  up_lt := by
    intro i inRange
    rw [attached.size] at inRange ⊢
    rw [attached.up]
    split
    · exact attached.top_lt
    · exact forest.up_lt i inRange
  climbs := by
    intro i inRange moved
    rw [attached.size] at inRange
    rw [attached.up] at moved ⊢
    by_cases here : i = child
    · subst here
      rw [if_pos rfl, attached.rank_same i attached.different]
      exact attached.below
    · rw [if_neg here] at moved ⊢
      have notTop : i ≠ top := fun same => moved (same ▸ attached.top_root)
      rw [attached.rank_same i notTop]
      refine Nat.lt_of_lt_of_le (forest.climbs i inRange moved) ?_
      by_cases above : c.up i = top
      · rw [above]
        exact attached.rank_grows
      · exact Nat.le_of_eq (attached.rank_same _ above).symm
  rank_lt := by
    intro i inRange
    rw [attached.size] at inRange ⊢
    by_cases here : i = top
    · rw [here]
      exact attached.rank_lt
    · rw [attached.rank_same i here]
      exact forest.rank_lt i inRange

theorem root (forest : c.Forest) (lands : c.root child = child ∨ c.root child = top) (i : Nat)
    (inRange : i < c.size) : d.root i = if c.root i = child then top else c.root i := by
  have topRoot : c.root top = top := (forest.root_eq_self top attached.top_lt).mpr attached.top_root
  apply (attached.forest forest).root_unique (fun i => if c.root i = child then top else c.root i)
  · intro i inRange stays
    rw [attached.size] at inRange
    rw [attached.up] at stays
    by_cases here : i = child
    · rw [if_pos here, here] at stays
      exact absurd stays.symm attached.different
    · rw [if_neg here] at stays
      have self := (forest.root_eq_self i inRange).mpr stays
      simp only [self, if_neg here]
  · intro i inRange
    rw [attached.size] at inRange
    rw [attached.up]
    by_cases here : i = child
    · subst here
      simp only [if_true, topRoot, if_neg (Ne.symm attached.different)]
      rcases lands with own | top
      · rw [if_pos own]
      · rw [top, if_neg (Ne.symm attached.different)]
    · rw [if_neg here, forest.root_up i inRange]
  · rw [attached.size]
    exact inRange

end Attached

structure Shortened (c d : Components) : Prop where
  forest : d.Forest
  size : d.size = c.size
  rank : d.rank = c.rank
  count : d.count = c.count
  root : ∀ i < c.size, d.root i = c.root i

theorem Shortened.refl (forest : c.Forest) : Shortened c c := ⟨forest, rfl, rfl, rfl, fun _ _ => rfl⟩

theorem Shortened.trans {d e : Components} (first : Shortened c d) (second : Shortened d e) : Shortened c e where
  forest := second.forest
  size := second.size.trans first.size
  rank := second.rank.trans first.rank
  count := second.count.trans first.count
  root := by
    intro i inRange
    rw [second.root i (by rwa [first.size]), first.root i inRange]

theorem redirect_shortened (forest : c.Forest) (i : Nat) (inRange : i < c.size) (far : c.up i ≠ c.root i) :
    Shortened c { c with parent := c.parent.setIfInBounds i (c.root i) } := by
  -- a root is its own parent, so a place that points past its root is none
  have moved : c.up i ≠ i := fun top => far (by rw [(forest.root_eq_self i inRange).mpr top, top])
  have attached : Attached c { c with parent := c.parent.setIfInBounds i (c.root i) } i (c.root i) :=
    { parent := rfl
      rank_size := rfl
      rank_same := fun _ _ => rfl
      rank_grows := Nat.le_refl _
      below := by
        have above := forest.rank_root _ (forest.up_lt i inRange)
        rw [forest.root_up i inRange] at above
        exact Nat.lt_of_lt_of_le (forest.climbs i inRange moved) above
      rank_lt := forest.rank_lt _ (forest.root_lt i inRange)
      child_lt := inRange
      top_lt := forest.root_lt i inRange
      top_root := forest.up_root i inRange
      different := fun same => moved ((forest.root_eq_self i inRange).mp same.symm) }
  refine ⟨attached.forest forest, attached.size, rfl, rfl, fun j inside => ?_⟩
  rw [attached.root forest (.inr rfl) j inside]
  split
  next ended =>
    have own := forest.root_root j inside
    rw [ended] at own
    exact own.trans ended.symm
  next => rfl

theorem shorten_spec (forest : c.Forest) (steps i : Nat) (inRange : i < c.size) :
    Shortened c (c.shorten (c.root i) steps i) := by
  induction steps generalizing c i with
  | zero => exact .refl forest
  | succ steps ih =>
      rw [shorten]
      by_cases near : c.up i = c.root i
      · rw [if_pos near]
        exact .refl forest
      · rw [if_neg near]
        have redirected := redirect_shortened forest i inRange near
        have above := forest.up_lt i inRange
        have later := ih redirected.forest (c.up i) (by rwa [redirected.size])
        rw [redirected.root _ above, forest.root_up i inRange] at later
        exact redirected.trans later

theorem find_spec (forest : c.Forest) (i : Nat) (inRange : i < c.size) :
    (c.find i).1 = c.root i ∧ Shortened c (c.find i).2 :=
  ⟨rfl, shorten_spec forest c.size i inRange⟩

end Floorplan.Components

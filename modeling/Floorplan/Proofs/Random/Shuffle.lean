import Mathlib.Algebra.Group.End
import Mathlib.Data.Fin.Basic
import Mathlib.Data.List.Forall2
import Floorplan.Proofs.Random.Answers

set_option autoImplicit false

namespace Floorplan.Random

-- The bounds of the draws of a shuffle of `n` elements, from `n` down to 2.
def drawBounds (n : Nat) : List Nat := (List.range' 2 (n - 1)).reverse

def InBounds (n : Nat) (draws : List Nat) : Prop := List.Forall₂ (· < ·) draws (drawBounds n)

def DrawSequence (n : Nat) : Type := { draws : List Nat // InBounds n draws }

theorem draw_bounds_push (n : Nat) : drawBounds (n + 2) = (n + 2) :: drawBounds (n + 1) := by
  change (List.range' 2 (n + 1)).reverse = (n + 2) :: (List.range' 2 n).reverse
  rw [List.range'_concat, List.reverse_concat]
  congr 1
  omega

theorem shuffle_draws_bounds (n : Nat) : shuffleDraws n = (drawBounds (n + 1)).mapM below := by
  induction n with
  | zero => rfl
  | succ n ih => rw [shuffleDraws, draw_bounds_push, List.mapM_cons, ih]

theorem shuffle_bounds {β : Type} (items : Array β) :
    shuffle items = (do
      let draws ← (drawBounds items.size).mapM below
      pure (rearrange draws items)) := by
  rw [shuffle, shuffle_draws_bounds]
  cases items.size <;> rfl

theorem draws_in_bounds (bounds : List Nat) (positive : ∀ bound ∈ bounds, 0 < bound) (rng : Rng) :
    List.Forall₂ (· < ·) ((bounds.mapM below).run rng).1 bounds := by
  induction bounds generalizing rng with
  | nil => exact .nil
  | cons bound bounds ih =>
      rw [List.mapM_cons]
      exact .cons (below_lt bound (positive bound List.mem_cons_self) rng)
        (ih (fun other listed => positive other (List.mem_cons_of_mem bound listed)) _)

theorem draw_bounds_positive (n : Nat) : ∀ bound ∈ drawBounds n, 0 < bound := by
  intro bound listed
  have proper := (List.mem_range'_1.mp (List.mem_reverse.mp listed)).1
  omega

def order : List Nat → Equiv.Perm Nat
  | [] => 1
  | j :: rest => Equiv.swap (rest.length + 1) j * order rest

theorem InBounds.cases {n : Nat} {draws : List Nat} (bounded : InBounds (n + 2) draws) :
    ∃ j rest, draws = j :: rest ∧ j < n + 2 ∧ InBounds (n + 1) rest := by
  rw [InBounds, draw_bounds_push] at bounded
  cases bounded with
  | cons below rest => exact ⟨_, _, rfl, below, rest⟩

theorem InBounds.length {n : Nat} {draws : List Nat} (bounded : InBounds n draws) : draws.length = n - 1 := by
  rw [List.Forall₂.length_eq bounded, drawBounds, List.length_reverse, List.length_range']

theorem order_fixes {n : Nat} {draws : List Nat} (bounded : InBounds n draws) (k : Nat) (after : n ≤ k) :
    order draws k = k := by
  induction draws generalizing n with
  | nil => rfl
  | cons j rest ih =>
      match n with
      | 0 | 1 => cases bounded
      | n + 2 =>
          obtain ⟨_, _, same, below, behind⟩ := bounded.cases
          cases same
          have length := behind.length
          rw [order, Equiv.Perm.mul_apply, ih behind (by omega)]
          exact Equiv.swap_apply_of_ne_of_ne (by omega) (by omega)

-- The last place is filled by the first draw, since the others leave it alone.
theorem order_last {n : Nat} {draws : List Nat} (bounded : InBounds n draws) (j : Nat) :
    order (j :: draws) (draws.length + 1) = j := by
  have length := bounded.length
  rw [order, Equiv.Perm.mul_apply, order_fixes bounded _ (by omega)]
  exact Equiv.swap_apply_left _ _

theorem order_injective {n : Nat} {first second : List Nat} (bounded : InBounds n first)
    (bounded' : InBounds n second) (same : order first = order second) : first = second := by
  match n with
  | 0 | 1 =>
      cases bounded
      cases bounded'
      rfl
  | n + 2 =>
      obtain ⟨i, front, rfl, _, frontBounded⟩ := bounded.cases
      obtain ⟨j, back, rfl, _, backBounded⟩ := bounded'.cases
      have length : front.length = back.length := by rw [frontBounded.length, backBounded.length]
      have head : i = j := by
        rw [← order_last frontBounded i, same, length, order_last backBounded j]
      subst head
      rw [order, order, length] at same
      rw [order_injective frontBounded backBounded (mul_left_cancel same)]

theorem order_surjective {n : Nat} (target : Equiv.Perm Nat) (fixed : ∀ k, n ≤ k → target k = k) :
    ∃ draws, InBounds n draws ∧ order draws = target := by
  match n with
  | 0 | 1 =>
      have others (k : Nat) (positive : 0 < k) : target k = k := fixed k (by omega)
      refine ⟨[], .nil, Equiv.ext fun k => ?_⟩
      match k with
      | 0 =>
          by_contra moved
          have positive : 0 < target 0 := Nat.pos_of_ne_zero fun none => moved none.symm
          exact moved (target.injective (others (target 0) positive)).symm
      | k + 1 => exact (others (k + 1) k.succ_pos).symm
  | n + 2 =>
      -- the first draw undone, the last place is fixed as well
      have proper : target (n + 1) < n + 2 := by
        by_contra large
        have back := fixed _ (Nat.le_of_not_lt large)
        have := target.injective back
        omega
      have rest : ∀ k, n + 1 ≤ k → (Equiv.swap (n + 1) (target (n + 1)) * target) k = k := by
        intro k after
        rw [Equiv.Perm.mul_apply]
        by_cases last : k = n + 1
        · rw [last, Equiv.swap_apply_right]
        · rw [fixed k (by omega)]
          exact Equiv.swap_apply_of_ne_of_ne last (by omega)
      obtain ⟨draws, bounded, reached⟩ := order_surjective _ rest
      refine ⟨target (n + 1) :: draws, ?_, ?_⟩
      · rw [InBounds, draw_bounds_push]
        exact .cons proper bounded
      · rw [order, bounded.length, reached, Nat.add_sub_cancel, Equiv.swap_mul_self_mul]

theorem swap_place {β : Type} (items : Array β) (i j : Nat) (first : i < items.size) (second : j < items.size)
    (place : Nat) : (items.swapIfInBounds i j)[place]? = items[Equiv.swap i j place]? := by
  rw [Array.swapIfInBounds_def, dif_pos first, dif_pos second, Array.getElem?_swap, Equiv.swap_apply_def]
  by_cases atFirst : place = i
  · subst atFirst
    by_cases same : j = place
    · subst same
      rw [if_pos rfl, if_pos rfl, Array.getElem?_eq_getElem]
    · rw [if_neg same, if_pos rfl, if_pos rfl, Array.getElem?_eq_getElem]
  · by_cases atSecond : place = j
    · subst atSecond
      rw [if_pos rfl, if_neg atFirst, if_pos rfl, Array.getElem?_eq_getElem]
    · rw [if_neg (Ne.symm atSecond), if_neg (Ne.symm atFirst), if_neg atFirst, if_neg atSecond]

theorem rearrange_order {β : Type} {n : Nat} {draws : List Nat} (bounded : InBounds n draws) (items : Array β)
    (large : n ≤ items.size) (place : Nat) : (rearrange draws items)[place]? = items[order draws place]? := by
  induction draws generalizing n items with
  | nil => rfl
  | cons j rest ih =>
      match n with
      | 0 | 1 => cases bounded
      | n + 2 =>
          obtain ⟨_, _, same, below, behind⟩ := bounded.cases
          cases same
          have length := behind.length
          have swapped : (items.swapIfInBounds (rest.length + 1) j).size = items.size := Array.size_swapIfInBounds
          rw [rearrange, ih behind _ (by omega), order, Equiv.Perm.mul_apply]
          exact swap_place items _ _ (by omega) (by omega) _

def arrangement {n : Nat} (draws : DrawSequence n) : Equiv.Perm (Fin n) :=
  Fin.equivSubtype.symm.permCongr ((Equiv.Perm.subtypeEquivSubtypePerm (· < n)).symm
    ⟨order draws.1, fun k after => order_fixes draws.2 k (Nat.le_of_not_lt after)⟩)

theorem arrangement_val {n : Nat} (draws : DrawSequence n) (place : Fin n) :
    (arrangement draws place).val = order draws.1 place.val := rfl

theorem arrangement_bijective (n : Nat) : Function.Bijective (arrangement (n := n)) := by
  refine (Equiv.bijective _).comp ((Equiv.bijective _).comp ⟨fun first second same => ?_, fun target => ?_⟩)
  · exact Subtype.ext (order_injective first.2 second.2 (congrArg Subtype.val same))
  · obtain ⟨draws, bounded, reached⟩ :=
      order_surjective target.1 fun k after => target.2 k (Nat.not_lt_of_le after)
    exact ⟨⟨draws, bounded⟩, Subtype.ext reached⟩

theorem rearrange_arrangement {β : Type} {n : Nat} (items : Vector β n) (draws : DrawSequence n) :
    rearrange draws.1 items.toArray = (Vector.ofFn fun place => items[arrangement draws place]).toArray := by
  apply Array.ext_getElem?
  intro place
  rw [rearrange_order draws.2 _ (by simp)]
  by_cases inside : place < n
  · have filled := arrangement_val draws ⟨place, inside⟩
    simp [inside, ← filled]
  · rw [order_fixes draws.2 place (by omega)]
    simp [inside]

-- The orders that draws with these bounds bring about are all orders of `n` places, each from one
-- sequence of draws only.
theorem shuffle_orders_once (n : Nat) :
    (∃ arrangement : DrawSequence n → Equiv.Perm (Fin n), Function.Bijective arrangement
      ∧ ∀ {β : Type} (items : Vector β n) (draws : DrawSequence n),
        rearrange draws.1 items.toArray = (Vector.ofFn fun place => items[arrangement draws place]).toArray)
    ∧ ∀ {β : Type} (items : Vector β n) (rng : Rng), ∃ (draws : DrawSequence n) (rest : Rng),
      ((drawBounds n).mapM below).run rng = (draws.1, rest)
        ∧ (shuffle items.toArray).run rng = (rearrange draws.1 items.toArray, rest)
        ∧ ((shuffle items.toArray).run rng).1.Perm items.toArray := by
  refine ⟨⟨arrangement, arrangement_bijective n, rearrange_arrangement⟩, fun items rng => ?_⟩
  have bounded := draws_in_bounds (drawBounds n) (draw_bounds_positive n) rng
  refine ⟨⟨_, bounded⟩, _, rfl, ?_, shuffle_perm _ rng⟩
  rw [shuffle_bounds, items.size_toArray, draw_run_bind, draw_run_pure]
  rfl

end Floorplan.Random

import Floorplan.Number.Rounding
import Floorplan.Random.Draw

set_option autoImplicit false

namespace Floorplan

open Floorplan.Random (Draw Rng)

@[simp 1100] theorem draw_run_bind {β γ : Type} (first : Draw β) (next : β → Draw γ) (rng : Rng) :
    (first >>= next).run rng = (next (first.run rng).1).run (first.run rng).2 := rfl

@[simp 1100] theorem draw_run_pure {β : Type} (value : β) (rng : Rng) :
    (pure value : Draw β).run rng = (value, rng) := rfl

namespace Random

theorem scaled_lt (size : Nat) (word : Draw Nat) (words : ∀ rng : Rng, (word.run rng).1 < size) (range : Nat)
    (positive : 0 < range) (tries : Nat) (rng : Rng) : ((scaled size word range tries).run rng).1 < range := by
  have part : ∀ rng : Rng, (word.run rng).1 * range / size < range := fun rng =>
    Nat.div_lt_of_lt_mul (Nat.mul_lt_mul_of_pos_right (words rng) positive)
  induction tries generalizing rng with
  | zero => exact part rng
  | succ tries ih =>
      change (StateT.run (if (word.run rng).1 * range % size ≤ zone size range then
        pure ((word.run rng).1 * range / size) else scaled size word range tries) (word.run rng).2).1 < range
      split
      · exact part rng
      · exact ih _

theorem below_lt (n : Nat) (positive : 0 < n) (rng : Rng) : ((below n).run rng).1 < n := by
  rw [below, if_neg (Nat.ne_of_gt positive)]
  exact scaled_lt _ _ (fun rng => (Rng.word.run rng).1.toNat_lt) n positive patience rng

theorem signed_mem (word : UInt64) :
    Number.positionMin ≤ Int.bmod word.toNat (1 <<< 64) ∧ Int.bmod word.toNat (1 <<< 64) ≤ Number.positionMax := by
  have low : -((1 <<< 64 : Nat) / 2 : Int) ≤ Int.bmod word.toNat (1 <<< 64) := Int.le_bmod (by decide)
  have high : Int.bmod word.toNat (1 <<< 64) < ((1 <<< 64 : Nat) + 1 : Int) / 2 := Int.bmod_lt (by decide)
  generalize Int.bmod word.toNat (1 <<< 64) = value at low high ⊢
  exact ⟨low, Int.le_sub_one_of_lt high⟩

theorem between_run (lo hi : Int) (wide : ¬ hi ≤ lo) (rng : Rng) : ((between lo hi).run rng).1 =
    if (hi - lo + 1).toNat = 1 <<< 64 then Int.bmod (Rng.longWord.run rng).1.toNat (1 <<< 64)
    else lo + ((scaled (1 <<< 64) (UInt64.toNat <$> Rng.longWord) (hi - lo + 1).toNat patience).run rng).1 := by
  rw [between, if_neg wide]
  by_cases every : (hi - lo + 1).toNat = 1 <<< 64
  · rw [if_pos every, if_pos every, draw_run_bind, draw_run_pure]
  · rw [if_neg every, if_neg every, draw_run_bind, draw_run_pure]

theorem between_mem (lo hi : Int) (proper : lo ≤ hi) (low : Number.positionMin ≤ lo) (high : hi ≤ Number.positionMax)
    (rng : Rng) : lo ≤ ((between lo hi).run rng).1 ∧ ((between lo hi).run rng).1 ≤ hi := by
  by_cases single : hi ≤ lo
  · rw [between, if_pos single]
    exact ⟨Int.le_refl lo, proper⟩
  · rw [between_run lo hi single]
    by_cases every : (hi - lo + 1).toNat = 1 <<< 64
    · -- a range of that many numbers is the range of all signed words
      have whole : hi - lo + 1 = Number.positionMax - Number.positionMin + 1 := by
        rw [← Int.toNat_of_nonneg (by omega : 0 ≤ hi - lo + 1), every]
        rfl
      obtain ⟨least, greatest⟩ := signed_mem (Rng.longWord.run rng).1
      rw [if_pos every]
      exact ⟨Int.le_trans (by omega) least, Int.le_trans greatest (by omega)⟩
    · have offset := scaled_lt (1 <<< 64) (UInt64.toNat <$> Rng.longWord)
        (fun rng => (Rng.longWord.run rng).1.toNat_lt) (hi - lo + 1).toNat (by omega) patience rng
      rw [if_neg every]
      omega

theorem rearrange_perm {β : Type} (draws : List Nat) (items : Array β) : (rearrange draws items).Perm items := by
  induction draws generalizing items with
  | nil => exact .refl _
  | cons j rest ih =>
      refine (ih _).trans ?_
      rw [Array.swapIfInBounds_def]
      split
      · split
        · exact Array.swap_perm _ _
        · exact .refl _
      · exact .refl _

theorem shuffle_perm {β : Type} (items : Array β) (rng : Rng) : ((shuffle items).run rng).1.Perm items :=
  rearrange_perm _ items

end Random

end Floorplan

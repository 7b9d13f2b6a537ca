import Floorplan.Coord.Double
import Floorplan.Coord.Rational
import Floorplan.Random.Draw

set_option autoImplicit false

namespace Floorplan

open Floorplan.Random (Draw Rng)

namespace Random

def KeepsSeed {β : Type} (draw : Draw β) : Prop := ∀ rng : Rng, (draw.run rng).2.seed = rng.seed

namespace KeepsSeed

variable {β γ : Type}

theorem pure (value : β) : KeepsSeed (Pure.pure value : Draw β) := fun _ => rfl

theorem bind {first : Draw β} {next : β → Draw γ} (firstKeeps : KeepsSeed first)
    (nextKeeps : ∀ value, KeepsSeed (next value)) : KeepsSeed (first >>= next) := fun rng =>
  (nextKeeps (first.run rng).1 (first.run rng).2).trans (firstKeeps rng)

theorem map {draw : Draw β} (f : β → γ) (keeps : KeepsSeed draw) : KeepsSeed (f <$> draw) := keeps

theorem ite {condition : Prop} [Decidable condition] {yes no : Draw β} (yesKeeps : KeepsSeed yes)
    (noKeeps : KeepsSeed no) : KeepsSeed (if condition then yes else no) := by
  split
  · exact yesKeeps
  · exact noKeeps

end KeepsSeed

theorem word_keeps_seed : KeepsSeed Rng.word := by
  rintro ⟨seed, key, next, pending⟩
  cases pending <;> rfl

theorem long_word_keeps_seed : KeepsSeed Rng.longWord :=
  .bind word_keeps_seed fun _ => .bind word_keeps_seed fun _ => .pure _

theorem scaled_keeps_seed (size : Nat) (word : Draw Nat) (keeps : KeepsSeed word) (range tries : Nat) :
    KeepsSeed (scaled size word range tries) := by
  induction tries with
  | zero => exact .bind keeps fun _ => .pure _
  | succ tries ih => exact .bind keeps fun _ => .ite (.pure _) ih

theorem below_keeps_seed (n : Nat) : KeepsSeed (below n) :=
  .ite (.pure _) (scaled_keeps_seed _ _ (.map _ word_keeps_seed) _ _)

theorem between_keeps_seed (lo hi : Int) : KeepsSeed (between lo hi) :=
  .ite (.pure _) <| .ite (.bind long_word_keeps_seed fun _ => .pure _) <|
    .bind (scaled_keeps_seed _ _ (.map _ long_word_keeps_seed) _ _) fun _ => .pure _

theorem one_in_keeps_seed (n : Nat) : KeepsSeed (oneIn n) := .bind (below_keeps_seed n) fun _ => .pure _

theorem choose_keeps_seed {β : Type} (items : Array β) : KeepsSeed (choose items) := by
  rw [choose]
  split
  · exact .pure _
  · exact .bind (below_keeps_seed _) fun _ => .pure _

theorem shuffle_draws_keeps_seed (n : Nat) : KeepsSeed (shuffleDraws n) := by
  induction n with
  | zero => exact .pure _
  | succ n ih => exact .bind (below_keeps_seed _) fun _ => .bind ih fun _ => .pure _

theorem shuffle_keeps_seed {β : Type} (items : Array β) : KeepsSeed (shuffle items) :=
  .bind (shuffle_draws_keeps_seed _) fun _ => .pure _

end Random

open Floorplan.Random (KeepsSeed)

class SteadyCoord (α : Type) [Coord α] : Prop where
  uniform_keeps_seed : ∀ lo hi : α, KeepsSeed (Coord.uniform lo hi)

namespace Double

theorem uniform_keeps_seed (lo hi : Float) : KeepsSeed (uniform? lo hi) := by
  rw [uniform?]
  split
  · exact .pure _
  · simp only
    split
    · exact .pure _
    · exact .bind Random.long_word_keeps_seed fun _ => .pure _

instance : SteadyCoord Float where
  uniform_keeps_seed lo hi := .bind (uniform_keeps_seed lo hi) fun _ => .pure _

end Double

namespace Rational

instance : SteadyCoord Rat where
  uniform_keeps_seed lo hi := by
    change KeepsSeed (uniform lo hi)
    rw [uniform]
    split
    · exact .pure _
    · exact .bind Random.long_word_keeps_seed fun _ => .pure _

end Rational

end Floorplan

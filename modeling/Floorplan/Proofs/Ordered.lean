import Floorplan.Coord.Extended
import Floorplan.Proofs.Exact

set_option autoImplicit false

namespace Floorplan

open Floorplan.Random (Draw Rng)

class OrderedCoord (α : Type) [Coord α] : Prop where
  le_trans : ∀ a b c : α, a ≤ b → b ≤ c → a ≤ c
  le_total : ∀ a b : α, a ≤ b ∨ b ≤ a
  lt_iff : ∀ a b : α, a < b ↔ ¬ b ≤ a
  beq_iff : ∀ a b : α, (a == b) = true ↔ a = b
  -- nothing lies beyond an infinity
  lowest_le : ∀ low ∈ (Coord.lowest? : Option α), ∀ a, low ≤ a
  le_highest : ∀ high ∈ (Coord.highest? : Option α), ∀ a, a ≤ high
  uniform_mem : ∀ lo hi : α, lo ≤ hi → ∀ rng,
    lo ≤ ((Coord.uniform lo hi).run rng).1 ∧ ((Coord.uniform lo hi).run rng).1 ≤ hi

namespace Coord

section Ends

variable {α : Type} [Coord α] [OrderedCoord α]

theorem le_refl (a : α) : a ≤ a := (OrderedCoord.le_total a a).elim id id

theorem greater_le_iff (x y v : α) : greater x y ≤ v ↔ x ≤ v ∧ y ≤ v := by
  rw [greater, (OrderedCoord.beq_iff x x).mpr rfl]
  split
  next less => exact ⟨fun above => ⟨OrderedCoord.le_trans _ _ _ less above, above⟩, And.right⟩
  next more =>
    have less := (OrderedCoord.le_total x y).resolve_left more
    exact ⟨fun above => ⟨above, OrderedCoord.le_trans _ _ _ less above⟩, And.left⟩

theorem le_lesser_iff (x y v : α) : v ≤ lesser x y ↔ v ≤ x ∧ v ≤ y := by
  rw [lesser, (OrderedCoord.beq_iff x x).mpr rfl]
  split
  next less => exact ⟨fun below => ⟨OrderedCoord.le_trans _ _ _ below less, below⟩, And.right⟩
  next more =>
    have less := (OrderedCoord.le_total y x).resolve_left more
    exact ⟨fun below => ⟨below, OrderedCoord.le_trans _ _ _ below less⟩, And.left⟩

end Ends

end Coord

instance : OrderedCoord Rat where
  le_trans _ _ _ := Rat.le_trans
  le_total _ _ := Rat.le_total
  lt_iff _ _ := Rat.not_le.symm
  beq_iff _ _ := beq_iff_eq
  lowest_le := nofun
  le_highest := nofun
  uniform_mem := Rational.uniform_mem

namespace Extended

theorem le_trans (x y z : Extended) (first : x.le y = true) (second : y.le z = true) : x.le z = true := by
  cases x with
  | lowest => rfl
  | highest =>
      cases y with
      | highest => exact second
      | _ => cases first
  | exact x =>
      cases y with
      | lowest => cases first
      | highest =>
          cases z with
          | highest => rfl
          | _ => cases second
      | exact y =>
          cases z with
          | lowest => cases second
          | highest => rfl
          | exact z => exact decide_eq_true (Rat.le_trans (of_decide_eq_true first) (of_decide_eq_true second))

theorem le_total (x y : Extended) : x.le y = true ∨ y.le x = true := by
  cases x with
  | lowest => exact .inl rfl
  | highest => exact .inr (by cases y <;> rfl)
  | exact x =>
      cases y with
      | lowest => exact .inr rfl
      | highest => exact .inl rfl
      | exact y => exact Rat.le_total.imp decide_eq_true decide_eq_true

theorem uniform_mem (lo hi : Extended) (proper : lo.le hi = true) (rng : Rng) :
    lo.le ((uniform lo hi).run rng).1 = true ∧ ((uniform lo hi).run rng).1.le hi = true := by
  have least : ∀ x : Extended, x.le x = true := fun x => (le_total x x).elim id id
  cases lo with
  | lowest => exact ⟨rfl, proper⟩
  | highest => exact ⟨rfl, proper⟩
  | exact lo =>
      cases hi with
      | lowest => exact ⟨least _, proper⟩
      | highest => exact ⟨least _, proper⟩
      | exact hi =>
          have between := Rational.uniform_mem lo hi (of_decide_eq_true proper) rng
          exact ⟨decide_eq_true between.1, decide_eq_true between.2⟩

instance : OrderedCoord Extended where
  le_trans := le_trans
  le_total := le_total
  lt_iff _ _ := Bool.not_eq_true _ ▸ Iff.rfl
  beq_iff _ _ := beq_iff_eq
  lowest_le := by
    rintro _ ⟨⟩ _
    rfl
  le_highest := by
    rintro _ ⟨⟩ a
    cases a <;> rfl
  uniform_mem := uniform_mem

end Extended

end Floorplan

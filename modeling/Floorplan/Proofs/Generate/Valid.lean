import Floorplan.Proofs.Generate.Attempts

set_option autoImplicit false

namespace Floorplan

open Floorplan.Random (Draw Rng)

theorem except_bind_ok {ε β γ : Type} {first : Except ε β} {next : β → Except ε γ} {result : γ}
    (passed : (first >>= next) = .ok result) : ∃ value, first = .ok value ∧ next value = .ok result := by
  cases first with
  | error failure => cases passed
  | ok value => exact ⟨value, rfl, passed⟩

namespace Config

variable {α : Type} [Coord α]

structure Valid (config : Config α) : Prop where
  bounds : checkBounds config = .ok ()
  sizes : checkSizes config = .ok ()
  thickness : checkPositive .corridorThickness config.corridorThickness = .ok ()
  cellSize : checkPositive .indexCellSize config.indexCellSize = .ok ()
  touching : checkFraction .touchingFraction config.touchingFraction = .ok ()
  extra : checkFraction .extraEdgeFraction config.extraEdgeFraction = .ok ()
  budgets : checkBudgets config = .ok ()

theorem valid_of_validate (config : Config α) (passed : config.validate = .ok ()) : config.Valid := by
  rw [validate] at passed
  obtain ⟨⟨⟩, bounds, passed⟩ := except_bind_ok passed
  obtain ⟨⟨⟩, sizes, passed⟩ := except_bind_ok passed
  obtain ⟨⟨⟩, thickness, passed⟩ := except_bind_ok passed
  obtain ⟨⟨⟩, cellSize, passed⟩ := except_bind_ok passed
  obtain ⟨⟨⟩, touching, passed⟩ := except_bind_ok passed
  obtain ⟨⟨⟩, extra, budgets⟩ := except_bind_ok passed
  exact ⟨bounds, sizes, thickness, cellSize, touching, extra, budgets⟩

theorem check_positive_ok (field : ConfigField) (value : α) (passed : checkPositive field value = .ok ()) :
    Coord.zero < value := by
  rw [checkPositive] at passed
  split at passed
  next positive => exact of_decide_eq_true (Bool.and_eq_true_iff.mp positive).2
  next => cases passed

end Config

variable {α : Type} [Coord α]

theorem generate_valid (config : Config α) (seed : UInt64) (layout : Layout α)
    (generated : generate config seed = .ok layout) : config.Valid := by
  rw [generate, Generator.run] at generated
  simp only [Generator.new] at generated
  split at generated
  next => cases generated
  next passed => exact config.valid_of_validate passed

end Floorplan

import Floorplan.Number.Rounding
import Floorplan.Random.Draw

/-!
Coordinates: the number system the geometry is written over. Doubles run it and rational numbers
reason about it; a definition over any `Coord` makes the same choices in both.
-/

set_option autoImplicit false

namespace Floorplan

open Number (Rounding)
open Floorplan.Random (Draw)

class Coord (α : Type) extends Add α, Sub α, Mul α, Div α, LE α, LT α, BEq α where
  decLe : DecidableLE α
  decLt : DecidableLT α
  ofInt : Int → α
  /-- The slack of every comparison of edges. -/
  epsilon : α
  lowest? : Option α
  highest? : Option α
  abs : α → α
  /-- The root of a squared length, or any other number that grows with it. -/
  root : α → α
  totalLe : α → α → Bool
  toInt : Rounding → (lo hi : Int) → α → Int
  /-- A coordinate of `[lo, hi]`; `lo`, and no draw, when `hi ≤ lo`. -/
  uniform : α → α → Draw α

attribute [reducible, instance] Coord.decLe Coord.decLt

namespace Coord

variable {α : Type} [Coord α]

@[inline] def zero : α := ofInt 0
@[inline] def one : α := ofInt 1
@[inline] def two : α := ofInt 2

@[inline] def half (x : α) : α := x / two

def lesser (x y : α) : α := if y ≤ x then y else if x == x then x else y

def greater (x y : α) : α := if x ≤ y then y else if x == x then x else y

def isFinite (x : α) : Bool := x - x == x - x

def floorCell (x : α) : Int := toInt .down Number.cellMin Number.cellMax x

def ceilCell (x : α) : Int := toInt .up Number.cellMin Number.cellMax x

end Coord

end Floorplan

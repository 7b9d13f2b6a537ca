import Floorplan.Coord.Rational

/-!
Rational numbers with an infinity at each end as coordinates. What has no value among them, such as the difference of
an infinity and itself, is 0.
-/

set_option autoImplicit false

namespace Floorplan

open Number (Rounding)
open Floorplan.Random (Draw)

inductive Extended where
  | lowest
  | exact (value : Rat)
  | highest
deriving DecidableEq

namespace Extended

def le : Extended → Extended → Bool
  | .lowest, _ => true
  | _, .highest => true
  | .exact x, .exact y => decide (x ≤ y)
  | _, _ => false

def sign : Extended → Int
  | .lowest => -1
  | .exact x => x.num.sign
  | .highest => 1

def infinity (sign : Int) : Extended :=
  if sign < 0 then .lowest else if 0 < sign then .highest else .exact 0

def neg : Extended → Extended
  | .lowest => .highest
  | .exact x => .exact (-x)
  | .highest => .lowest

def add : Extended → Extended → Extended
  | .exact x, .exact y => .exact (x + y)
  | .exact _, y => y
  | x, .exact _ => x
  | x, y => infinity (x.sign + y.sign)

def mul : Extended → Extended → Extended
  | .exact x, .exact y => .exact (x * y)
  | x, y => infinity (x.sign * y.sign)

def div : Extended → Extended → Extended
  | .exact x, .exact y => .exact (x / y)
  | x, .exact y => infinity (x.sign * (exact y).sign)
  | _, _ => .exact 0

def toInt (mode : Rounding) (lo hi : Int) : Extended → Int
  | .lowest => lo
  | .exact x => Rational.toInt mode lo hi x
  | .highest => hi

def uniform : Extended → Extended → Draw Extended
  | .exact lo, .exact hi => do
    let v ← Rational.uniform lo hi
    pure (.exact v)
  | lo, _ => pure lo

instance : Coord Extended where
  add := add
  sub x y := add x y.neg
  mul := mul
  div := div
  le x y := le x y = true
  lt x y := le y x = false
  decLe := fun x y => inferInstanceAs (Decidable (le x y = true))
  decLt := fun x y => inferInstanceAs (Decidable (le y x = false))
  ofInt i := .exact i
  epsilon := .exact Coord.epsilon
  lowest? := some .lowest
  highest? := some .highest
  abs x := if le x (.exact 0) then x.neg else x
  root := id
  totalLe := le
  toInt := toInt
  uniform := uniform

end Extended

end Floorplan

import Floorplan.Coord

set_option autoImplicit false

namespace Floorplan.Rational

open Number (Rounding)
open Floorplan.Random (Draw Rng)

def toInt (mode : Rounding) (lo hi : Int) (x : Rat) : Int :=
  Number.clampInt lo hi (mode.round x.num x.den)

def steps : Nat := (1 <<< 52) - 1

def uniform (lo hi : Rat) : Draw Rat :=
  if hi ≤ lo then pure lo
  else do
    let w ← Rng.longWord
    pure (lo + (hi - lo) * ((w >>> 12).toNat : Rat) / (steps : Rat))

instance : Coord Rat where
  decLe := fun a b => inferInstanceAs (Decidable (a ≤ b))
  decLt := fun a b => inferInstanceAs (Decidable (a < b))
  ofInt := fun i => (i : Rat)
  epsilon := 1 / 1000000000
  lowest? := none
  highest? := none
  abs := fun x => if x < 0 then -x else x
  root := id
  totalLe := fun a b => decide (a ≤ b)
  toInt := toInt
  uniform := uniform

end Floorplan.Rational

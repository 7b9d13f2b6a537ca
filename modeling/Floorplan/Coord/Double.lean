import Floorplan.Coord
import Floorplan.Number.Binary64

/-!
Doubles as coordinates. Every operation rounds, and every choice made of a double is made of its
exact value.
-/

set_option autoImplicit false

namespace Floorplan.Double

open Number (Binary64 Rounding)
open Floorplan.Random (Draw Rng)

def toInt (mode : Rounding) (lo hi : Int) (x : Float) : Int :=
  match Binary64.ofFloat x with
  | .nan => 0
  | .infinite negative => if negative then lo else hi
  | .finite negative mantissa exponent =>
    let n : Int := (mantissa <<< exponent.toNat : Nat)
    Number.clampInt lo hi (mode.round (if negative then -n else n) (1 <<< (-exponent).toNat))

def rank (x : Float) : Int :=
  let bits := x.toBits.toNat
  if 1 <<< 63 ≤ bits then (1 <<< 63 : Nat) - 1 - (bits : Int) else bits

def topFraction : Float := Float.ofBits 0x3FEFFFFFFFFFFFFE

def fractionStep : Float := Float.ofBits 0x3CB0000000000000

/-- The largest double, not above the one with the given bits, that keeps draws from passing `hi`. -/
def settle (lo hi : Float) : Nat → Float
  | 0 => Float.ofBits 0
  | bits + 1 =>
    let scale := Float.ofBits (UInt64.ofNat (bits + 1))
    if hi < scale * topFraction + lo then settle lo hi bits else scale

/-- A double of `[lo, hi]`. Nothing when an end is not a number or the ends are too far apart. -/
def uniform? (lo hi : Float) : Draw (Option Float) :=
  if hi ≤ lo then pure (some lo)
  else
    let scale := (hi - lo) / topFraction
    if !scale.isFinite then pure none
    else do
      let w ← Rng.longWord
      let fraction := (w >>> 12).toFloat * fractionStep
      pure (some (fraction * settle lo hi scale.toBits.toNat + lo))

def uniform (lo hi : Float) : Draw Float := do
  let drawn ← uniform? lo hi
  pure (drawn.getD lo)

instance : Coord Float where
  decLe := fun a b => inferInstanceAs (Decidable (a ≤ b))
  decLt := fun a b => inferInstanceAs (Decidable (a < b))
  ofInt := Binary64.ofInt
  epsilon := 1e-9
  lowest? := some (Binary64.floatOfBits true Binary64.infinityBits)
  highest? := some (Binary64.floatOfBits false Binary64.infinityBits)
  abs := Float.abs
  root := Float.sqrt
  totalLe := fun a b => decide (rank a ≤ rank b)
  toInt := toInt
  uniform := uniform

end Floorplan.Double

import Floorplan.Number.Decimal

/-!
Decimals read in double arithmetic: the digits are rounded to a double, and so is each product or
quotient with a power of ten. The result is the nearest double when the digits and the power are
doubles themselves; otherwise it may be a neighbour of that.
-/

set_option autoImplicit false

namespace Floorplan.Number

namespace Binary64

def fraction (bits : Nat) : Nat × Nat :=
  let field : Nat := bits / (1 <<< 52)
  if field = 0 then (bits, 1 <<< 1074)
  else scaleDown ((1 <<< 52) + bits % (1 <<< 52)) 1 (1075 - field)

def product (a b : Nat) : Nat :=
  let (n, d) := fraction a
  let (m, e) := fraction b
  nearestBits (n * m) (d * e)

def quotient (a b : Nat) : Nat :=
  let (n, d) := fraction a
  let (m, e) := fraction b
  nearestBits (n * e) (d * m)

end Binary64

namespace Decimal

open Binary64 (product quotient)

def topPower : Nat := 308

def tenPower (k : Nat) : Nat := Binary64.nearestBits (Nat.pow 10 k) 1

/-- The bits of a double times a power of ten. A large negative power is taken in several steps,
which come to an end because nothing is left after a few of them. -/
def scale (bits : Nat) (exponent : Int) : Nat :=
  if 0 ≤ exponent then
    if exponent ≤ topPower then product bits (tenPower exponent.toNat)
    else if bits = 0 then 0 else Binary64.infinityBits
  else if -exponent ≤ topPower then quotient bits (tenPower (-exponent).toNat)
  else if bits = 0 then 0
  else scale (quotient bits (tenPower topPower)) (exponent + topPower)
termination_by (-exponent).toNat
decreasing_by
  have : (topPower : Int) = 308 := rfl
  omega

def scaledBits (d : Decimal) : Nat := scale (Binary64.nearestBits d.digits 1) d.exponent

end Decimal

end Floorplan.Number

set_option autoImplicit false

namespace Floorplan.Number

def roundDiv (n d : Nat) : Nat :=
  let q := n / d
  let r := n % d
  if d < 2 * r || (2 * r == d && q % 2 == 1) then q + 1 else q

inductive Binary64 where
  | nan
  | infinite (negative : Bool)
  | finite (negative : Bool) (mantissa : Nat) (exponent : Int)
deriving DecidableEq

namespace Binary64

def ofBits (bits : Nat) : Binary64 :=
  let negative := 1 <<< 63 ≤ bits
  let field : Nat := bits / (1 <<< 52) % (1 <<< 11)
  let fraction := bits % (1 <<< 52)
  if field = 2047 then
    if fraction = 0 then .infinite negative else .nan
  else if field = 0 then .finite negative fraction (-1074)
  else .finite negative ((1 <<< 52) + fraction) (field - 1075)

def ofFloat (x : Float) : Binary64 := ofBits x.toBits.toNat

def scaleDown (n d : Nat) (e : Int) : Nat × Nat := (n <<< (-e).toNat, d <<< e.toNat)

def fittingExponent (n d : Nat) : Int :=
  let guess : Int := n.log2 - d.log2 - 53
  let (a, b) := scaleDown n d guess
  max (if b <<< 53 ≤ a then guess + 1 else guess) (-1074)

def infinityBits : Nat := 2047 <<< 52

/-- The bits of the double nearest to the fraction `n / d`, the even one of two. A mantissa that
rounds up to 54 bits carries into the exponent. -/
def nearestBits (n d : Nat) : Nat :=
  if n = 0 then 0
  else
    let e := fittingExponent n d
    let (a, b) := scaleDown n d e
    min (((e + 1074).toNat <<< 52) + roundDiv a b) infinityBits

def floatOfBits (negative : Bool) (bits : Nat) : Float :=
  Float.ofBits (UInt64.ofNat (if negative then (1 <<< 63) + bits else bits))

def nearest (negative : Bool) (n d : Nat) : Float := floatOfBits negative (nearestBits n d)

def ofInt (i : Int) : Float := nearest (decide (i < 0)) i.natAbs 1

end Binary64

end Floorplan.Number

set_option autoImplicit false

namespace Floorplan.Number

inductive Rounding where
  | down
  | up
  | towardZero
  | nearest
deriving DecidableEq

def Rounding.round (mode : Rounding) (n : Int) (d : Nat) : Int :=
  match mode with
  | .down => n / d
  | .up => -(-n / d)
  | .towardZero => n.tdiv d
  | .nearest => n.sign * ((2 * n.natAbs + d) / (2 * d) : Nat)

def clampInt (lo hi n : Int) : Int := max lo (min hi n)

def cellMin : Int := -(1 <<< 31 : Nat)
def cellMax : Int := (1 <<< 31 : Nat) - 1

def positionMin : Int := -(1 <<< 63 : Nat)
def positionMax : Int := (1 <<< 63 : Nat) - 1

def countMax : Int := (1 <<< 64 : Nat) - 1

end Floorplan.Number

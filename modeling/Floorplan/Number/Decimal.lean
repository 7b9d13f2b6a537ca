import Floorplan.Number.Binary64

set_option autoImplicit false

namespace Floorplan.Number

def digitValue (c : Char) : Nat := c.toNat - '0'.toNat

def digitsValue (digits : List Char) : Nat := digits.foldl (fun n c => 10 * n + digitValue c) 0

structure Decimal where
  digits : Nat
  exponent : Int
deriving DecidableEq

namespace Decimal

/-- The reals that round to a mantissa, in quarters of its unit; the ends belong to it when the
mantissa is even. Below a power of two the doubles are twice as dense. -/
structure Interval where
  low : Nat
  middle : Nat
  high : Nat
  closed : Bool

def Interval.ofMantissa (mantissa : Nat) (exponent : Int) : Interval :=
  let narrow := mantissa == 1 <<< 52 && exponent != -1074
  { low := 4 * mantissa - (if narrow then 1 else 2)
    middle := 4 * mantissa
    high := 4 * mantissa + 2
    closed := mantissa % 2 == 0 }

def Interval.holds (interval : Interval) (scale x : Nat) : Bool :=
  if interval.closed then interval.low * scale ≤ x && x ≤ interval.high * scale
  else interval.low * scale < x && x < interval.high * scale

inductive Ties where
  | toEven
  | up
deriving DecidableEq

def Ties.choose (ties : Ties) (below : Nat) : Nat :=
  match ties with
  | .toEven => if below % 2 = 0 then below else below + 1
  | .up => below + 1

def Interval.choose? (interval : Interval) (ties : Ties) (scale step below : Nat) : Option Nat :=
  let above := below + 1
  match interval.holds scale (below * step), interval.holds scale (above * step) with
  | false, false => none
  | true, false => some below
  | false, true => some above
  | true, true =>
    let twice := 2 * interval.middle * scale
    let sum := (below + above) * step
    if twice < sum then some below
    else if sum < twice then some above
    else some (ties.choose below)

def stripped (digits : Nat) (exponent : Int) : Decimal :=
  if digits ≠ 0 ∧ digits % 10 = 0 then stripped (digits / 10) (exponent + 1)
  else { digits, exponent }
termination_by digits
decreasing_by omega

def exact (mantissa : Nat) (exponent : Int) : Decimal :=
  stripped ((mantissa <<< exponent.toNat) * Nat.pow 5 (-exponent).toNat) (min exponent 0)

/-- Walk over the decimal grids from coarse to fine. On the current one a point is `step` apart from
the next when the interval is measured in `scale`; each finer grid takes ten times the scale. Grids
coarser than the value are passed over. -/
def search (interval : Interval) (ties : Ties) (step : Nat) : Nat → Nat → Int → Option Decimal
  | 0, _, _ => none
  | fuel + 1, scale, exponent =>
    let below := interval.middle * scale / step
    let finer := search interval ties step fuel (scale * 10) (exponent - 1)
    if below = 0 then finer
    else
      match interval.choose? ties scale step below with
      | some digits => some (stripped digits exponent)
      | none => finer

def shortest (ties : Ties) (mantissa : Nat) (exponent : Int) : Decimal :=
  if mantissa = 0 then { digits := 0, exponent := 0 }
  else
    -- the exponent of two turned into one of ten that is never too small
    let top : Int := (mantissa.log2 + exponent + 1) * 30103 / 100000 + 1
    let quarter := exponent - 2
    let scale := Nat.pow 10 (-top).toNat <<< quarter.toNat
    let step := Nat.pow 10 top.toNat <<< (-quarter).toNat
    (search (.ofMantissa mantissa exponent) ties step 20 scale top).getD (exact mantissa exponent)

def toBits (d : Decimal) : Nat :=
  let places : Int := (Nat.toDigits 10 d.digits).length + d.exponent
  if d.digits = 0 ∨ places < -400 then 0
  else if 400 < places then Binary64.infinityBits
  else Binary64.nearestBits (d.digits * Nat.pow 10 d.exponent.toNat) (Nat.pow 10 (-d.exponent).toNat)

def toFloat (negative : Bool) (d : Decimal) : Float := Binary64.floatOfBits negative d.toBits

structure Style where
  positional : Int → Bool
  wholePoint : Bool

def positionalText (wholePoint : Bool) (digits : List Char) (places : Int) : List Char :=
  if places ≤ 0 then '0' :: '.' :: (List.replicate (-places).toNat '0' ++ digits)
  else if digits.length ≤ places then
    digits ++ List.replicate (places - digits.length).toNat '0' ++ (if wholePoint then ['.', '0'] else [])
  else digits.take places.toNat ++ '.' :: digits.drop places.toNat

def scientificText (digits : List Char) (power : Int) : List Char :=
  let mantissa :=
    match digits with
    | first :: second :: rest => first :: '.' :: second :: rest
    | _ => digits
  mantissa ++ 'e' :: (if power < 0 then '-' else '+') :: Nat.toDigits 10 power.natAbs

def text (style : Style) (d : Decimal) : List Char :=
  if d.digits = 0 then positionalText style.wholePoint ['0'] 1
  else
    let digits := Nat.toDigits 10 d.digits
    let places := digits.length + d.exponent
    if style.positional (places - 1) then positionalText style.wholePoint digits places
    else scientificText digits (places - 1)

end Decimal

def plainStyle : Decimal.Style := { positional := fun _ => true, wholePoint := false }

def plainText (x : Float) : String :=
  match Binary64.ofFloat x with
  | .nan => "NaN"
  | .infinite negative => if negative then "-inf" else "inf"
  | .finite negative mantissa exponent =>
    let digits := (Decimal.shortest .up mantissa exponent).text plainStyle
    String.ofList (if negative then '-' :: digits else digits)

end Floorplan.Number

import Floorplan.Number.Binary64

set_option autoImplicit false

namespace Floorplan.Number

def thousandthsText (n : Nat) : List Char :=
  let part := n % 1000
  Nat.toDigits 10 (n / 1000)
    ++ ['.', Nat.digitChar (part / 100), Nat.digitChar (part / 10 % 10), Nat.digitChar (part % 10)]

def thousandths (mantissa : Nat) (exponent : Int) : Nat :=
  roundDiv ((mantissa * 1000) <<< exponent.toNat) (1 <<< (-exponent).toNat)

def fixedText (x : Float) : List Char :=
  match Binary64.ofFloat x with
  | .nan => ['N', 'a', 'N']
  | .infinite negative => if negative then ['-', 'i', 'n', 'f'] else ['i', 'n', 'f']
  | .finite negative mantissa exponent =>
    let digits := thousandthsText (thousandths mantissa exponent)
    if negative then '-' :: digits else digits

def dropLast (c : Char) (text : List Char) : List Char :=
  (text.reverse.dropWhile (· == c)).reverse

/-- Drop zeros from the end, then points, and the sign of a bare zero. -/
def compact (text : List Char) : List Char :=
  let short := dropLast '.' (dropLast '0' text)
  if short = ['-', '0'] then ['0'] else short

def compactText (x : Float) : String := String.ofList (compact (fixedText x))

end Floorplan.Number

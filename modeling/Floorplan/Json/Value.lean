import Floorplan.Number.Decimal

set_option autoImplicit false

namespace Floorplan

open Number (Decimal Binary64)

namespace Json

/-- A number as it is written: a whole one that fits into a word, or any other one with the digits
that fit. -/
inductive Numeral where
  | whole (negative : Bool) (magnitude : Nat)
  | decimal (negative : Bool) (value : Decimal)
deriving DecidableEq

/-- The characters of a string; none when an escape names half of a surrogate pair. -/
abbrev Text := Option String

end Json

inductive Json where
  | null
  | bool (value : Bool)
  | number (value : Json.Numeral)
  | string (text : Json.Text)
  | array (items : List Json)
  | object (members : List (Json.Text × Json))

namespace Json

def ofString (s : String) : Json := .string (some s)

def ofInt (i : Int) : Json := .number (.whole (decide (i < 0)) i.natAbs)

def ofNat (n : Nat) : Json := .number (.whole false n)

def record (members : List (String × Json)) : Json :=
  .object (members.map fun (name, value) => (some name, value))

def ofFloat (x : Float) : Json :=
  match Binary64.ofFloat x with
  | .nan => .null
  | .infinite _ => .null
  | .finite negative mantissa exponent =>
    .number (.decimal negative (Decimal.shortest .toEven mantissa exponent))

def style : Decimal.Style := { positional := fun power => -5 ≤ power && power < 16, wholePoint := true }

def Numeral.chars : Numeral → List Char
  | .whole negative magnitude =>
    let digits := Nat.toDigits 10 magnitude
    if negative then '-' :: digits else digits
  | .decimal negative value =>
    let digits := value.text style
    if negative then '-' :: digits else digits

end Json

end Floorplan

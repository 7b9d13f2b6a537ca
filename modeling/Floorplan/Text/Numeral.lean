import Floorplan.Number.Decimal

set_option autoImplicit false

namespace Floorplan.Text

open Number (Decimal digitValue digitsValue)

inductive CountFault where
  | empty
  | invalidDigit
  | tooLarge
deriving DecidableEq

def CountFault.message : CountFault → String
  | .empty => "cannot parse integer from empty string"
  | .invalidDigit => "invalid digit found in string"
  | .tooLarge => "number too large to fit in target type"

def addDigits (largest : Nat) : Nat → List Char → Except CountFault Nat
  | n, [] => .ok n
  | n, c :: rest =>
    if !c.isDigit then .error .invalidDigit
    else
      let n := 10 * n + digitValue c
      if largest < n then .error .tooLarge else addDigits largest n rest

def count (largest : Nat) : List Char → Except CountFault Nat
  | [] => .error .empty
  | ['+'] => .error .invalidDigit
  | '+' :: rest => addDigits largest 0 rest
  | s => addDigits largest 0 s

/-- A number up to `largest` from a text that may also have a minus sign, which only zero can bear. -/
def signedCount (largest : Nat) (s : List Char) : Except CountFault Nat :=
  match s with
  | '-' :: c :: rest => (addDigits 0 0 (c :: rest)).mapError fun _ => .invalidDigit
  | _ => count largest s

def lowered (s : List Char) : List Char := s.map Char.toLower

def power? : List Char → Option Int
  | [] => some 0
  | e :: rest =>
    if e ≠ 'e' ∧ e ≠ 'E' then none
    else
      let (negative, digits) :=
        match rest with
        | '-' :: digits => (true, digits)
        | '+' :: digits => (false, digits)
        | digits => (false, digits)
      if digits.isEmpty || digits.any (!·.isDigit) then none
      else some (if negative then -(digitsValue digits : Int) else digitsValue digits)

def decimal? (s : List Char) : Option Decimal := do
  let whole := s.takeWhile Char.isDigit
  let rest := s.dropWhile Char.isDigit
  let (places, rest) :=
    match rest with
    | '.' :: rest => (rest.takeWhile Char.isDigit, rest.dropWhile Char.isDigit)
    | rest => ([], rest)
  if whole.isEmpty && places.isEmpty then none
  else
    let power ← power? rest
    pure { digits := digitsValue (whole ++ places), exponent := power - places.length }

def float? (s : List Char) : Option Float :=
  let (negative, size) :=
    match s with
    | '-' :: size => (true, size)
    | '+' :: size => (false, size)
    | size => (false, size)
  let name := String.ofList (lowered size)
  if name = "inf" ∨ name = "infinity" then
    some (Number.Binary64.floatOfBits negative Number.Binary64.infinityBits)
  else if name = "nan" then
    some (Number.Binary64.floatOfBits negative (Number.Binary64.infinityBits + 1))
  else (decimal? size).map (Decimal.toFloat negative)

end Floorplan.Text

import Floorplan.Text.Blank
import Floorplan.Text.Numeral
import Floorplan.Text.Split

set_option autoImplicit false

namespace Floorplan.SizeList

open Text (CountFault)

inductive Fault where
  | notPair (item : String)
  | badWidth (item : String) (cause : CountFault)
  | badHeight (item : String) (cause : CountFault)
  | noSizes
deriving DecidableEq

def Fault.chain : Fault → List String
  | .notPair item => [s!"room size `{item}` is not WIDTHxHEIGHT"]
  | .badWidth item cause => [s!"bad width in `{item}`", cause.message]
  | .badHeight item cause => [s!"bad height in `{item}`", cause.message]
  | .noSizes => ["no room sizes given"]

def isCross (c : Char) : Bool := c == 'x' || c == 'X'

def sizeMax : Nat := (1 <<< 32) - 1

def parseSide (s : List Char) : Except CountFault UInt32 :=
  (Text.count sizeMax (Text.trimmed s)).map UInt32.ofNat

def parseItem (item : List Char) : Except Fault (UInt32 × UInt32) :=
  let name := String.ofList item
  match Text.splitOnce isCross item with
  | none => .error (.notPair name)
  | some (width, height) => do
    let width ← (parseSide width).mapError (.badWidth name)
    let height ← (parseSide height).mapError (.badHeight name)
    pure (width, height)

def items (spec : List Char) : List (List Char) :=
  ((Text.splitOn ',' spec).map Text.trimmed).filter fun item => !item.isEmpty

/-- The sizes in a text, of which there is at least one. The first item at fault decides. -/
def parse (spec : String) : Except Fault (List (UInt32 × UInt32)) := do
  let sizes ← (items spec.toList).mapM parseItem
  if sizes.isEmpty then .error .noSizes else pure sizes

end Floorplan.SizeList

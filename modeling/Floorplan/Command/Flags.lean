import Floorplan.Text.Numeral

set_option autoImplicit false

namespace Floorplan.Command

inductive Flag where
  | config
  | width
  | height
  | rooms
  | sizes
  | thickness
  | allowCrossing
  | strategy
  | metric
  | extraEdges
  | touching
  | force
  | seed
  | output
  | scale
  | json
  | verbose
deriving DecidableEq

namespace Flag

def all : List Flag :=
  [.config, .width, .height, .rooms, .sizes, .thickness, .allowCrossing, .strategy, .metric,
    .extraEdges, .touching, .force, .seed, .output, .scale, .json, .verbose]

def long : Flag → String
  | .config => "config"
  | .width => "width"
  | .height => "height"
  | .rooms => "rooms"
  | .sizes => "sizes"
  | .thickness => "thickness"
  | .allowCrossing => "allow-crossing"
  | .strategy => "strategy"
  | .metric => "metric"
  | .extraEdges => "extra-edges"
  | .touching => "touching"
  | .force => "force"
  | .seed => "seed"
  | .output => "output"
  | .scale => "scale"
  | .json => "json"
  | .verbose => "verbose"

def short? : Flag → Option Char
  | .config => some 'c'
  | .rooms => some 'n'
  | .thickness => some 't'
  | .seed => some 's'
  | .output => some 'o'
  | .verbose => some 'v'
  | _ => none

def takesValue : Flag → Bool
  | .allowCrossing => false
  | .force => false
  | .json => false
  | .verbose => false
  | _ => true

def ofLong? (name : List Char) : Option Flag := all.find? fun flag => flag.long.toList == name

def ofShort? (c : Char) : Option Flag := all.find? fun flag => flag.short? == some c

end Flag

abbrev Given := Flag × Option (List Char)

def isValue : List Char → Bool
  | '-' :: _ :: _ => false
  | _ => true

def longFlag? (body : List Char) : Option (List Given × Option Flag) := do
  let name := body.takeWhile (· != '=')
  let flag ← Flag.ofLong? name
  match body.dropWhile (· != '='), flag.takesValue with
  | [], true => pure ([], some flag)
  | [], false => pure ([(flag, none)], none)
  | _ :: value, true => pure ([(flag, some value)], none)
  | _ :: _, false => none

def shortFlags? : List Char → Option (List Given × Option Flag)
  | [] => some ([], none)
  | c :: rest => do
    let flag ← Flag.ofShort? c
    if flag.takesValue then
      match rest with
      | [] => pure ([], some flag)
      | '=' :: value => pure ([(flag, some value)], none)
      | value => pure ([(flag, some value)], none)
    else
      let (more, open?) ← shortFlags? rest
      pure ((flag, none) :: more, open?)

def argument? : List Char → Option (List Given × Option Flag)
  | '-' :: '-' :: body => longFlag? body
  | '-' :: c :: rest => shortFlags? (c :: rest)
  | _ => none

/-- The flags of a command line, `waiting` being one whose value comes next. After two dashes nothing
may follow. -/
def given? : Option Flag → List (List Char) → Option (List Given)
  | none, [] => some []
  | some _, [] => none
  | some flag, value :: rest =>
    if isValue value then (given? none rest).map ((flag, some value) :: ·) else none
  | none, first :: rest =>
    if first = ['-', '-'] then (if rest.isEmpty then some [] else none)
    else
      match argument? first with
      | none => none
      | some (flags, waiting) => (given? waiting rest).map (flags ++ ·)

structure Flags where
  config : Option String
  width : Option UInt32
  height : Option UInt32
  rooms : Option UInt64
  sizes : Option String
  thickness : Option Float
  allowCrossing : Bool
  strategy : Option String
  metric : Option String
  extraEdges : Option Float
  touching : Option Float
  force : Bool
  seed : Option UInt64
  output : String
  scale : Float
  json : Bool
  verbose : Bool

namespace Flags

def standard : Flags :=
  { config := none
    width := none
    height := none
    rooms := none
    sizes := none
    thickness := none
    allowCrossing := false
    strategy := none
    metric := none
    extraEdges := none
    touching := none
    force := false
    seed := none
    output := "layout.svg"
    scale := 8
    json := false
    verbose := false }

def path? (value : List Char) : Option String :=
  if value.isEmpty then none else some (String.ofList value)

def side? (value : List Char) : Option UInt32 :=
  ((Text.signedCount ((1 <<< 32) - 1) value).map UInt32.ofNat).toOption

def word? (value : List Char) : Option UInt64 :=
  ((Text.count ((1 <<< 64) - 1) value).map UInt64.ofNat).toOption

def set? (flags : Flags) : Given → Option Flags
  | (.allowCrossing, none) => some { flags with allowCrossing := true }
  | (.force, none) => some { flags with force := true }
  | (.json, none) => some { flags with json := true }
  | (.verbose, none) => some { flags with verbose := true }
  | (.config, some value) => (path? value).map fun path => { flags with config := some path }
  | (.output, some value) => (path? value).map fun path => { flags with output := path }
  | (.width, some value) => (side? value).map fun n => { flags with width := some n }
  | (.height, some value) => (side? value).map fun n => { flags with height := some n }
  | (.rooms, some value) => (word? value).map fun n => { flags with rooms := some n }
  | (.seed, some value) => (word? value).map fun n => { flags with seed := some n }
  | (.sizes, some value) => some { flags with sizes := some (String.ofList value) }
  | (.strategy, some value) => some { flags with strategy := some (String.ofList value) }
  | (.metric, some value) => some { flags with metric := some (String.ofList value) }
  | (.thickness, some value) => (Text.float? value).map fun x => { flags with thickness := some x }
  | (.extraEdges, some value) => (Text.float? value).map fun x => { flags with extraEdges := some x }
  | (.touching, some value) => (Text.float? value).map fun x => { flags with touching := some x }
  | (.scale, some value) => (Text.float? value).map fun x => { flags with scale := x }
  | _ => none

def ofArguments? (arguments : List String) : Option Flags := do
  let given ← given? none (arguments.map String.toList)
  if (given.map (·.1)).Nodup then given.foldlM set? standard else none

end Flags

end Floorplan.Command

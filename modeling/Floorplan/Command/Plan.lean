import Floorplan.Command.Flags
import Floorplan.Json.Layout
import Floorplan.Json.Config
import Floorplan.SizeList
import Floorplan.Svg
import Floorplan.Words.Generator

/-!
What the command does: the configuration is the options file, or the defaults, with the flagged
fields replaced; its layout is drawn to a file and may be printed.
-/

set_option autoImplicit false

namespace Floorplan.Command

abbrev Files := String → Except String String

abbrev Chain := List String

def loadConfig (files : Files) (path : String) : Except Chain (Config Float) :=
  let context := s!"loading options from {path}"
  match files path with
  | .error reason => .error [context, (ConfigError.unreadable reason).message, reason]
  | .ok text => (Config.ofText text).mapError fun error => [context, error.message]

def named {β : Type} [Named β] (option value : String) : Except Chain β :=
  match Named.ofName? (String.ofList (Text.lowered value.toList)) with
  | some found => .ok found
  | none =>
    let valid := String.intercalate ", " ((Named.all : List β).map Named.name)
    .error [s!"unknown {option} `{value}` (expected one of: {valid})"]

def overlay {β γ : Type} (flag : Option β) (given : β → Except Chain γ) (old : γ) : Except Chain γ :=
  match flag with
  | none => .ok old
  | some value => given value

def overlayFlags (flags : Flags) (config : Config Float) : Except Chain (Config Float) := do
  let roomSizes ←
    overlay flags.sizes (fun spec => (SizeList.parse spec).mapError SizeList.Fault.chain) config.roomSizes
  let strategy ← overlay flags.strategy (named "strategy") config.strategy
  let metric ← overlay flags.metric (named "metric") config.metric
  pure
    { config with
      width := flags.width.getD config.width
      height := flags.height.getD config.height
      roomCount := flags.rooms.getD config.roomCount
      roomSizes
      corridorThickness := flags.thickness.getD config.corridorThickness
      crossing := if flags.allowCrossing then .allow else config.crossing
      strategy
      metric
      extraEdgeFraction := flags.extraEdges.getD config.extraEdgeFraction
      touchingFraction := flags.touching.getD config.touchingFraction
      unroutable := if flags.force then .forceBestEffort else config.unroutable }

def buildConfig (flags : Flags) (files : Files) : Except Chain (Config Float) := do
  let base ←
    match flags.config with
    | none => .ok Config.standard
    | some path => loadConfig files path
  let config ← overlayFlags flags base
  config.validate.mapError fun error => [error.message]
  pure config

structure Plan where
  output : String
  document : String
  printed : Option String

/-- The plan of a command; `seed` is taken where none is given. There is none where generation breaks off. -/
def plan (flags : Flags) (files : Files) (seed : UInt64) : Option (Except Chain Plan) :=
  match buildConfig flags files with
  | .error chain => some (.error chain)
  | .ok config =>
    let seed := flags.seed.getD seed
    (Words.generate? config seed).map fun outcome => do
      let layout ← outcome.mapError fun failure =>
        [s!"generating layout with seed {seed}", failure.message]
      pure
        { output := flags.output
          document := Svg.document { factor := flags.scale } .standard layout
          printed := if flags.json then some (layout.text ++ "\n") else none }

def writeFailure (path reason : String) : Chain := [s!"writing {path}", reason]

end Floorplan.Command

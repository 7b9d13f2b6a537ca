import Floorplan.Config
import Floorplan.Coord.Double
import Floorplan.Json.Form

set_option autoImplicit false

namespace Floorplan

open Json (fields? fieldOr? record)

instance : Named CrossingPolicy where
  all := [.forbid, .allow]
  name
    | .forbid => "forbid"
    | .allow => "allow"

instance : Named StrategyKind where
  all := [.direct, .grid]
  name
    | .direct => "direct"
    | .grid => "grid"

instance : Named Metric where
  all := [.euclidean, .manhattan]
  name
    | .euclidean => "euclidean"
    | .manhattan => "manhattan"

instance : Named UnroutablePolicy where
  all := [.restart, .forceBestEffort]
  name
    | .restart => "restart"
    | .forceBestEffort => "force_best_effort"

instance : JsonForm CrossingPolicy where
  write := Named.write
  read? := Named.read?

instance : JsonForm StrategyKind where
  write := Named.write
  read? := Named.read?

instance : JsonForm Metric where
  write := Named.write
  read? := Named.read?

instance : JsonForm UnroutablePolicy where
  write := Named.write
  read? := Named.read?

namespace Budgets

def toJson (budgets : Budgets) : Json :=
  record (BudgetField.all.map fun field => (field.name, JsonForm.write (budgets.get field)))

def read? (json : Json) : Option Budgets := do
  let fields ← fields? (BudgetField.all.map BudgetField.name) json
  let get (field : BudgetField) : Option UInt32 := fieldOr? fields field.name (standard.get field)
  let placement ← get .placement
  let perEdge ← get .perEdge
  let pipeline ← get .pipeline
  pure { placement, perEdge, pipeline }

end Budgets

instance : JsonForm Budgets where
  write := Budgets.toJson
  read? := Budgets.read?

namespace Config

def fieldJson (config : Config Float) : ConfigField → Json
  | .width => JsonForm.write config.width
  | .height => JsonForm.write config.height
  | .roomCount => JsonForm.write config.roomCount
  | .roomSizes => JsonForm.write config.roomSizes
  | .roomPadding => JsonForm.write config.roomPadding
  | .touchingFraction => JsonForm.write config.touchingFraction
  | .corridorThickness => JsonForm.write config.corridorThickness
  | .crossing => JsonForm.write config.crossing
  | .strategy => JsonForm.write config.strategy
  | .metric => JsonForm.write config.metric
  | .extraEdgeFraction => JsonForm.write config.extraEdgeFraction
  | .unroutable => JsonForm.write config.unroutable
  | .budgets => JsonForm.write config.budgets
  | .indexCellSize => JsonForm.write config.indexCellSize

def toJson (config : Config Float) : Json :=
  record (ConfigField.all.map fun field => (field.name, config.fieldJson field))

def text (config : Config Float) : String := config.toJson.pretty

def read? (json : Json) : Option (Config Float) := do
  let fields ← fields? (ConfigField.all.map ConfigField.name) json
  let default : Config Float := standard
  let width ← fieldOr? fields (ConfigField.name .width) default.width
  let height ← fieldOr? fields (ConfigField.name .height) default.height
  let roomCount ← fieldOr? fields (ConfigField.name .roomCount) default.roomCount
  let roomSizes ← fieldOr? fields (ConfigField.name .roomSizes) default.roomSizes
  let roomPadding ← fieldOr? fields (ConfigField.name .roomPadding) default.roomPadding
  let touchingFraction ← fieldOr? fields (ConfigField.name .touchingFraction) default.touchingFraction
  let corridorThickness ←
    fieldOr? fields (ConfigField.name .corridorThickness) default.corridorThickness
  let crossing ← fieldOr? fields (ConfigField.name .crossing) default.crossing
  let strategy ← fieldOr? fields (ConfigField.name .strategy) default.strategy
  let metric ← fieldOr? fields (ConfigField.name .metric) default.metric
  let extraEdgeFraction ←
    fieldOr? fields (ConfigField.name .extraEdgeFraction) default.extraEdgeFraction
  let unroutable ← fieldOr? fields (ConfigField.name .unroutable) default.unroutable
  let budgets ← fieldOr? fields (ConfigField.name .budgets) default.budgets
  let indexCellSize ← fieldOr? fields (ConfigField.name .indexCellSize) default.indexCellSize
  pure
    { width, height, roomCount, roomSizes, roomPadding, touchingFraction, corridorThickness, crossing,
      strategy, metric, extraEdgeFraction, unroutable, budgets, indexCellSize }

def ofText (text : String) : Except (ConfigError Float) (Config Float) :=
  match (Json.parse? text).bind read? with
  | none => .error .malformed
  | some config => do
    config.validate
    pure config

end Config

end Floorplan

import Floorplan.Edge
import Floorplan.Number.Decimal

set_option autoImplicit false

namespace Floorplan

inductive CrossingPolicy where
  | forbid
  | allow
deriving DecidableEq

def CrossingPolicy.allows (policy : CrossingPolicy) : Bool := decide (policy = .allow)

inductive StrategyKind where
  | direct
  | grid
deriving DecidableEq

inductive UnroutablePolicy where
  | restart
  | forceBestEffort
deriving DecidableEq

structure Budgets where
  placement : UInt32
  perEdge : UInt32
  pipeline : UInt32
deriving DecidableEq

inductive BudgetField where
  | placement
  | perEdge
  | pipeline
deriving DecidableEq

def BudgetField.name : BudgetField → String
  | .placement => "placement"
  | .perEdge => "per_edge"
  | .pipeline => "pipeline"

def BudgetField.all : List BudgetField := [.placement, .perEdge, .pipeline]

namespace Budgets

def standard : Budgets := { placement := 1000, perEdge := 16, pipeline := 100 }

def get (budgets : Budgets) : BudgetField → UInt32
  | .placement => budgets.placement
  | .perEdge => budgets.perEdge
  | .pipeline => budgets.pipeline

end Budgets

structure Config (α : Type) where
  width : UInt32
  height : UInt32
  roomCount : UInt64
  roomSizes : List (UInt32 × UInt32)
  roomPadding : UInt32
  touchingFraction : α
  corridorThickness : α
  crossing : CrossingPolicy
  strategy : StrategyKind
  metric : Metric
  extraEdgeFraction : α
  unroutable : UnroutablePolicy
  budgets : Budgets
  indexCellSize : α
deriving BEq, DecidableEq

inductive ConfigField where
  | width
  | height
  | roomCount
  | roomSizes
  | roomPadding
  | touchingFraction
  | corridorThickness
  | crossing
  | strategy
  | metric
  | extraEdgeFraction
  | unroutable
  | budgets
  | indexCellSize
deriving DecidableEq

namespace ConfigField

def name : ConfigField → String
  | .width => "width"
  | .height => "height"
  | .roomCount => "room_count"
  | .roomSizes => "room_sizes"
  | .roomPadding => "room_padding"
  | .touchingFraction => "touching_fraction"
  | .corridorThickness => "corridor_thickness"
  | .crossing => "crossing"
  | .strategy => "strategy"
  | .metric => "metric"
  | .extraEdgeFraction => "extra_edge_fraction"
  | .unroutable => "unroutable"
  | .budgets => "budgets"
  | .indexCellSize => "index_cell_size"

def all : List ConfigField :=
  [.width, .height, .roomCount, .roomSizes, .roomPadding, .touchingFraction, .corridorThickness,
    .crossing, .strategy, .metric, .extraEdgeFraction, .unroutable, .budgets, .indexCellSize]

end ConfigField

inductive ConfigError (α : Type) where
  | emptyBounds (width height : UInt32)
  | noRoomSizes
  | emptyRoomSize (width height : UInt32)
  | nonPositive (field : ConfigField) (value : α)
  | fractionOutOfRange (field : ConfigField) (value : α)
  | zeroBudget (field : BudgetField)
  | unreadable (reason : String)
  | malformed
deriving BEq, DecidableEq

def ConfigError.message : ConfigError Float → String
  | .emptyBounds width height => s!"map bounds must be positive, got {width}x{height}"
  | .noRoomSizes => "at least one room size option is required"
  | .emptyRoomSize width height => s!"room size {width}x{height} must be positive"
  | .nonPositive field value =>
    s!"{field.name} must be positive and finite, got {Number.plainText value}"
  | .fractionOutOfRange field value =>
    s!"{field.name} must lie in [0, 1], got {Number.plainText value}"
  | .zeroBudget field => s!"attempt budget `{field.name}` must be at least 1"
  | .unreadable reason => s!"IO error: {reason}"
  | .malformed => "JSON error"

namespace Config

variable {α : Type} [Coord α]

def standard : Config α :=
  { width := 100
    height := 100
    roomCount := 10
    roomSizes := [(10, 10), (5, 5)]
    roomPadding := 0
    touchingFraction := Coord.zero
    corridorThickness := Coord.one
    crossing := .forbid
    strategy := .direct
    metric := .euclidean
    extraEdgeFraction := Coord.zero
    unroutable := .restart
    budgets := .standard
    indexCellSize := Coord.ofInt 8 }

def bounds (config : Config α) : Rect α :=
  { x := Coord.zero
    y := Coord.zero
    width := Coord.ofInt config.width.toNat
    height := Coord.ofInt config.height.toNat }

def checkPositive (field : ConfigField) (value : α) : Except (ConfigError α) Unit :=
  if Coord.isFinite value && decide (Coord.zero < value) then .ok ()
  else .error (.nonPositive field value)

def checkFraction (field : ConfigField) (value : α) : Except (ConfigError α) Unit :=
  if decide (Coord.zero ≤ value) && decide (value ≤ Coord.one) then .ok ()
  else .error (.fractionOutOfRange field value)

def checkBounds (config : Config α) : Except (ConfigError α) Unit :=
  if config.width = 0 ∨ config.height = 0 then .error (.emptyBounds config.width config.height)
  else .ok ()

def checkSizes (config : Config α) : Except (ConfigError α) Unit :=
  if config.roomSizes.isEmpty then .error .noRoomSizes
  else
    match config.roomSizes.find? fun size => size.1 == 0 || size.2 == 0 with
    | some (width, height) => .error (.emptyRoomSize width height)
    | none => .ok ()

def checkBudgets (config : Config α) : Except (ConfigError α) Unit :=
  match BudgetField.all.find? fun field => config.budgets.get field == 0 with
  | some field => .error (.zeroBudget field)
  | none => .ok ()

def validate (config : Config α) : Except (ConfigError α) Unit := do
  checkBounds config
  checkSizes config
  checkPositive .corridorThickness config.corridorThickness
  checkPositive .indexCellSize config.indexCellSize
  checkFraction .touchingFraction config.touchingFraction
  checkFraction .extraEdgeFraction config.extraEdgeFraction
  checkBudgets config

end Config

end Floorplan

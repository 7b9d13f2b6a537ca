import Floorplan.Connector
import Floorplan.Components

set_option autoImplicit false

namespace Floorplan

structure Layout (α : Type) where
  bounds : Rect α
  rooms : Array (Room α)
  connectors : List (Connector α)
  seed : UInt64
  attempts : Nat
deriving BEq, DecidableEq

namespace Layout

variable {α : Type}

def room? (layout : Layout α) (id : RoomId) : Option (Room α) := layout.rooms[id.index]?

def forcedConnectors (layout : Layout α) : List (Connector α) :=
  layout.connectors.filter (·.forced)

def isConnected (layout : Layout α) : Bool :=
  let linked := layout.connectors.foldl
    (fun (components : Components) connector =>
      (components.merge connector.rooms.1.index connector.rooms.2.index).2)
    (.new layout.rooms.size)
  linked.allLinked

end Layout

end Floorplan

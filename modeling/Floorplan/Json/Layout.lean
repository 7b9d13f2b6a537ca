import Floorplan.Json.Form
import Floorplan.Layout
import Floorplan.SpatialIndex
import Floorplan.Edge

set_option autoImplicit false

namespace Floorplan

open Json (fields? field? record)

instance : Named Wall where
  all := Wall.all
  name
    | .left => "left"
    | .right => "right"
    | .top => "top"
    | .bottom => "bottom"

instance : Named EdgeKind where
  all := [.tree, .extra]
  name
    | .tree => "tree"
    | .extra => "extra"

instance : JsonForm Wall where
  write := Named.write
  read? := Named.read?

instance : JsonForm EdgeKind where
  write := Named.write
  read? := Named.read?

instance : JsonForm (Point Float) where
  write := fun p => record [("x", JsonForm.write p.x), ("y", JsonForm.write p.y)]
  read? := fun json => do
    let fields ← fields? ["x", "y"] json
    let x ← field? fields "x"
    let y ← field? fields "y"
    pure { x, y }

instance : JsonForm (Rect Float) where
  write := fun r =>
    record
      [("x", JsonForm.write r.x), ("y", JsonForm.write r.y), ("width", JsonForm.write r.width),
        ("height", JsonForm.write r.height)]
  read? := fun json => do
    let fields ← fields? ["x", "y", "width", "height"] json
    let x ← field? fields "x"
    let y ← field? fields "y"
    let width ← field? fields "width"
    let height ← field? fields "height"
    pure { x, y, width, height }

instance : JsonForm (Door Float) where
  write := fun d => record [("wall", JsonForm.write d.wall), ("anchor", JsonForm.write d.anchor)]
  read? := fun json => do
    let fields ← fields? ["wall", "anchor"] json
    let wall ← field? fields "wall"
    let anchor ← field? fields "anchor"
    pure { wall, anchor }

def idMax : Nat := (1 <<< 32) - 1

instance : JsonForm RoomId where
  write := fun id => Json.ofNat id.index
  read? := fun json => (json.countUpTo? idMax).map RoomId.mk

instance : JsonForm ConnectorId where
  write := fun id => Json.ofNat id.index
  read? := fun json => (json.countUpTo? idMax).map ConnectorId.mk

instance : JsonForm (Room Float) where
  write := fun r =>
    record
      [("id", JsonForm.write r.id), ("rect", JsonForm.write r.rect), ("doors", JsonForm.write r.doors)]
  read? := fun json => do
    let fields ← fields? ["id", "rect", "doors"] json
    let id ← field? fields "id"
    let rect ← field? fields "rect"
    let doors ← field? fields "doors"
    pure { id, rect, doors }

instance : JsonForm (Edge Float) where
  write := fun e =>
    record
      [("a", JsonForm.write e.a), ("b", JsonForm.write e.b), ("weight", JsonForm.write e.weight),
        ("kind", JsonForm.write e.kind)]
  read? := fun json => do
    let fields ← fields? ["a", "b", "weight", "kind"] json
    let a ← field? fields "a"
    let b ← field? fields "b"
    let weight ← field? fields "weight"
    let kind ← field? fields "kind"
    pure { a, b, weight, kind }

def cellNumber? (fields : List (String × Json)) (name : String) : Option Int :=
  (fields.lookup name).bind (Json.wholeIn? Number.cellMin Number.cellMax)

instance : JsonForm Cell where
  write := fun c => record [("x", Json.ofInt c.x), ("y", Json.ofInt c.y)]
  read? := fun json => do
    let fields ← fields? ["x", "y"] json
    let x ← cellNumber? fields "x"
    let y ← cellNumber? fields "y"
    pure { x, y }

def Geometry.read? (json : Json) : Option (Geometry Float) :=
  match json with
  | .string (some "doorway") => some .doorway
  | .object [(some "doorway", .null)] => some .doorway
  | .object [(some "segments", content)] => (JsonForm.read? content).map .segments
  | .object [(some "path", content)] => (JsonForm.read? content).map .path
  | _ => none

instance : JsonForm (Geometry Float) where
  write
    | .segments rects => record [("segments", JsonForm.write rects)]
    | .path cells => record [("path", JsonForm.write cells)]
    | .doorway => Json.ofString "doorway"
  read? := Geometry.read?

instance : JsonForm (Connector Float) where
  write := fun c =>
    record
      [("id", JsonForm.write c.id), ("rooms", JsonForm.write c.rooms),
        ("doors", JsonForm.write c.doors), ("geometry", JsonForm.write c.geometry),
        ("forced", JsonForm.write c.forced)]
  read? := fun json => do
    let fields ← fields? ["id", "rooms", "doors", "geometry", "forced"] json
    let id ← field? fields "id"
    let rooms ← field? fields "rooms"
    let doors ← field? fields "doors"
    let geometry ← field? fields "geometry"
    let forced ← field? fields "forced"
    pure { id, rooms, doors, geometry, forced }

def Occupant.read? (json : Json) : Option Occupant :=
  match json with
  | .object [(some "Room", content)] => (JsonForm.read? content).map .room
  | .object [(some "Connector", content)] => (JsonForm.read? content).map .connector
  | _ => none

instance : JsonForm Occupant where
  write
    | .room id => record [("Room", JsonForm.write id)]
    | .connector id => record [("Connector", JsonForm.write id)]
  read? := Occupant.read?

def Layout.toJson (layout : Layout Float) : Json :=
  record
    [("bounds", JsonForm.write layout.bounds), ("rooms", JsonForm.write layout.rooms.toList),
      ("connectors", JsonForm.write layout.connectors), ("seed", JsonForm.write layout.seed),
      ("attempts", Json.ofNat layout.attempts)]

def Layout.text (layout : Layout Float) : String := layout.toJson.pretty

end Floorplan

import Floorplan.Coord.Double
import Floorplan.Layout
import Floorplan.Number.Fixed

/-!
A layout as an SVG document. The document is a list of marks, one on each line, painted in their
order: the background, the connectors, each room with its number, and the doors of all rooms.
-/

set_option autoImplicit false

namespace Floorplan.Svg

open Number (compactText)

structure Theme where
  background : String
  roomFill : String
  roomStroke : String
  corridor : String
  forced : String
  door : String
  label : String
deriving DecidableEq

def Theme.standard : Theme :=
  { background := "#1e1e2e"
    roomFill := "#45475a"
    roomStroke := "#cdd6f4"
    corridor := "#a6adc8"
    forced := "#f38ba8"
    door := "#f9e2af"
    label := "#cdd6f4" }

inductive Mark where
  | area (rect : Rect Float) (fill : String)
  | box (rect : Rect Float) (fill stroke : String) (strokeWidth : Float)
  | line (points : List (Point Float)) (stroke : String) (strokeWidth : Float)
  | label (center : Point Float) (fill : String) (size : Float) (text : String)
  | disc (center : Point Float) (radius : Float) (fill : String)

def attr (name value : String) : String := s!" {name}=\"{value}\""

def number (name : String) (value : Float) : String := attr name (compactText value)

def rectAttributes (r : Rect Float) : String :=
  number "x" r.x ++ number "y" r.y ++ number "width" r.width ++ number "height" r.height

def pointText (p : Point Float) : String := compactText p.x ++ "," ++ compactText p.y

def Mark.text : Mark → String
  | .area rect fill => "  <rect" ++ rectAttributes rect ++ attr "fill" fill ++ "/>"
  | .box rect fill stroke width =>
    "  <rect" ++ rectAttributes rect ++ attr "fill" fill ++ attr "stroke" stroke
      ++ number "stroke-width" width ++ "/>"
  | .line points stroke width =>
    "  <polyline" ++ attr "points" (String.intercalate " " (points.map pointText))
      ++ attr "fill" "none" ++ attr "stroke" stroke ++ number "stroke-width" width
      ++ attr "stroke-linejoin" "round" ++ "/>"
  | .label center fill size text =>
    "  <text" ++ number "x" center.x ++ number "y" center.y ++ attr "fill" fill
      ++ attr "font-family" "monospace" ++ number "font-size" size
      ++ attr "text-anchor" "middle" ++ attr "dominant-baseline" "middle" ++ ">" ++ text
      ++ "</text>"
  | .disc center radius fill =>
    "  <circle" ++ number "cx" center.x ++ number "cy" center.y ++ number "r" radius
      ++ attr "fill" fill ++ "/>"

structure Scale where
  factor : Float

namespace Scale

def point (scale : Scale) (p : Point Float) : Point Float :=
  { x := p.x * scale.factor, y := p.y * scale.factor }

def rect (scale : Scale) (r : Rect Float) : Rect Float :=
  { x := r.x * scale.factor
    y := r.y * scale.factor
    width := r.width * scale.factor
    height := r.height * scale.factor }

def cell (scale : Scale) (c : Cell) : Point Float :=
  scale.point { x := Coord.ofInt c.x + 0.5, y := Coord.ofInt c.y + 0.5 }

def roomStroke (scale : Scale) : Float := Coord.greater (scale.factor / 8) 0.5
def labelSize (scale : Scale) : Float := Coord.greater (scale.factor * 2) 8
def doorRadius (scale : Scale) : Float := Coord.greater (scale.factor / 3) 1

end Scale

def connectorMarks (scale : Scale) (theme : Theme) (connector : Connector Float) : List Mark :=
  let color := if connector.forced then theme.forced else theme.corridor
  match connector.geometry with
  | .segments rects => rects.map fun rect => .area (scale.rect rect) color
  | .path cells => [.line (cells.map scale.cell) color scale.factor]
  | .doorway => []

def roomMarks (scale : Scale) (theme : Theme) (room : Room Float) : List Mark :=
  [.box (scale.rect room.rect) theme.roomFill theme.roomStroke scale.roomStroke,
    .label (scale.point room.center) theme.label scale.labelSize (toString room.id.index)]

def doorMarks (scale : Scale) (theme : Theme) (room : Room Float) : List Mark :=
  room.doors.map fun door => .disc (scale.point door.anchor) scale.doorRadius theme.door

def marks (scale : Scale) (theme : Theme) (layout : Layout Float) : List Mark :=
  let rooms := layout.rooms.toList
  .area (scale.rect layout.bounds) theme.background
    :: (layout.connectors.flatMap (connectorMarks scale theme)
      ++ rooms.flatMap (roomMarks scale theme)
      ++ rooms.flatMap (doorMarks scale theme))

def opening (bounds : Rect Float) : String :=
  let region := [bounds.x, bounds.y, bounds.width, bounds.height]
  "<svg" ++ attr "xmlns" "http://www.w3.org/2000/svg" ++ number "width" bounds.width
    ++ number "height" bounds.height
    ++ attr "viewBox" (String.intercalate " " (region.map compactText)) ++ ">"

def lines (scale : Scale) (theme : Theme) (layout : Layout Float) : List String :=
  opening (scale.rect layout.bounds) :: ((marks scale theme layout).map Mark.text ++ ["</svg>"])

def document (scale : Scale) (theme : Theme) (layout : Layout Float) : String :=
  String.join ((lines scale theme layout).map (· ++ "\n"))

end Floorplan.Svg

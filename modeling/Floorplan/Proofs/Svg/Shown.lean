import Mathlib.Data.List.Basic
import Mathlib.Data.List.Forall2
import Floorplan.Proofs.Generate.DoorTotals
import Floorplan.Proofs.Svg.Marks

set_option autoImplicit false

namespace Floorplan.Svg

open Floorplan.Random (Rng)
open Number (compactText)

section Showing

def Element.Fills (element : Element) (rect : Rect Float) (fill : String) : Prop :=
  element.name = "rect" ∧ element.content = none
    ∧ element.attributes.lookup "x" = some (compactText rect.x)
    ∧ element.attributes.lookup "y" = some (compactText rect.y)
    ∧ element.attributes.lookup "width" = some (compactText rect.width)
    ∧ element.attributes.lookup "height" = some (compactText rect.height)
    ∧ element.attributes.lookup "fill" = some fill

def Element.Follows (element : Element) (points : List (Point Float)) (stroke : String) : Prop :=
  element.name = "polyline" ∧ element.content = none ∧ element.points = points.map pointText
    ∧ element.attributes.lookup "fill" = some "none" ∧ element.attributes.lookup "stroke" = some stroke

def Element.Writes (element : Element) (text : String) (center : Point Float) : Prop :=
  element.name = "text" ∧ element.content = some text
    ∧ element.attributes.lookup "x" = some (compactText center.x)
    ∧ element.attributes.lookup "y" = some (compactText center.y)

def Element.Dots (element : Element) (center : Point Float) (fill : String) : Prop :=
  element.name = "circle" ∧ element.content = none
    ∧ element.attributes.lookup "cx" = some (compactText center.x)
    ∧ element.attributes.lookup "cy" = some (compactText center.y)
    ∧ element.attributes.lookup "fill" = some fill

variable (scale : Scale)

def ShowsConnector (connector : Connector Float) (elements : List Element) : Prop :=
  ∃ color, (color = Theme.standard.forced ↔ connector.forced = true)
    ∧ (color = Theme.standard.corridor ↔ connector.forced = false)
    ∧ match connector.geometry with
      | .segments rects => List.Forall₂ (fun rect element => element.Fills (scale.rect rect) color) rects elements
      | .path cells => ∃ line, elements = [line] ∧ line.Follows (cells.map scale.cell) color
      | .doorway => elements = []

def ShowsRoom (room : Room Float) (elements : List Element) : Prop :=
  ∃ box label, elements = [box, label] ∧ box.Fills (scale.rect room.rect) Theme.standard.roomFill
    ∧ label.Writes (toString room.id.index) (scale.point room.center)

def ShowsDoors (room : Room Float) (elements : List Element) : Prop :=
  List.Forall₂ (fun door element => element.Dots (scale.point door.anchor) Theme.standard.door) room.doors elements

-- In the order of painting, so that what comes later lies on top.
structure Drawing.Shows (layout : Layout Float) (drawing : Drawing) : Prop where
  root : drawing.root = rootAttributes (scale.rect layout.bounds)
  painted : ∃ background connectors rooms doors,
    drawing.elements = background :: (connectors.flatten ++ (rooms.flatten ++ doors.flatten))
      ∧ background.Fills (scale.rect layout.bounds) Theme.standard.background
      ∧ List.Forall₂ (ShowsConnector scale) layout.connectors connectors
      ∧ List.Forall₂ (ShowsRoom scale) layout.rooms.toList rooms
      ∧ List.Forall₂ (ShowsDoors scale) layout.rooms.toList doors

end Showing

section Marks

theorem area_fills (rect : Rect Float) (fill : String) : (Mark.area rect fill).element.Fills rect fill :=
  ⟨rfl, rfl, rfl, rfl, rfl, rfl, rfl⟩

theorem box_fills (rect : Rect Float) (fill stroke : String) (width : Float) :
    (Mark.box rect fill stroke width).element.Fills rect fill :=
  ⟨rfl, rfl, rfl, rfl, rfl, rfl, rfl⟩

theorem line_follows (points : List (Point Float)) (stroke : String) (width : Float) :
    (Mark.line points stroke width).element.Follows points stroke := by
  refine ⟨rfl, rfl, ?_, rfl, rfl⟩
  rw [← points_split]
  exact List.append_nil _

theorem label_writes (center : Point Float) (fill : String) (size : Float) (text : String) :
    (Mark.label center fill size text).element.Writes text center :=
  ⟨rfl, rfl, rfl, rfl⟩

theorem disc_dots (center : Point Float) (radius : Float) (fill : String) :
    (Mark.disc center radius fill).element.Dots center fill :=
  ⟨rfl, rfl, rfl, rfl, rfl⟩

variable (scale : Scale)

theorem connector_shown (connector : Connector Float) :
    ShowsConnector scale connector ((connectorMarks scale .standard connector).map Mark.element) := by
  refine ⟨if connector.forced then Theme.standard.forced else Theme.standard.corridor, ?_, ?_, ?_⟩
  · cases connector.forced <;> decide
  · cases connector.forced <;> decide
  · rw [connectorMarks]
    cases connector.geometry with
    | segments rects =>
        rw [List.map_map]
        apply List.forall₂_map_right_iff.mpr
        exact List.forall₂_same.mpr fun rect _ => area_fills _ _
    | path cells => exact ⟨_, rfl, line_follows _ _ _⟩
    | doorway => rfl

theorem room_shown (room : Room Float) :
    ShowsRoom scale room ((roomMarks scale .standard room).map Mark.element) :=
  ⟨_, _, rfl, box_fills _ _ _ _, label_writes _ _ _ _⟩

theorem doors_shown (room : Room Float) :
    ShowsDoors scale room ((doorMarks scale .standard room).map Mark.element) := by
  rw [ShowsDoors, doorMarks, List.map_map]
  apply List.forall₂_map_right_iff.mpr
  exact List.forall₂_same.mpr fun door _ => disc_dots _ _ _

theorem standard_plain : ∀ color ∈ Theme.standard.colors, Plain color := by
  have all : ∀ color ∈ Theme.standard.colors, color.toList.all isPlain = true := by decide
  exact fun color listed => plain_of_all color (all color listed)

theorem drawn_shows (layout : Layout Float) : (drawn scale .standard layout).Shows scale layout where
  root := rfl
  painted := by
    refine ⟨_, layout.connectors.map fun connector => (connectorMarks scale .standard connector).map Mark.element,
      layout.rooms.toList.map fun room => (roomMarks scale .standard room).map Mark.element,
      layout.rooms.toList.map fun room => (doorMarks scale .standard room).map Mark.element,
      ?_, area_fills (scale.rect layout.bounds) Theme.standard.background, ?_, ?_, ?_⟩
    · rw [drawn, marks, List.map_cons, List.map_append, List.map_append, List.append_assoc, List.map_flatMap,
        List.map_flatMap, List.map_flatMap]
      rfl
    all_goals apply List.forall₂_map_right_iff.mpr
    · exact List.forall₂_same.mpr fun connector _ => connector_shown scale connector
    · exact List.forall₂_same.mpr fun room _ => room_shown scale room
    · exact List.forall₂_same.mpr fun room _ => doors_shown scale room

end Marks

section Counts

def Drawing.count (drawing : Drawing) (name : String) : Nat := drawing.elements.countP (·.name == name)

def segmentCount (connector : Connector Float) : Nat :=
  match connector.geometry with
  | .segments rects => rects.length
  | .path _ | .doorway => 0

def isPath (connector : Connector Float) : Bool :=
  match connector.geometry with
  | .path _ => true
  | .segments _ | .doorway => false

variable {β : Type} {items : List β}

theorem count_alike {shows : β → Element → Prop} {kind : String}
    (named : ∀ b element, shows b element → element.name = kind) {elements : List Element}
    (all : List.Forall₂ shows items elements) (name : String) :
    elements.countP (·.name == name) = if kind = name then items.length else 0 := by
  induction all with
  | nil => simp
  | cons shown _ ih =>
      rw [List.countP_cons, ih, named _ _ shown, List.length_cons]
      by_cases same : kind = name <;> simp [same]

theorem count_flatten {shows : β → List Element → Prop} {name : String} {count : β → Nat}
    (each : ∀ b elements, shows b elements → elements.countP (·.name == name) = count b)
    {lists : List (List Element)} (all : List.Forall₂ shows items lists) :
    lists.flatten.countP (·.name == name) = (items.map count).sum := by
  induction all with
  | nil => rfl
  | cons shown _ ih => rw [List.flatten_cons, List.countP_append, each _ _ shown, ih, List.map_cons, List.sum_cons]

variable {scale : Scale}

theorem connector_count (name : String) (connector : Connector Float) (elements : List Element)
    (shown : ShowsConnector scale connector elements) :
    elements.countP (·.name == name) = (if "rect" = name then segmentCount connector else 0)
      + if "polyline" = name ∧ isPath connector then 1 else 0 := by
  obtain ⟨color, _, _, shown⟩ := shown
  rw [segmentCount, isPath]
  cases drawn : connector.geometry with
  | segments rects =>
      simp only [drawn] at shown
      simpa using count_alike (fun _ _ fills => fills.1) shown name
  | path cells =>
      simp only [drawn] at shown
      obtain ⟨line, rfl, follows⟩ := shown
      simp [List.countP_cons, follows.1]
  | doorway =>
      simp only [drawn] at shown
      simp [shown]

theorem room_count (name : String) (room : Room Float) (elements : List Element)
    (shown : ShowsRoom scale room elements) :
    elements.countP (·.name == name) = (if "rect" = name then 1 else 0) + if "text" = name then 1 else 0 := by
  obtain ⟨box, label, rfl, fills, writes⟩ := shown
  simp [List.countP_cons, fills.1, writes.1, Nat.add_comm]

theorem door_count (name : String) (room : Room Float) (elements : List Element)
    (shown : ShowsDoors scale room elements) :
    elements.countP (·.name == name) = if "circle" = name then room.doors.length else 0 :=
  count_alike (fun _ _ dots => dots.1) shown name

theorem paths_counted (connectors : List (Connector Float)) :
    (connectors.map fun connector => if isPath connector = true then 1 else 0).sum = connectors.countP isPath := by
  induction connectors with
  | nil => rfl
  | cons connector rest ih => rw [List.map_cons, List.sum_cons, ih, List.countP_cons, Nat.add_comm]

theorem shows_count {layout : Layout Float} {drawing : Drawing} (shows : drawing.Shows scale layout) (name : String) :
    drawing.count name = (if "rect" = name then 1 else 0)
      + ((layout.connectors.map fun connector =>
          (if "rect" = name then segmentCount connector else 0)
            + if "polyline" = name ∧ isPath connector then 1 else 0).sum
        + ((layout.rooms.toList.map fun _ => (if "rect" = name then 1 else 0) + if "text" = name then 1 else 0).sum
          + (layout.rooms.toList.map fun room => if "circle" = name then room.doors.length else 0).sum)) := by
  obtain ⟨background, connectors, rooms, doors, painted, fills, first, second, third⟩ := shows.painted
  rw [Drawing.count, painted, List.countP_cons, List.countP_append, List.countP_append, fills.1,
    count_flatten (connector_count name) first, count_flatten (room_count name) second,
    count_flatten (door_count name) third, Nat.add_comm]
  simp

end Counts

-- The document is the only text that reads as its drawing, which is what the layout has to show and
-- nothing else.
theorem layouts_shown_whole (scale : Scale) (layout : Layout Float) :
    ∃ drawing, (∀ text, drawing? text = some drawing ↔ text = document scale .standard layout)
      ∧ drawing.Shows scale layout
      ∧ drawing.count "rect" = 1 + (layout.connectors.map segmentCount).sum + layout.rooms.size
      ∧ drawing.count "text" = layout.rooms.size
      ∧ drawing.count "polyline" = layout.connectors.countP isPath
      ∧ drawing.count "circle" = layout.doorCount
      ∧ ∀ (config : Config Float) (seed : UInt64), generate config seed = .ok layout →
        layout.Accounted ∧ drawing.count "circle" = 2 * layout.connectors.length := by
  have shows := drawn_shows scale layout
  have circles : (drawn scale .standard layout).count "circle" = layout.doorCount := by
    simp [shows_count shows, Layout.doorCount]
  refine ⟨_, document_iff scale .standard layout standard_plain, shows, ?_, ?_, ?_, circles, ?_⟩
  · simp [shows_count shows, Nat.add_assoc]
  · simp [shows_count shows]
  · simp [shows_count shows, paths_counted]
  · intro config seed generated
    have accounted := generated_accounted config seed layout generated
    exact ⟨accounted, circles.trans accounted.door_count⟩

def duplex : Config Float :=
  { width := 6, height := 3, roomCount := 2, roomSizes := [(3, 3)], roomPadding := 0, touchingFraction := 0,
    corridorThickness := 1, crossing := .forbid, strategy := .direct, metric := .manhattan,
    extraEdgeFraction := 0, unroutable := .restart, budgets := { placement := 2, perEdge := 1, pipeline := 1 },
    indexCellSize := 3 }

def duplexRects (k : Nat) : Rect Float := ⟨Coord.ofInt (3 * k), 0, 3, 3⟩

def duplexFilled : Placement Float := Placement.taken (.new duplex.indexCellSize) duplexRects 2

def duplexStream : Nat → Rng
  | 0 => .ofSeed 1
  | k + 1 => ((Placement.scattered (.ofConfig duplex)).run (duplexStream k)).2

theorem duplex_placed : (placeRooms (.ofConfig duplex) (.new duplex.indexCellSize)).run (.ofSeed 1) =
    ((.ok duplexFilled.rooms, duplexFilled.index), duplexStream 2) := by
  have drawn : ∀ k < 2, ((Placement.scattered (.ofConfig duplex)).run (duplexStream k)).1 = some (duplexRects k) := by
    decide +kernel
  have inside : ∀ k < 2, (PlacementRequest.ofConfig duplex).bounds.containsRect (duplexRects k) = true := by
    decide +kernel
  have apart : ∀ k < 2, ∀ j < k, (duplexRects j).overlaps (duplexRects k) = false := by decide +kernel
  exact Placement.place_rooms_taken _ duplexRects (.ofConfig duplex) duplexStream 2 (by decide +kernel) rfl rfl rfl rfl
    rfl (fun k fits => Prod.ext (drawn k fits) rfl) inside apart

theorem duplex_generated :
    ∃ layout, generate duplex 1 = .ok layout ∧ layout.rooms.toList.map (·.doors.length) = [1, 1]
      ∧ layout.connectors.map segmentCount = [0] := by
  have routed : ((routeByKind duplex duplexFilled.rooms duplexFilled.index
      ((buildEdges duplexFilled.rooms duplex.metric duplex.extraEdgeFraction).run (duplexStream 2)).1).run
      ((buildEdges duplexFilled.rooms duplex.metric duplex.extraEdgeFraction).run
        (duplexStream 2)).2).1.toOption.map
          (fun answer => (answer.1.toList.map (·.doors.length), answer.2.map segmentCount)) = some ([1, 1], [0]) := by
    decide +kernel
  obtain ⟨answer, finished, same⟩ := Option.map_eq_some_iff.mp routed
  obtain ⟨doors, segments⟩ := Prod.mk.inj same
  have made := attempt_made duplex 1 1 _ _ _ answer.1 _ answer.2 duplex_placed (ok_of_to_option finished)
  exact ⟨_, first_attempt_generated duplex 1 _ (by decide +kernel) (by decide) made, doors, segments⟩

theorem duplex_shown :
    ∃ layout drawing, generate duplex 1 = .ok layout ∧ layout.connectors.length = 1
      ∧ drawing? (document { factor := 10 } .standard layout) = some drawing
      ∧ drawing.count "rect" = 3 ∧ drawing.count "text" = 2 ∧ drawing.count "circle" = 2 := by
  obtain ⟨layout, generated, doors, segments⟩ := duplex_generated
  have rooms : layout.rooms.size = 2 := by simpa using congrArg List.length doors
  have connectors : layout.connectors.length = 1 := by simpa using congrArg List.length segments
  obtain ⟨drawing, read, _, rects, texts, _, _, finished⟩ := layouts_shown_whole { factor := 10 } layout
  obtain ⟨_, circles⟩ := finished duplex 1 generated
  refine ⟨layout, drawing, generated, connectors, (read _).mpr rfl, ?_, texts.trans rooms, ?_⟩
  · rw [rects, segments, rooms]
    rfl
  · rw [circles, connectors]

end Floorplan.Svg

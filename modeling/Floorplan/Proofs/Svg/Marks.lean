import Mathlib.Data.List.Basic
import Floorplan.Proofs.Svg.Markup

set_option autoImplicit false

namespace Floorplan.Svg

open Number (compact compactText dropLast fixedText thousandthsText)
open Text (splitOn)

section Figures

def isFigure (c : Char) : Bool := c.isAlphanum || c == '-' || c == '.'

theorem figure_plain (c : Char) (figure : isFigure c = true) : isPlain c = true :=
  plain_of_class isFigure rfl c figure

theorem digit_figure (c : Char) (digit : c.isDigit = true) : isFigure c = true := by
  simp [isFigure, Char.isAlphanum, digit]

theorem digit_char_figure (n : Nat) (small : n < 10) : isFigure (Nat.digitChar n) = true := by
  revert n
  decide

theorem thousandths_figures (n : Nat) : ∀ c ∈ thousandthsText n, isFigure c = true := by
  intro c inside
  simp only [thousandthsText, List.mem_append, List.mem_cons, List.not_mem_nil, or_false] at inside
  rcases inside with inside | rfl | rfl | rfl | rfl
  · exact digit_figure c (Nat.isDigit_of_mem_toDigits (by decide) (by decide) inside)
  · rfl
  · exact digit_char_figure _ (by omega)
  · exact digit_char_figure _ (by omega)
  · exact digit_char_figure _ (by omega)

theorem fixed_figures (x : Float) : ∀ c ∈ fixedText x, isFigure c = true := by
  rw [fixedText]
  split
  · exact List.all_eq_true.mp rfl
  · split <;> exact List.all_eq_true.mp rfl
  · next mantissa exponent shown =>
    have digits := thousandths_figures (Number.thousandths mantissa exponent)
    split
    · exact List.forall_mem_cons.mpr ⟨rfl, digits⟩
    · exact digits

theorem drop_last_subset (c : Char) (text : List Char) : dropLast c text ⊆ text := by
  intro d inside
  exact List.mem_reverse.mp (List.dropWhile_subset _ (List.mem_reverse.mp inside))

theorem compact_figures (text : List Char) (figures : ∀ c ∈ text, isFigure c = true) :
    ∀ c ∈ compact text, isFigure c = true := by
  rw [compact]
  split
  · exact List.all_eq_true.mp rfl
  · exact fun c inside => figures c (drop_last_subset _ _ (drop_last_subset _ _ inside))

theorem compact_text_figures (x : Float) : ∀ c ∈ (compactText x).toList, isFigure c = true := by
  rw [compactText, String.toList_ofList]
  exact compact_figures _ (fixed_figures x)

theorem compact_text_plain (x : Float) : Plain (compactText x) :=
  fun c inside => figure_plain c (compact_text_figures x c inside)

theorem count_plain (n : Nat) : Plain (toString n) := by
  intro c inside
  have digits : (toString n).toList = Nat.toDigits 10 n := Nat.toList_repr
  rw [digits] at inside
  exact figure_plain c (digit_figure c (Nat.isDigit_of_mem_toDigits (by decide) (by decide) inside))

end Figures

section Points

def pointsText (points : List (Point Float)) : String := String.intercalate " " (points.map pointText)

def Element.points (element : Element) : List String :=
  let lists := element.attributes.filter (·.1 == "points")
  lists.flatMap fun a => ((splitOn ' ' a.2.toList).filter (· ≠ [])).map String.ofList

theorem point_chars (p : Point Float) (c : Char) (inside : c ∈ (pointText p).toList) :
    isFigure c = true ∨ c = ',' := by
  simp only [pointText, String.toList_append, List.mem_append] at inside
  rcases inside with (inside | inside) | inside
  · exact .inl (compact_text_figures p.x c inside)
  · exact .inr (List.mem_singleton.mp inside)
  · exact .inl (compact_text_figures p.y c inside)

theorem points_list (points : List (Point Float)) :
    (pointsText points).toList = [' '].intercalate (points.map fun p => (pointText p).toList) := by
  rw [pointsText, String.toList_intercalate, List.map_map]
  rfl

theorem points_split (points : List (Point Float)) :
    ((splitOn ' ' (pointsText points).toList).filter (· ≠ [])).map String.ofList = points.map pointText := by
  cases points with
  | nil => rfl
  | cons p rest =>
      have cut : Text.Cut ' ' (pointsText (p :: rest)).toList ((p :: rest).map fun p => (pointText p).toList) := by
        refine ⟨List.cons_ne_nil _ _, ?_, points_list _⟩
        intro part listed inside
        obtain ⟨q, _, rfl⟩ := List.mem_map.mp listed
        have chars := point_chars q ' ' inside
        revert chars
        decide
      have some : ∀ part ∈ (p :: rest).map fun p => (pointText p).toList, decide (part ≠ []) = true := by
        intro part listed
        obtain ⟨q, _, rfl⟩ := List.mem_map.mp listed
        simp [pointText]
      rw [← cut.eq_split_on, List.filter_eq_self.mpr some, List.map_map]
      exact List.map_congr_left fun q _ => String.ofList_toList

theorem spaced_plain (words : List String) (plain : ∀ word ∈ words, Plain word) :
    Plain (String.intercalate " " words) := by
  intro c inside
  rw [String.toList_intercalate] at inside
  obtain rfl | ⟨part, listed, within⟩ := Text.mem_joined ' ' c _ inside
  · rfl
  · obtain ⟨word, given, rfl⟩ := List.mem_map.mp listed
    exact plain word given c within

theorem points_plain (points : List (Point Float)) : Plain (pointsText points) := by
  apply spaced_plain
  rintro word listed c inside
  obtain ⟨p, _, rfl⟩ := List.mem_map.mp listed
  obtain figure | rfl := point_chars p c inside
  · exact figure_plain c figure
  · rfl

end Points

section Elements

def place (r : Rect Float) : List (String × String) :=
  [("x", compactText r.x), ("y", compactText r.y), ("width", compactText r.width), ("height", compactText r.height)]

def Mark.element : Mark → Element
  | .area rect fill => { name := "rect", attributes := place rect ++ [("fill", fill)], content := none }
  | .box rect fill stroke width =>
    { name := "rect"
      attributes := place rect ++ [("fill", fill), ("stroke", stroke), ("stroke-width", compactText width)]
      content := none }
  | .line points stroke width =>
    { name := "polyline"
      attributes :=
        [("points", pointsText points), ("fill", "none"), ("stroke", stroke), ("stroke-width", compactText width),
          ("stroke-linejoin", "round")]
      content := none }
  | .label center fill size text =>
    { name := "text"
      attributes :=
        [("x", compactText center.x), ("y", compactText center.y), ("fill", fill), ("font-family", "monospace"),
          ("font-size", compactText size), ("text-anchor", "middle"), ("dominant-baseline", "middle")]
      content := some text }
  | .disc center radius fill =>
    { name := "circle"
      attributes :=
        [("cx", compactText center.x), ("cy", compactText center.y), ("r", compactText radius), ("fill", fill)]
      content := none }

def Mark.Clean : Mark → Prop
  | .area _ fill => Plain fill
  | .box _ fill stroke _ => Plain fill ∧ Plain stroke
  | .line _ stroke _ => Plain stroke
  | .label _ fill _ text => Plain fill ∧ Plain text
  | .disc _ _ fill => Plain fill

theorem mark_text (mark : Mark) : mark.text = mark.element.text := by
  -- the equations of the text are slow to state
  delta Mark.text
  cases mark <;>
    simp [Mark.element, Element.text, Element.ending, attributesText, rectAttributes, place, number, pointsText,
      String.append_assoc, String.join_cons]

def names : List String :=
  ["rect", "polyline", "text", "circle", "x", "y", "width", "height", "cx", "cy", "r", "points", "fill", "stroke",
    "stroke-width", "stroke-linejoin", "font-family", "font-size", "text-anchor", "dominant-baseline", "xmlns",
    "viewBox"]

theorem names_named : ∀ name ∈ names, Named name := by
  have all : ∀ name ∈ names, name ≠ "" ∧ name.toList.all isNameChar = true := by decide
  exact fun name listed => ⟨(all name listed).1, List.all_eq_true.mp (all name listed).2⟩

theorem mark_named (mark : Mark) : ∀ a ∈ mark.element.attributes, Named a.1 := by
  have listed : ∀ a ∈ mark.element.attributes, a.1 ∈ names := by
    cases mark <;> simp [Mark.element, place, names]
  exact fun a inside => names_named a.1 (listed a inside)

theorem mark_plain (mark : Mark) (clean : mark.Clean) : ∀ a ∈ mark.element.attributes, Plain a.2 := by
  have all : ∀ word ∈ ["none", "round", "monospace", "middle"], word.toList.all isPlain = true := by decide
  have words : ∀ word ∈ ["none", "round", "monospace", "middle"], Plain word :=
    fun word listed => plain_of_all word (all word listed)
  cases mark with
  | area rect fill => simpa [Mark.element, Mark.Clean, place, compact_text_plain] using clean
  | box rect fill stroke width => simpa [Mark.element, Mark.Clean, place, compact_text_plain] using clean
  | line points stroke width =>
      have clean : Plain stroke := clean
      simp [Mark.element, compact_text_plain, points_plain, words, clean]
  | label center fill size text =>
      have clean : Plain fill := clean.1
      simp [Mark.element, compact_text_plain, words, clean]
  | disc center radius fill => simpa [Mark.element, Mark.Clean, compact_text_plain] using clean

theorem mark_proper (mark : Mark) (clean : mark.Clean) : mark.element.Proper where
  named := names_named _ (by cases mark <;> simp [Mark.element, names])
  given := by cases mark <;> exact List.cons_ne_nil _ _
  attributes := fun a inside => ⟨mark_named mark a inside, mark_plain mark clean a inside⟩
  content := by
    cases mark with
    | label center fill size text =>
        rintro content ⟨⟩
        exact clean.2
    | _ => nofun

end Elements

section Documents

def Theme.colors (theme : Theme) : List String :=
  [theme.background, theme.roomFill, theme.roomStroke, theme.corridor, theme.forced, theme.door, theme.label]

def rootAttributes (bounds : Rect Float) : List (String × String) :=
  let region := [bounds.x, bounds.y, bounds.width, bounds.height]
  [("xmlns", "http://www.w3.org/2000/svg"), ("width", compactText bounds.width),
    ("height", compactText bounds.height), ("viewBox", String.intercalate " " (region.map compactText))]

theorem root_proper (bounds : Rect Float) : ∀ a ∈ rootAttributes bounds, Named a.1 ∧ Plain a.2 := by
  have listed : ∀ a ∈ rootAttributes bounds, a.1 ∈ names := by simp [rootAttributes, names]
  have address : Plain "http://www.w3.org/2000/svg" := plain_of_all _ rfl
  have region : ∀ word ∈ [bounds.x, bounds.y, bounds.width, bounds.height].map compactText, Plain word := by
    simp [compact_text_plain]
  have plain : ∀ a ∈ rootAttributes bounds, Plain a.2 := by
    simpa [rootAttributes, address, compact_text_plain] using spaced_plain _ region
  exact fun a inside => ⟨names_named a.1 (listed a inside), plain a inside⟩

theorem opening_text (bounds : Rect Float) : opening bounds = rootText (rootAttributes bounds) := by
  simp [opening, rootText, rootAttributes, attributesText, number, String.append_assoc, String.join_cons]

theorem marks_clean (scale : Scale) (theme : Theme) (layout : Layout Float)
    (plain : ∀ color ∈ theme.colors, Plain color) : ∀ mark ∈ marks scale theme layout, mark.Clean := by
  simp only [Theme.colors, List.forall_mem_cons] at plain
  obtain ⟨background, roomFill, roomStroke, corridor, forced, door, label, _⟩ := plain
  have connectors : ∀ connector : Connector Float, ∀ mark ∈ connectorMarks scale theme connector, mark.Clean := by
    intro connector mark inside
    have color : Plain (if connector.forced = true then theme.forced else theme.corridor) := by
      split
      · exact forced
      · exact corridor
    rw [connectorMarks] at inside
    split at inside
    · obtain ⟨rect, _, rfl⟩ := List.mem_map.mp inside
      exact color
    · obtain rfl := List.mem_singleton.mp inside
      exact color
    · cases inside
  have rooms : ∀ room : Room Float, ∀ mark ∈ roomMarks scale theme room, mark.Clean := by
    intro room
    rw [roomMarks, List.forall_mem_cons, List.forall_mem_singleton]
    exact ⟨⟨roomFill, roomStroke⟩, label, count_plain room.id.index⟩
  have doors : ∀ room : Room Float, ∀ mark ∈ doorMarks scale theme room, mark.Clean := by
    intro room mark inside
    obtain ⟨_, _, rfl⟩ := List.mem_map.mp inside
    exact door
  intro mark inside
  simp only [marks, List.mem_cons, List.mem_append, List.mem_flatMap] at inside
  rcases inside with rfl | (⟨connector, _, drawn⟩ | ⟨room, _, drawn⟩) | ⟨room, _, drawn⟩
  · exact background
  · exact connectors connector mark drawn
  · exact rooms room mark drawn
  · exact doors room mark drawn

def drawn (scale : Scale) (theme : Theme) (layout : Layout Float) : Drawing :=
  { root := rootAttributes (scale.rect layout.bounds)
    elements := (marks scale theme layout).map Mark.element }

theorem drawn_lines (scale : Scale) (theme : Theme) (layout : Layout Float) :
    lines scale theme layout = (drawn scale theme layout).lines := by
  have texts : (marks scale theme layout).map Mark.text =
      ((marks scale theme layout).map Mark.element).map Element.text := by
    rw [List.map_map]
    exact List.map_congr_left fun mark _ => mark_text mark
  rw [lines, opening_text, texts, Drawing.lines, drawn]

theorem drawn_proper (scale : Scale) (theme : Theme) (layout : Layout Float)
    (plain : ∀ color ∈ theme.colors, Plain color) : (drawn scale theme layout).Proper where
  given := List.cons_ne_nil _ _
  root := root_proper _
  elements := by
    intro element inside
    obtain ⟨mark, listed, rfl⟩ := List.mem_map.mp inside
    exact mark_proper mark (marks_clean scale theme layout plain mark listed)

theorem document_iff (scale : Scale) (theme : Theme) (layout : Layout Float)
    (plain : ∀ color ∈ theme.colors, Plain color) (text : String) :
    drawing? text = some (drawn scale theme layout) ↔ text = document scale theme layout := by
  rw [document, drawn_lines]
  exact drawing_iff _ (drawn_proper scale theme layout plain) text

end Documents

end Floorplan.Svg

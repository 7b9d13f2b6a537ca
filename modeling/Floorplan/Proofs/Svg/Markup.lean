import Mathlib.Data.List.Basic
import Floorplan.Proofs.Text.Parts
import Floorplan.Svg

set_option autoImplicit false

namespace Floorplan.Svg

open Text (splitOn split_on_part split_on_plain)

structure Element where
  name : String
  attributes : List (String × String)
  -- what stands between the tags of an element that does not close itself
  content : Option String
deriving DecidableEq

structure Drawing where
  root : List (String × String)
  elements : List Element
deriving DecidableEq

def isNameChar (c : Char) : Bool := c.isAlpha || c == '-'

def isPlain (c : Char) : Bool := c != '"' && c != '<' && c != '>' && c != '&' && c != '\n'

section Reading

def label? : List Char → Option String
  | ' ' :: rest =>
    let name := rest.takeWhile isNameChar
    if name ≠ [] ∧ rest.dropWhile isNameChar = ['='] then some (.ofList name) else none
  | _ => none

def attributes? : List (List Char) → Option (List (String × String) × List Char)
  | [] => none
  | [ending] => some ([], ending)
  | label :: value :: rest => do
    let name ← label? label
    let (others, ending) ← attributes? rest
    if value.all isPlain then some ((name, .ofList value) :: others, ending) else none

def tag? : List Char → Option (String × List (String × String) × List Char)
  | '<' :: rest => do
    let name := rest.takeWhile isNameChar
    let (attributes, ending) ← attributes? (splitOn '"' (rest.dropWhile isNameChar))
    if name = [] then none else some (.ofList name, attributes, ending)
  | _ => none

def content? (name : String) : List Char → Option (Option String)
  | ['/', '>'] => some none
  | '>' :: rest =>
    let closing := "</" ++ name ++ ">"
    if rest.dropWhile isPlain = closing.toList then some (some (.ofList (rest.takeWhile isPlain))) else none
  | _ => none

def element? : List Char → Option Element
  | ' ' :: ' ' :: line => do
    let (name, attributes, ending) ← tag? line
    let content ← content? name ending
    some { name, attributes, content }
  | _ => none

def root? (line : List Char) : Option (List (String × String)) := do
  let (name, attributes, ending) ← tag? line
  if name = "svg" ∧ ending = ['>'] then some attributes else none

def elements? : List (List Char) → Option (List Element)
  | [] => none
  | [closing, []] => if closing = "</svg>".toList then some [] else none
  | line :: rest => do
    let element ← element? line
    let others ← elements? rest
    some (element :: others)

def drawing? (text : String) : Option Drawing :=
  match splitOn '\n' text.toList with
  | [] => none
  | first :: rest => do
    let root ← root? first
    let elements ← elements? rest
    some { root, elements }

end Reading

section Writing

def attributesText (attributes : List (String × String)) : String := .join (attributes.map fun a => attr a.1 a.2)

def Element.ending (element : Element) : String :=
  match element.content with
  | none => "/>"
  | some content => ">" ++ content ++ "</" ++ element.name ++ ">"

def Element.text (element : Element) : String :=
  "  <" ++ element.name ++ attributesText element.attributes ++ element.ending

def rootText (attributes : List (String × String)) : String := "<svg" ++ attributesText attributes ++ ">"

def Drawing.lines (drawing : Drawing) : List String :=
  rootText drawing.root :: (drawing.elements.map Element.text ++ ["</svg>"])

def Drawing.text (drawing : Drawing) : String := String.join (drawing.lines.map (· ++ "\n"))

def Named (name : String) : Prop := name ≠ "" ∧ ∀ c ∈ name.toList, isNameChar c = true

def Plain (text : String) : Prop := ∀ c ∈ text.toList, isPlain c = true

structure Element.Proper (element : Element) : Prop where
  named : Named element.name
  given : element.attributes ≠ []
  attributes : ∀ a ∈ element.attributes, Named a.1 ∧ Plain a.2
  content : ∀ content ∈ element.content, Plain content

structure Drawing.Proper (drawing : Drawing) : Prop where
  given : drawing.root ≠ []
  root : ∀ a ∈ drawing.root, Named a.1 ∧ Plain a.2
  elements : ∀ element ∈ drawing.elements, element.Proper

end Writing

theorem attr_list (name value : String) :
    (attr name value).toList = ' ' :: (name.toList ++ '=' :: '"' :: (value.toList ++ ['"'])) := by
  simp [attr, toString]

theorem plain_of_class (p : Char → Bool) (outside : ['"', '<', '>', '&', '\n'].all (fun d => !p d) = true) (c : Char)
    (inside : p c = true) : isPlain c = true := by
  have apart : ∀ d ∈ ['"', '<', '>', '&', '\n'], c ≠ d := by
    rintro d listed rfl
    have missed := List.all_eq_true.mp outside c listed
    rw [inside] at missed
    cases missed
  simp only [List.forall_mem_cons] at apart
  obtain ⟨quote, less, greater, ampersand, newLine, _⟩ := apart
  simp [isPlain, quote, less, greater, ampersand, newLine]

theorem name_char_plain (c : Char) (inName : isNameChar c = true) : isPlain c = true :=
  plain_of_class isNameChar rfl c inName

theorem plain_of_all (text : String) (all : text.toList.all isPlain = true) : Plain text := List.all_eq_true.mp all

theorem Named.plain {name : String} (named : Named name) : Plain name :=
  fun c inside => name_char_plain c (named.2 c inside)

theorem Plain.without {text : String} (plain : Plain text) (c : Char) (special : isPlain c = false) :
    c ∉ text.toList := by
  intro inside
  rw [plain c inside] at special
  cases special

theorem Named.take {name : String} (named : Named name) (rest : List Char) (c : Char) (stop : isNameChar c = false) :
    (name.toList ++ c :: rest).takeWhile isNameChar = name.toList
      ∧ (name.toList ++ c :: rest).dropWhile isNameChar = c :: rest := by
  constructor
  · rw [List.takeWhile_append_of_pos named.2, List.takeWhile_cons_of_neg (by simp [stop]), List.append_nil]
  · rw [List.dropWhile_append_of_pos named.2, List.dropWhile_cons_of_neg (by simp [stop])]

theorem label_read (name : String) (named : Named name) : label? (' ' :: (name.toList ++ ['='])) = some name := by
  obtain ⟨taken, left⟩ := named.take [] '=' rfl
  have given : name.toList ≠ [] := by simpa using named.1
  rw [label?, taken, left]
  simp [given]

theorem attributes_text_cons (name value : String) (rest : List (String × String)) (ending : List Char) :
    (attributesText ((name, value) :: rest)).toList ++ ending =
      (' ' :: (name.toList ++ ['='])) ++ '"' :: (value.toList ++ '"' :: ((attributesText rest).toList ++ ending)) := by
  rw [attributesText, List.map_cons, String.join_cons, String.toList_append, attr_list]
  simp [attributesText]

theorem attributes_read (attributes : List (String × String)) (ending : List Char)
    (proper : ∀ a ∈ attributes, Named a.1 ∧ Plain a.2) (plain : '"' ∉ ending) :
    attributes? (splitOn '"' ((attributesText attributes).toList ++ ending)) = some (attributes, ending) := by
  induction attributes with
  | nil =>
      have empty : (attributesText []).toList = [] := rfl
      rw [empty, List.nil_append, split_on_plain _ _ plain]
      rfl
  | cons a rest ih =>
      obtain ⟨name, value⟩ := a
      obtain ⟨named, clean⟩ := proper _ List.mem_cons_self
      have label : '"' ∉ ' ' :: (name.toList ++ ['=']) := by
        simpa using named.plain.without '"' rfl
      have whole : value.toList.all isPlain = true := List.all_eq_true.mpr clean
      rw [attributes_text_cons, split_on_part _ _ _ label, split_on_part _ _ _ (clean.without '"' rfl), attributes?,
        label_read name named, ih fun other listed => proper other (List.mem_cons_of_mem _ listed)]
      simp [whole]

theorem tag_read (name : String) (attributes : List (String × String)) (ending : List Char) (named : Named name)
    (given : attributes ≠ []) (proper : ∀ a ∈ attributes, Named a.1 ∧ Plain a.2) (plain : '"' ∉ ending) :
    tag? ('<' :: (name.toList ++ ((attributesText attributes).toList ++ ending))) =
      some (name, attributes, ending) := by
  have some : name.toList ≠ [] := by simpa using named.1
  have read := attributes_read attributes ending proper plain
  obtain ⟨⟨label, value⟩, rest, rfl⟩ := List.exists_cons_of_ne_nil given
  rw [attributes_text_cons, List.cons_append] at read ⊢
  obtain ⟨taken, left⟩ := named.take _ ' ' rfl
  rw [tag?, taken, left, read]
  simp [some]

theorem content_read (element : Element) (proper : element.Proper) :
    content? element.name element.ending.toList = some element.content := by
  cases shown : element.content with
  | none =>
      have written : element.ending.toList = ['/', '>'] := by simp [Element.ending, shown]
      rw [written]
      rfl
  | some content =>
      have clean : ∀ c ∈ content.toList, isPlain c = true := proper.content content shown
      have written : element.ending.toList = '>' :: (content.toList ++ ("</" ++ element.name ++ ">").toList) := by
        simp [Element.ending, shown]
      have closing : ("</" ++ element.name ++ ">").toList = '<' :: '/' :: (element.name.toList ++ ['>']) := by
        simp
      have stop : ¬ isPlain '<' = true := by decide
      rw [written, content?, List.takeWhile_append_of_pos clean, List.dropWhile_append_of_pos clean, closing,
        List.takeWhile_cons_of_neg stop, List.dropWhile_cons_of_neg stop, if_pos rfl]
      simp

theorem Element.Proper.ending_chars {element : Element} (proper : element.Proper) (c : Char)
    (inside : c ∈ element.ending.toList) : c = '<' ∨ c = '>' ∨ isPlain c = true := by
  cases shown : element.content with
  | none =>
      have written : element.ending.toList = ['/', '>'] := by simp [Element.ending, shown]
      simp only [written, List.mem_cons, List.not_mem_nil, or_false] at inside
      rcases inside with rfl | rfl
      · exact .inr (.inr rfl)
      · exact .inr (.inl rfl)
  | some content =>
      have written : element.ending.toList =
          '>' :: (content.toList ++ ('<' :: '/' :: (element.name.toList ++ ['>']))) := by
        simp [Element.ending, shown]
      simp only [written, List.mem_cons, List.mem_append, List.not_mem_nil, or_false] at inside
      rcases inside with rfl | inside | rfl | rfl | inside | rfl
      · exact .inr (.inl rfl)
      · exact .inr (.inr (proper.content content shown c inside))
      · exact .inl rfl
      · exact .inr (.inr rfl)
      · exact .inr (.inr (proper.named.plain c inside))
      · exact .inr (.inl rfl)

theorem attributes_chars (attributes : List (String × String)) (proper : ∀ a ∈ attributes, Named a.1 ∧ Plain a.2)
    (c : Char) (inside : c ∈ (attributesText attributes).toList) : c = '"' ∨ isPlain c = true := by
  induction attributes with
  | nil => cases inside
  | cons a rest ih =>
      obtain ⟨named, clean⟩ := proper a List.mem_cons_self
      have others := ih fun other listed => proper other (List.mem_cons_of_mem _ listed)
      rw [attributesText, List.map_cons, String.join_cons, String.toList_append, attr_list] at inside
      simp only [List.cons_append, List.append_assoc, List.mem_cons, List.mem_append, List.nil_append] at inside
      rcases inside with rfl | inside | rfl | rfl | inside | rfl | inside
      · exact .inr rfl
      · exact .inr (named.plain c inside)
      · exact .inr rfl
      · exact .inl rfl
      · exact .inr (clean c inside)
      · exact .inl rfl
      · exact others inside

theorem element_list (element : Element) :
    element.text.toList = ' ' :: ' ' :: '<' :: (element.name.toList
      ++ ((attributesText element.attributes).toList ++ element.ending.toList)) := by
  simp [Element.text]

theorem element_read (element : Element) (proper : element.Proper) : element? element.text.toList = some element := by
  have quoted : '"' ∉ element.ending.toList := by
    intro inside
    have := proper.ending_chars '"' inside
    revert this
    decide
  rw [element_list, element?, tag_read _ _ _ proper.named proper.given proper.attributes quoted]
  simp [content_read element proper]

theorem element_line (element : Element) (proper : element.Proper) : '\n' ∉ element.text.toList := by
  have name := proper.named.plain.without '\n' rfl
  have attributes : '\n' ∉ (attributesText element.attributes).toList := by
    intro inside
    have shown := attributes_chars element.attributes proper.attributes _ inside
    revert shown
    decide
  have ending : '\n' ∉ element.ending.toList := by
    intro inside
    have shown := proper.ending_chars _ inside
    revert shown
    decide
  rw [element_list]
  simp [name, attributes, ending]

theorem root_list (attributes : List (String × String)) :
    (rootText attributes).toList = '<' :: ("svg".toList ++ ((attributesText attributes).toList ++ ['>'])) := by
  simp [rootText]

theorem root_read (attributes : List (String × String)) (given : attributes ≠ [])
    (proper : ∀ a ∈ attributes, Named a.1 ∧ Plain a.2) :
    root? (rootText attributes).toList = some attributes := by
  have named : Named "svg" := ⟨by decide, List.all_eq_true.mp rfl⟩
  rw [root_list, root?, tag_read _ _ _ named given proper (by decide)]
  simp

theorem root_line (attributes : List (String × String)) (proper : ∀ a ∈ attributes, Named a.1 ∧ Plain a.2) :
    '\n' ∉ (rootText attributes).toList := by
  have attributes : '\n' ∉ (attributesText attributes).toList := by
    intro inside
    have shown := attributes_chars attributes proper _ inside
    revert shown
    decide
  rw [root_list]
  simp [attributes]

theorem ended_list (line : String) (rest : List String) :
    (String.join ((line :: rest).map (· ++ "\n"))).toList =
      line.toList ++ '\n' :: (String.join (rest.map (· ++ "\n"))).toList := by
  rw [List.map_cons, String.join_cons]
  simp

theorem ended_line (line : String) (rest : List String) (whole : '\n' ∉ line.toList) :
    splitOn '\n' (String.join ((line :: rest).map (· ++ "\n"))).toList =
      line.toList :: splitOn '\n' (String.join (rest.map (· ++ "\n"))).toList := by
  rw [ended_list, split_on_part _ _ _ whole]

theorem elements_read (elements : List Element) (proper : ∀ element ∈ elements, element.Proper) :
    elements? (splitOn '\n' (String.join ((elements.map Element.text ++ ["</svg>"]).map (· ++ "\n"))).toList) =
      some elements := by
  induction elements with
  | nil =>
      rw [List.map_nil, List.nil_append, ended_line _ _ (by decide)]
      rfl
  | cons element rest ih =>
      have first := proper element List.mem_cons_self
      have others := ih fun other listed => proper other (List.mem_cons_of_mem _ listed)
      rw [List.map_cons, List.cons_append, ended_line _ _ (element_line element first)]
      generalize splitOn '\n' (String.join ((rest.map Element.text ++ ["</svg>"]).map (· ++ "\n"))).toList = lines
        at others ⊢
      -- a single empty line is no closing tag
      have more : lines ≠ [[]] := by
        rintro rfl
        cases others
      rw [elements?, element_read element first, others]
      · rfl
      · exact fun closing => absurd closing more

theorem drawing_read (drawing : Drawing) (proper : drawing.Proper) :
    drawing? drawing.text = some drawing := by
  rw [drawing?, Drawing.text, Drawing.lines, ended_line _ _ (root_line drawing.root proper.root)]
  simp only [root_read drawing.root proper.given proper.root, elements_read drawing.elements proper.elements]
  rfl

theorem label_written (label : List Char) (name : String) (read : label? label = some name) :
    label = ' ' :: (name.toList ++ ['=']) := by
  rw [label?.eq_def] at read
  split at read
  next rest =>
    simp only [Option.ite_none_right_eq_some] at read
    obtain ⟨⟨_, equals⟩, same⟩ := read
    cases same
    rw [String.toList_ofList, ← equals, List.takeWhile_append_dropWhile]
  next => cases read

theorem attributes_written (pieces : List (List Char)) (attributes : List (String × String)) (ending : List Char)
    (read : attributes? pieces = some (attributes, ending)) :
    ['"'].intercalate pieces = (attributesText attributes).toList ++ ending := by
  fun_induction attributes? pieces generalizing attributes ending with
  | case1 => cases read
  | case2 =>
      cases read
      simp [attributesText]
  | case3 label value rest ih =>
      simp only [Option.bind_eq_bind, Option.bind_eq_some_iff, Option.ite_none_right_eq_some] at read
      obtain ⟨name, labelRead, ⟨others, last⟩, restRead, _, same⟩ := read
      cases same
      have whole := ih others last restRead
      cases rest with
      | nil => cases restRead
      | cons next parts =>
          rw [Text.intercalate_part, Text.intercalate_part, whole, label_written label name labelRead,
            attributes_text_cons, String.toList_ofList]

theorem tag_written (line ending : List Char) (name : String) (attributes : List (String × String))
    (read : tag? line = some (name, attributes, ending)) :
    line = '<' :: (name.toList ++ ((attributesText attributes).toList ++ ending)) := by
  rw [tag?.eq_def] at read
  split at read
  next rest =>
    simp only [Option.bind_eq_bind, Option.bind_eq_some_iff, Option.ite_none_left_eq_some] at read
    obtain ⟨⟨attributes, last⟩, attributesRead, _, same⟩ := read
    cases same
    obtain ⟨_, _, whole⟩ := Text.split_on_cut '"' (rest.dropWhile isNameChar)
    rw [String.toList_ofList, ← attributes_written _ _ _ attributesRead, ← whole, List.takeWhile_append_dropWhile]
  next => cases read

theorem content_written (element : Element) (ending : List Char)
    (read : content? element.name ending = some element.content) : ending = element.ending.toList := by
  rw [content?.eq_def] at read
  split at read
  next =>
    cases shown : element.content <;> simp_all [Element.ending]
  next rest =>
    simp only [Option.ite_none_right_eq_some] at read
    obtain ⟨closing, same⟩ := read
    have written : element.ending = ">" ++ String.ofList (rest.takeWhile isPlain) ++ "</" ++ element.name ++ ">" := by
      rw [Element.ending, ← Option.some.inj same]
    have whole : rest = rest.takeWhile isPlain ++ ("</" ++ element.name ++ ">").toList := by
      rw [← closing, List.takeWhile_append_dropWhile]
    calc
      '>' :: rest = '>' :: (rest.takeWhile isPlain ++ ("</" ++ element.name ++ ">").toList) := congrArg _ whole
      _ = element.ending.toList := by simp [written]
  next => cases read

theorem element_written (line : List Char) (element : Element) (read : element? line = some element) :
    line = element.text.toList := by
  rw [element?.eq_def] at read
  split at read
  next rest =>
    simp only [Option.bind_eq_bind, Option.bind_eq_some_iff] at read
    obtain ⟨⟨name, attributes, ending⟩, tagRead, content, contentRead, same⟩ := read
    cases same
    rw [element_list, tag_written _ _ _ _ tagRead, content_written { name, attributes, content } ending contentRead]
  next => cases read

theorem root_written (line : List Char) (attributes : List (String × String)) (read : root? line = some attributes) :
    line = (rootText attributes).toList := by
  simp only [root?, Option.bind_eq_bind, Option.bind_eq_some_iff, Option.ite_none_right_eq_some] at read
  obtain ⟨⟨name, attributes, ending⟩, tagRead, ⟨rfl, rfl⟩, same⟩ := read
  cases same
  rw [root_list, tag_written _ _ _ _ tagRead]

theorem elements_written (lines : List (List Char)) (elements : List Element) (read : elements? lines = some elements) :
    ['\n'].intercalate lines =
      (String.join ((elements.map Element.text ++ ["</svg>"]).map (· ++ "\n"))).toList := by
  fun_induction elements? lines generalizing elements with
  | case1 => cases read
  | case2 =>
      cases read
      rfl
  | case3 => cases read
  | case4 line rest _ ih =>
      simp only [Option.bind_eq_bind, Option.bind_eq_some_iff] at read
      obtain ⟨element, elementRead, others, othersRead, same⟩ := read
      cases same
      have whole := ih others othersRead
      cases rest with
      | nil => cases othersRead
      | cons next lines =>
          rw [Text.intercalate_part, whole, element_written line element elementRead, List.map_cons, List.cons_append,
            ended_list]

theorem drawing_written (text : String) (drawing : Drawing) (read : drawing? text = some drawing) :
    text = drawing.text := by
  obtain ⟨_, _, cut⟩ := Text.split_on_cut '\n' text.toList
  rw [drawing?] at read
  split at read
  next => cases read
  next first rest parts =>
    simp only [Option.bind_eq_bind, Option.bind_eq_some_iff] at read
    obtain ⟨root, rootRead, elements, elementsRead, same⟩ := read
    cases same
    rw [parts] at cut
    have whole := elements_written rest elements elementsRead
    cases rest with
    | nil => cases elementsRead
    | cons next lines =>
        rw [Text.intercalate_part, whole, root_written first root rootRead, ← ended_list] at cut
        exact String.toList_inj.mp cut

theorem drawing_iff (drawing : Drawing) (proper : drawing.Proper) (text : String) :
    drawing? text = some drawing ↔ text = drawing.text := by
  constructor
  · exact drawing_written text drawing
  · rintro rfl
    exact drawing_read drawing proper

end Floorplan.Svg

import Floorplan.Proofs.Json.RoundTrip
import Floorplan.Proofs.Text.Parts
import Floorplan.SizeList

set_option autoImplicit false

namespace Floorplan.SizeList

open Json (Digits)
open Number (digitValue digitsValue)
open Text (Bare Blanks Cut CountFault addDigits blanks_append count isBlank splitOn splitOnce trimmed)

section Grammar

inductive SpellsCount : Nat → List Char → Prop where
  | digits (s : List Char) (proper : Digits s) : SpellsCount (digitsValue s) s
  | plus (s : List Char) (proper : Digits s) : SpellsCount (digitsValue s) ('+' :: s)

inductive SpellsSide : UInt32 → List Char → Prop where
  | side (n : UInt32) (before s after : List Char) (left : Blanks before) (number : SpellsCount n.toNat s)
      (right : Blanks after) : SpellsSide n (before ++ (s ++ after))

inductive SpellsSize : UInt32 × UInt32 → List Char → Prop where
  | size (width height : UInt32) (s t : List Char) (cross : Char) (either : cross = 'x' ∨ cross = 'X')
      (first : SpellsSide width s) (second : SpellsSide height t) : SpellsSize (width, height) (s ++ cross :: t)

-- The parts between the commas: each a size or blank.
inductive SpellsSizes : List (UInt32 × UInt32) → List (List Char) → Prop where
  | none : SpellsSizes [] []
  | blank (part : List Char) (sizes : List (UInt32 × UInt32)) (parts : List (List Char)) (blank : Blanks part)
      (rest : SpellsSizes sizes parts) : SpellsSizes sizes (part :: parts)
  | size (part : List Char) (size : UInt32 × UInt32) (sizes : List (UInt32 × UInt32)) (parts : List (List Char))
      (item : SpellsSize size part) (rest : SpellsSizes sizes parts) : SpellsSizes (size :: sizes) (part :: parts)

end Grammar

section Numbers

theorem add_digits_iff (largest n : Nat) (start : n ≤ largest) (s : List Char) (m : Nat) :
    addDigits largest n s = .ok m
      ↔ (∀ c ∈ s, c.isDigit = true) ∧ Nat.ofDigitChars 10 s n = m ∧ m ≤ largest := by
  induction s generalizing n with
  | nil =>
      constructor
      · rintro ⟨⟩
        exact ⟨by simp, rfl, start⟩
      · rintro ⟨_, rfl, _⟩
        rfl
  | cons c rest ih =>
      rw [addDigits, Nat.ofDigitChars_cons, List.forall_mem_cons]
      by_cases digit : c.isDigit = true
      · by_cases large : largest < 10 * n + digitValue c
        · -- more digits only make it larger
          have grown := Json.digits_grow rest (10 * n + digitValue c)
          simp only [digit, Bool.not_true, Bool.false_eq_true, if_false, if_pos large]
          refine ⟨nofun, fun ⟨_, same, fits⟩ => ?_⟩
          have value : Nat.ofDigitChars 10 rest (10 * n + digitValue c) = m := same
          omega
        · simp only [digit, Bool.not_true, Bool.false_eq_true, if_false, if_neg large, true_and]
          exact ih _ (by omega)
      · simp [digit]

theorem add_all_digits_iff (largest : Nat) (s : List Char) (given : s ≠ []) (m : Nat) :
    addDigits largest 0 s = .ok m ↔ Digits s ∧ digitsValue s = m ∧ m ≤ largest := by
  rw [add_digits_iff largest 0 (Nat.zero_le _) s m]
  exact ⟨fun ⟨digits, rest⟩ => ⟨⟨given, digits⟩, rest⟩, fun ⟨proper, rest⟩ => ⟨proper.2, rest⟩⟩

theorem count_signed (largest : Nat) (s : List Char) (given : s ≠ []) :
    count largest ('+' :: s) = addDigits largest 0 s := by
  cases s with
  | nil => exact absurd rfl given
  | cons c rest => rfl

theorem count_unsigned (largest : Nat) (c : Char) (rest : List Char) (unsigned : c ≠ '+') :
    count largest (c :: rest) = addDigits largest 0 (c :: rest) := by
  rw [count]
  · exact List.cons_ne_nil c rest
  · exact fun same => unsigned (List.cons.inj same).1
  · exact fun _ same => unsigned (List.cons.inj same).1

theorem count_iff (largest : Nat) (s : List Char) (m : Nat) :
    count largest s = .ok m ↔ SpellsCount m s ∧ m ≤ largest := by
  constructor
  · intro read
    cases s with
    | nil => cases read
    | cons c rest =>
        by_cases signed : c = '+'
        · subst signed
          cases rest with
          | nil => cases read
          | cons d digits =>
              rw [count_signed _ _ (List.cons_ne_nil _ _), add_all_digits_iff _ _ (List.cons_ne_nil _ _)] at read
              obtain ⟨proper, rfl, fits⟩ := read
              exact ⟨.plus _ proper, fits⟩
        · rw [count_unsigned _ _ _ signed, add_all_digits_iff _ _ (List.cons_ne_nil _ _)] at read
          obtain ⟨proper, rfl, fits⟩ := read
          exact ⟨.digits _ proper, fits⟩
  · rintro ⟨spelled, fits⟩
    cases spelled with
    | digits _ proper =>
        obtain ⟨c, rest, rfl⟩ := List.exists_cons_of_ne_nil proper.1
        have unsigned : c ≠ '+' := by
          rintro rfl
          exact absurd (proper.2 '+' List.mem_cons_self) (by decide)
        rw [count_unsigned _ _ _ unsigned]
        exact (add_all_digits_iff _ _ proper.1 _).mpr ⟨proper, rfl, fits⟩
    | plus digits proper =>
        rw [count_signed _ _ proper.1]
        exact (add_all_digits_iff _ _ proper.1 _).mpr ⟨proper, rfl, fits⟩

end Numbers

section Sides

theorem digit_bare (c : Char) (digit : c.isDigit = true) : isBlank c = false := by
  obtain ⟨low, high⟩ := Char.isDigit_iff_toNat.mp digit
  change 48 ≤ c.toNat at low
  change c.toNat ≤ 57 at high
  simp only [isBlank, Text.blankRanges, List.any_cons, List.any_nil, Bool.or_false, Bool.or_eq_false_iff,
    Bool.and_eq_false_iff, decide_eq_false_iff_not]
  omega

theorem count_chars {n : Nat} {s : List Char} (spelled : SpellsCount n s) :
    s ≠ [] ∧ ∀ c ∈ s, c = '+' ∨ c.isDigit = true := by
  cases spelled with
  | digits _ proper => exact ⟨proper.1, fun c inside => .inr (proper.2 c inside)⟩
  | plus digits proper =>
      exact ⟨List.cons_ne_nil _ _, fun c inside => (List.mem_cons.mp inside).imp id (proper.2 c)⟩

theorem count_bare {n : Nat} {s : List Char} (spelled : SpellsCount n s) : Bare s := by
  have solid : ∀ c ∈ s, isBlank c = false := by
    intro c inside
    rcases (count_chars spelled).2 c inside with rfl | digit
    · decide
    · exact digit_bare c digit
  exact ⟨fun c first => solid c (List.mem_of_mem_head? first), fun c last => solid c (List.mem_of_mem_getLast? last)⟩

theorem parse_side_iff (n : UInt32) (s : List Char) : parseSide s = .ok n ↔ SpellsSide n s := by
  constructor
  · intro read
    rw [parseSide] at read
    cases counted : count sizeMax (trimmed s) with
    | error fault =>
        rw [counted] at read
        cases read
    | ok m =>
        rw [counted] at read
        cases read
        obtain ⟨spelled, fits⟩ := (count_iff _ _ _).mp counted
        obtain ⟨before, after, left, right, whole⟩ := Text.trimmed_spaced s
        have value : (UInt32.ofNat m).toNat = m := UInt32.toNat_ofNat_of_lt (Nat.lt_of_le_of_lt fits (by decide))
        rw [whole]
        exact .side _ before _ after left (by rwa [value]) right
  · rintro ⟨before, core, after, left, spelled, right⟩
    have counted := (count_iff sizeMax core n.toNat).mpr ⟨spelled, Nat.le_of_lt_succ n.toNat_lt⟩
    rw [parseSide, Text.trimmed_between before core after left right (count_bare spelled) (count_chars spelled).1,
      counted]
    exact congrArg Except.ok (UInt32.ofNat_toNat)

theorem cross_iff (c : Char) : isCross c = true ↔ c = 'x' ∨ c = 'X' := by
  rw [isCross, Bool.or_eq_true_iff, beq_iff_eq, beq_iff_eq]

theorem side_chars {n : UInt32} {s : List Char} (spelled : SpellsSide n s) :
    ∀ c ∈ s, isCross c = false ∧ c ≠ ',' := by
  have foreign (c : Char) (other : (c = 'x' ∨ c = 'X') ∨ c = ',') :
      ¬ (isBlank c = true ∨ c = '+' ∨ c.isDigit = true) := by
    rcases other with (rfl | rfl) | rfl <;> decide
  obtain ⟨before, core, after, left, number, right⟩ := spelled
  intro c inside
  have allowed : isBlank c = true ∨ c = '+' ∨ c.isDigit = true := by
    rcases List.mem_append.mp inside with first | inside
    · exact .inl (left c first)
    · rcases List.mem_append.mp inside with middle | last
      · exact .inr ((count_chars number).2 c middle)
      · exact .inl (right c last)
  constructor
  · rw [Bool.eq_false_iff]
    exact fun cross => foreign c (.inl ((cross_iff c).mp cross)) allowed
  · exact fun comma => foreign c (.inr comma) allowed

theorem side_spaced {n : UInt32} {s : List Char} (spelled : SpellsSide n s) (before after : List Char)
    (left : Blanks before) (right : Blanks after) : SpellsSide n (before ++ (s ++ after)) := by
  obtain ⟨front, core, back, frontBlank, number, backBlank⟩ := spelled
  have joined : before ++ ((front ++ (core ++ back)) ++ after) = (before ++ front) ++ (core ++ (back ++ after)) := by
    simp only [List.append_assoc]
  rw [joined]
  exact .side n _ core _ (blanks_append _ _ left frontBlank) number (blanks_append _ _ backBlank right)

end Sides

section Items

theorem parse_item_iff (size : UInt32 × UInt32) (item : List Char) :
    parseItem item = .ok size ↔ SpellsSize size item := by
  constructor
  · intro read
    rw [parseItem] at read
    split at read
    next => cases read
    next first second split =>
      obtain ⟨cross, rfl, found⟩ := Text.split_once_parts isCross item first second split
      cases width : parseSide first with
      | error fault =>
          rw [width] at read
          cases read
      | ok n =>
          cases height : parseSide second with
          | error fault =>
              rw [width, height] at read
              cases read
          | ok m =>
              rw [width, height] at read
              cases read
              exact .size n m first second cross ((cross_iff cross).mp found) ((parse_side_iff n first).mp width)
                ((parse_side_iff m second).mp height)
  · rintro ⟨width, height, first, second, cross, either, left, right⟩
    have split := Text.split_once_found isCross first second cross (fun c inside => (side_chars left c inside).1)
      ((cross_iff cross).mpr either)
    simp only [parseItem, split, (parse_side_iff width first).mpr left, (parse_side_iff height second).mpr right]
    rfl

theorem trimmed_size_iff (size : UInt32 × UInt32) (part : List Char) :
    SpellsSize size (trimmed part) ↔ SpellsSize size part := by
  constructor
  · intro spelled
    obtain ⟨before, after, left, right, whole⟩ := Text.trimmed_spaced part
    generalize trimmed part = core at spelled whole
    obtain ⟨width, height, first, second, cross, either, wide, high⟩ := spelled
    have joined : part = (before ++ (first ++ [])) ++ cross :: ([] ++ (second ++ after)) := by
      rw [whole]
      simp only [List.append_assoc, List.cons_append, List.nil_append]
    rw [joined]
    exact .size width height _ _ cross either (side_spaced wide before [] left nofun)
      (side_spaced high [] after nofun right)
  · rintro ⟨width, height, first, second, cross, either, wide, high⟩
    obtain ⟨before, s, gap, left, number, gapBlank⟩ := wide
    obtain ⟨space, t, after, spaceBlank, number', right⟩ := high
    have joined : (before ++ (s ++ gap)) ++ cross :: (space ++ (t ++ after))
        = before ++ ((s ++ ((gap ++ cross :: space) ++ t)) ++ after) := by
      simp only [List.append_assoc, List.cons_append]
    have bare := Text.bare_join s (gap ++ cross :: space) t (count_bare number) (count_chars number).1
      (count_bare number') (count_chars number').1
    have given : s ++ ((gap ++ cross :: space) ++ t) ≠ [] := by simp
    rw [joined, Text.trimmed_between before _ after left right bare given]
    have trimmedSides : s ++ ((gap ++ cross :: space) ++ t) = ([] ++ (s ++ gap)) ++ cross :: (space ++ (t ++ [])) := by
      simp only [List.append_assoc, List.cons_append, List.nil_append, List.append_nil]
    rw [trimmedSides]
    exact .size width height _ _ cross either (.side width [] s gap nofun number gapBlank)
      (.side height space t [] spaceBlank number' nofun)

theorem size_not_blank {size : UInt32 × UInt32} {part : List Char} (item : SpellsSize size part) : ¬ Blanks part := by
  obtain ⟨width, height, first, second, cross, either, _, _⟩ := item
  intro blank
  have printed := blank cross (by simp)
  rcases either with rfl | rfl <;> exact absurd printed (by decide)

theorem items_iff (parts : List (List Char)) (sizes : List (UInt32 × UInt32)) :
    ((parts.map trimmed).filter fun item => !item.isEmpty).mapM parseItem = .ok sizes
      ↔ SpellsSizes sizes parts := by
  induction parts generalizing sizes with
  | nil =>
      constructor
      · rintro ⟨⟩
        exact .none
      · rintro ⟨⟩
        rfl
  | cons part rest ih =>
      rw [List.map_cons, List.filter_cons]
      by_cases blank : Blanks part
      · rw [(Text.trimmed_eq_nil_iff part).mpr blank, if_neg (by decide), ih]
        constructor
        · exact .blank part sizes rest blank
        · intro spelled
          cases spelled with
          | blank _ _ _ _ others => exact others
          | size _ _ _ _ item => exact absurd blank (size_not_blank item)
      · have kept : (!(trimmed part).isEmpty) = true := by
          rw [Bool.not_eq_true', List.isEmpty_eq_false_iff]
          exact fun empty => blank ((Text.trimmed_eq_nil_iff part).mp empty)
        rw [if_pos kept, List.mapM_cons]
        constructor
        · intro read
          cases first : parseItem (trimmed part) with
          | error fault =>
              rw [first] at read
              cases read
          | ok size =>
              cases others : ((rest.map trimmed).filter fun item => !item.isEmpty).mapM parseItem with
              | error fault =>
                  rw [first, others] at read
                  cases read
              | ok behind =>
                  rw [first, others] at read
                  cases read
                  exact .size part size behind rest
                    ((trimmed_size_iff size part).mp ((parse_item_iff size _).mp first)) ((ih behind).mp others)
        · intro spelled
          cases spelled with
          | blank _ _ _ none _ => exact absurd none blank
          | size _ size behind _ item others =>
              rw [(parse_item_iff size _).mpr ((trimmed_size_iff size part).mpr item), (ih behind).mpr others]
              rfl

theorem parse_iff (spec : String) (sizes : List (UInt32 × UInt32)) :
    parse spec = .ok sizes ↔ sizes ≠ [] ∧ SpellsSizes sizes (splitOn ',' spec.toList) := by
  rw [parse, ← items_iff]
  change ((items spec.toList).mapM parseItem >>= _) = _ ↔ _ ∧ (items spec.toList).mapM parseItem = _
  cases read : (items spec.toList).mapM parseItem with
  | error fault => exact ⟨nofun, nofun⟩
  | ok found =>
      change (if found.isEmpty then Except.error Fault.noSizes else .ok found) = _ ↔ _
      cases found with
      | nil => exact ⟨nofun, fun ⟨given, same⟩ => absurd (Except.ok.inj same).symm given⟩
      | cons size rest =>
          constructor
          · rintro ⟨⟩
            exact ⟨List.cons_ne_nil size rest, rfl⟩
          · exact fun ⟨_, same⟩ => same

theorem size_without_comma {size : UInt32 × UInt32} {part : List Char} (item : SpellsSize size part) : ',' ∉ part := by
  obtain ⟨width, height, first, second, cross, either, wide, high⟩ := item
  intro inside
  rcases List.mem_append.mp inside with left | right
  · exact (side_chars wide ',' left).2 rfl
  · rcases List.mem_cons.mp right with rfl | right
    · exact absurd either (by decide)
    · exact (side_chars high ',' right).2 rfl

theorem SpellsSizes.without_comma {sizes : List (UInt32 × UInt32)} {parts : List (List Char)}
    (spelled : SpellsSizes sizes parts) : ∀ part ∈ parts, ',' ∉ part := by
  induction spelled with
  | none => exact fun part listed => absurd listed List.not_mem_nil
  | blank part sizes parts blank rest ih =>
      exact List.forall_mem_cons.mpr ⟨fun comma => absurd (blank ',' comma) (by decide), ih⟩
  | size part size sizes parts item rest ih => exact List.forall_mem_cons.mpr ⟨size_without_comma item, ih⟩

theorem SpellsSizes.nil_iff {sizes : List (UInt32 × UInt32)} {parts : List (List Char)}
    (spelled : SpellsSizes sizes parts) : sizes = [] ↔ ∀ part ∈ parts, Blanks part := by
  induction spelled with
  | none => exact ⟨fun _ part listed => absurd listed List.not_mem_nil, fun _ => rfl⟩
  | blank part sizes parts blank rest ih => rw [ih, List.forall_mem_cons, and_iff_right blank]
  | size part size sizes parts item rest ih =>
      exact ⟨nofun, fun all => absurd (all part List.mem_cons_self) (size_not_blank item)⟩

theorem spelled_iff (parts : List (List Char)) :
    (∃ sizes, SpellsSizes sizes parts) ↔ ∀ part ∈ parts, ¬ Blanks part → ∃ size, SpellsSize size part := by
  induction parts with
  | nil => exact ⟨fun _ part listed => absurd listed List.not_mem_nil, fun _ => ⟨[], .none⟩⟩
  | cons part rest ih =>
      rw [List.forall_mem_cons, ← ih]
      constructor
      · rintro ⟨sizes, spelled⟩
        cases spelled with
        | blank _ _ _ blank others => exact ⟨fun given => absurd blank given, sizes, others⟩
        | size _ size behind _ item others => exact ⟨fun _ => ⟨size, item⟩, behind, others⟩
      · rintro ⟨first, sizes, others⟩
        by_cases blank : Blanks part
        · exact ⟨sizes, .blank part sizes rest blank others⟩
        · obtain ⟨size, item⟩ := first blank
          exact ⟨size :: sizes, .size part size sizes rest item others⟩

theorem readable_iff (spec : String) :
    (∃ sizes, parse spec = .ok sizes) ↔ (∃ part ∈ splitOn ',' spec.toList, ¬ Blanks part)
      ∧ ∀ part ∈ splitOn ',' spec.toList, ¬ Blanks part → ∃ size, SpellsSize size part := by
  rw [← spelled_iff]
  constructor
  · rintro ⟨sizes, read⟩
    obtain ⟨given, spelled⟩ := (parse_iff spec sizes).mp read
    refine ⟨?_, sizes, spelled⟩
    by_contra none
    push Not at none
    exact given (spelled.nil_iff.mpr none)
  · rintro ⟨⟨part, listed, given⟩, sizes, spelled⟩
    exact ⟨sizes, (parse_iff spec sizes).mpr
      ⟨fun none => given (spelled.nil_iff.mp none part listed), spelled⟩⟩

theorem decimal_side (n : UInt32) : SpellsSide n (Nat.toDigits 10 n.toNat) := by
  have value : digitsValue (Nat.toDigits 10 n.toNat) = n.toNat := Nat.ofDigitChars_ten_toDigits
  have number := SpellsCount.digits _ (Json.digits_spelled n.toNat)
  rw [value] at number
  have side := SpellsSide.side n [] _ [] nofun number nofun
  rwa [List.nil_append, List.append_nil] at side

end Items

theorem size_lists_reread :
    (∀ spec : String, ∃ parts, Cut ',' spec.toList parts
      ∧ (∀ others, Cut ',' spec.toList others → others = parts)
      ∧ (∀ sizes, parse spec = .ok sizes ↔ sizes ≠ [] ∧ SpellsSizes sizes parts)
      ∧ ((∃ sizes, parse spec = .ok sizes)
        ↔ (∃ part ∈ parts, ¬ Blanks part) ∧ ∀ part ∈ parts, ¬ Blanks part → ∃ size, SpellsSize size part)
      ∧ ∀ part ∈ parts, ¬ Blanks part → (∀ size, ¬ SpellsSize size part) → ∃ fault, parse spec = .error fault)
    ∧ (∀ sizes parts, sizes ≠ [] → SpellsSizes sizes parts →
      parse (String.ofList ([','].intercalate parts)) = .ok sizes)
    ∧ ∀ width height : UInt32,
      SpellsSize (width, height) (Nat.toDigits 10 width.toNat ++ 'x' :: Nat.toDigits 10 height.toNat) := by
  refine ⟨fun spec => ?_, fun sizes parts given spelled => ?_, fun width height => ?_⟩
  · refine ⟨splitOn ',' spec.toList, Text.split_on_cut ',' _, fun others cut => cut.eq_split_on, parse_iff spec,
      readable_iff spec, fun part listed given malformed => ?_⟩
    cases read : parse spec with
    | error fault => exact ⟨fault, rfl⟩
    | ok sizes =>
        obtain ⟨size, item⟩ := ((readable_iff spec).mp ⟨sizes, read⟩).2 part listed given
        exact absurd item (malformed size)
  · have nonempty : parts ≠ [] := by
      rintro rfl
      cases spelled
      exact given rfl
    have cut : Cut ',' (String.ofList ([','].intercalate parts)).toList parts :=
      ⟨nonempty, spelled.without_comma, String.toList_ofList⟩
    rw [parse_iff, ← cut.eq_split_on]
    exact ⟨given, spelled⟩
  · exact .size width height _ _ 'x' (.inl rfl) (decimal_side width) (decimal_side height)

def crookedParts : List (List Char) := [" +007 X 12 ".toList, [], "\t4294967295x0".toList, []]

theorem crooked_spelled : SpellsSizes [(7, 12), (4294967295, 0)] crookedParts := by
  refine .size _ _ _ _ ((parse_item_iff _ _).mp ?_) (.blank _ _ _ nofun
    (.size _ _ _ _ ((parse_item_iff _ _).mp ?_) (.blank _ _ _ nofun .none)))
  all_goals decide +kernel

theorem crooked_list_reread :
    SpellsSizes [(7, 12), (4294967295, 0)] crookedParts
      ∧ parse " +007 X 12 ,,\t4294967295x0," = .ok [(7, 12), (4294967295, 0)]
      ∧ Cut ',' "4x5, 4294967296x1".toList ["4x5".toList, " 4294967296x1".toList]
      ∧ ∃ fault, parse "4x5, 4294967296x1" = .error fault := by
  have cut : Cut ',' "4x5, 4294967296x1".toList ["4x5".toList, " 4294967296x1".toList] := by
    simp only [Cut]
    decide +kernel
  have large : ∀ size, ¬ SpellsSize size " 4294967296x1".toList := by
    intro size item
    have read := (parse_item_iff size _).mpr item
    have fails : (parseItem " 4294967296x1".toList).toOption = none := by decide +kernel
    rw [read] at fails
    cases fails
  have text : String.ofList ([','].intercalate crookedParts) = " +007 X 12 ,,\t4294967295x0," := by decide +kernel
  obtain ⟨reads, rereads, _⟩ := size_lists_reread
  have crooked := rereads _ crookedParts (List.cons_ne_nil _ _) crooked_spelled
  rw [text] at crooked
  obtain ⟨parts, _, unique, _, _, malformed⟩ := reads "4x5, 4294967296x1"
  have same := unique _ cut
  have printed : ¬ Blanks " 4294967296x1".toList := fun blank => absurd (blank 'x' (by decide)) (by decide)
  have listed : " 4294967296x1".toList ∈ parts := by simp [← same]
  exact ⟨crooked_spelled, crooked, cut, malformed " 4294967296x1".toList listed printed large⟩

end Floorplan.SizeList

import Floorplan.Proofs.Json.Parse

set_option autoImplicit false

namespace Floorplan.Json

open Number (Decimal digitsValue)
open Token (isBlank isHighHalf isLowHalf numeral scanNumber unit?)

section Numbers

theorem head_append (s t : List Char) (given : s ≠ []) : (s ++ t).head? = s.head? := by
  cases s with
  | nil => exact absurd rfl given
  | cons c rest => rfl

theorem digits_spelled (n : Nat) : Digits (Nat.toDigits 10 n) :=
  ⟨Nat.toDigits_ne_nil, fun _ inside => Nat.isDigit_of_mem_toDigits (by decide) (by decide) inside⟩

theorem digits_leading (n : Nat) (positive : n ≠ 0) : (Nat.toDigits 10 n).head? ≠ some '0' := by
  induction n using Nat.strongRecOn with
  | ind n ih =>
      rw [Nat.toDigits_eq_if (by decide)]
      split
      next small => simpa using positive
      next large =>
          rw [head_append _ _ Nat.toDigits_ne_nil]
          exact ih (n / 10) (by omega) (by omega)

theorem whole_spelled (n : Nat) : SpellsWhole (Nat.toDigits 10 n) := by
  cases n with
  | zero => exact .zero
  | succ n => exact .digits _ (digits_spelled _) (digits_leading _ n.succ_ne_zero)

theorem digits_append (s t : List Char) (left : ∀ c ∈ s, c.isDigit = true) (right : ∀ c ∈ t, c.isDigit = true)
    (given : s ++ t ≠ []) : Digits (s ++ t) := by
  refine ⟨given, fun c inside => ?_⟩
  rcases List.mem_append.mp inside with first | second
  · exact left c first
  · exact right c second

theorem zeros_digits (n : Nat) : ∀ c ∈ List.replicate n '0', c.isDigit = true := by
  intro c inside
  rw [List.eq_of_mem_replicate inside]
  rfl

def Unsigned (s : List Char) : Prop :=
  ∃ whole fraction places power scale, SpellsWhole whole ∧ SpellsFraction fraction places
    ∧ SpellsPower power scale ∧ s = whole ++ (places ++ scale)

theorem pointed_spelled (whole places : List Char) (integral : SpellsWhole whole) (proper : Digits places) :
    Unsigned (whole ++ '.' :: places) :=
  ⟨whole, some places, '.' :: places, none, [], integral, .places places proper, .absent, by simp⟩

theorem positional_spelled (digits : List Char) (places : Int) (proper : Digits digits)
    (leading : digits.head? ≠ some '0') : Unsigned (Decimal.positionalText true digits places) := by
  fun_cases Decimal.positionalText true digits places with
  | case1 small =>
      apply pointed_spelled ['0'] _ .zero
      exact digits_append _ _ (zeros_digits _) proper.2 (List.append_ne_nil_of_right_ne_nil _ proper.1)
  | case2 positive long =>
      apply pointed_spelled _ ['0']
      · have given := List.append_ne_nil_of_left_ne_nil proper.1
          (List.replicate (places - digits.length).toNat '0')
        apply SpellsWhole.digits _ (digits_append _ _ proper.2 (zeros_digits _) given)
        rwa [head_append _ _ proper.1]
      · exact digits_spelled 0
  | case3 positive short =>
      have before : digits.take places.toNat ≠ [] := by
        intro empty
        have size := congrArg List.length empty
        have given := List.length_pos_iff.mpr proper.1
        rw [List.length_take, List.length_nil] at size
        omega
      have behind : digits.drop places.toNat ≠ [] := by
        intro empty
        have size := congrArg List.length empty
        rw [List.length_drop, List.length_nil] at size
        omega
      apply pointed_spelled
      · apply SpellsWhole.digits _ ⟨before, fun c inside => proper.2 c (List.mem_of_mem_take inside)⟩
        rwa [← head_append _ (digits.drop places.toNat) before, List.take_append_drop]
      · exact ⟨behind, fun c inside => proper.2 c (List.mem_of_mem_drop inside)⟩

theorem scientific_spelled (digits : List Char) (power : Int) (proper : Digits digits)
    (leading : digits.head? ≠ some '0') : Unsigned (Decimal.scientificText digits power) := by
  obtain ⟨first, rest, rfl⟩ := List.exists_cons_of_ne_nil proper.1
  have integral : SpellsWhole [first] :=
    .digits _ ⟨List.cons_ne_nil _ _, fun c inside => proper.2 c (by simp_all)⟩ leading
  have scaled : ∃ value, SpellsPower value
      ('e' :: (if power < 0 then '-' else '+') :: Nat.toDigits 10 power.natAbs) := by
    split
    · exact ⟨_, .power 'e' true ['-'] _ (.inl rfl) .minus (digits_spelled _)⟩
    · exact ⟨_, .power 'e' false ['+'] _ (.inl rfl) .plus (digits_spelled _)⟩
  obtain ⟨value, scaled⟩ := scaled
  cases rest with
  | nil => exact ⟨[first], none, [], value, _, integral, .absent, scaled, rfl⟩
  | cons second rest =>
      have fractional : SpellsFraction (some (second :: rest)) ('.' :: second :: rest) :=
        .places _ ⟨List.cons_ne_nil _ _, fun c inside => proper.2 c (List.mem_cons_of_mem first inside)⟩
      exact ⟨[first], _, _, value, _, integral, fractional, scaled, rfl⟩

theorem decimal_spelled (d : Decimal) : Unsigned (d.text style) := by
  rw [Decimal.text]
  split
  · exact pointed_spelled ['0'] ['0'] .zero (digits_spelled 0)
  next positive =>
      have leading := digits_leading d.digits positive
      change Unsigned (if _ then _ else _)
      split
      · exact positional_spelled _ _ (digits_spelled _) leading
      · exact scientific_spelled _ _ (digits_spelled _) leading

theorem signed_spelled (negative : Bool) (s : List Char) (unsigned : Unsigned s) :
    ∃ value, SpellsNumber value (if negative then '-' :: s else s) := by
  obtain ⟨whole, fraction, places, power, scale, integral, fractional, scaled, rfl⟩ := unsigned
  refine ⟨numeral negative whole fraction power, ?_⟩
  have spelled := SpellsNumber.number negative whole fraction places power scale integral fractional scaled
  cases negative <;> exact spelled

theorem chars_spelled (value : Numeral) : ∃ read, SpellsNumber read value.chars := by
  cases value with
  | whole negative magnitude =>
      apply signed_spelled
      exact ⟨_, none, [], none, [], whole_spelled magnitude, .absent, .absent, by simp⟩
  | decimal negative value => exact signed_spelled negative _ (decimal_spelled value)

def Numeral.reread (value : Numeral) : Numeral := ((scanNumber value.chars).map (·.1)).getD value

theorem reread_eq (value read : Numeral) (spelled : SpellsNumber read value.chars) : value.reread = read := by
  have scan := scan_number read value.chars [] spelled fun _ first => by cases first
  rw [List.append_nil] at scan
  rw [Numeral.reread, scan]
  rfl

theorem reread_spelled (value : Numeral) : SpellsNumber value.reread value.chars := by
  obtain ⟨read, spelled⟩ := chars_spelled value
  rwa [reread_eq value read spelled]

end Numbers

section Strings

theorem control_unit : ∀ n < 0x20, unit? '0' '0' (Nat.digitChar (n / 16)) (Nat.digitChar (n % 16)) = some n := by
  decide

theorem char_spelled (c : Char) (text : Option (List Char)) (s : List Char) (next : SpellsChars text s) :
    SpellsChars (text.map (c :: ·)) (charText c ++ s) := by
  fun_cases charText c with
  | case1 same => exact same ▸ .escaped '"' '"' text s rfl next
  | case2 _ same => exact same ▸ .escaped '\\' '\\' text s rfl next
  | case3 _ _ same => exact same ▸ .escaped 'n' '\n' text s rfl next
  | case4 _ _ _ same => exact same ▸ .escaped 'r' '\r' text s rfl next
  | case5 _ _ _ _ same => exact same ▸ .escaped 't' '\t' text s rfl next
  | case6 _ _ _ _ _ same => exact same ▸ .escaped 'b' '\x08' text s rfl next
  | case7 _ _ _ _ _ _ same => exact same ▸ .escaped 'f' '\x0c' text s rfl next
  | case8 _ _ _ _ _ _ _ control =>
      have first : isHighHalf c.toNat = false := by
        simp [isHighHalf]
        omega
      have second : isLowHalf c.toNat = false := by
        simp [isLowHalf]
        omega
      have named := SpellsChars.named _ _ _ _ c.toNat text s (control_unit _ control) first second next
      rwa [Char.ofNat_toNat] at named
  | case9 unquoted bare _ _ _ _ _ printed => exact .plain c text s (Nat.not_lt.mp printed) unquoted bare next

theorem flat_spelled (chars : List Char) : SpellsChars (some chars) (chars.flatMap charText) := by
  induction chars with
  | nil => exact .done
  | cons c rest ih => exact char_spelled c (some rest) _ ih

theorem quoted_spelled (text : Text) : SpellsText (some (text.getD "")) (quoted text) := by
  have spelled := SpellsText.text _ _ (flat_spelled (text.getD "").toList)
  rwa [Option.map_some, String.ofList_toList] at spelled

end Strings

section Values

mutual

def asRead : Json → Json
  | .null => .null
  | .bool value => .bool value
  | .number value => .number value.reread
  | .string text => .string (some (text.getD ""))
  | .array items => .array (itemsAsRead items)
  | .object members => .object (membersAsRead members)

def itemsAsRead : List Json → List Json
  | [] => []
  | item :: rest => asRead item :: itemsAsRead rest

def membersAsRead : List (Text × Json) → List (Text × Json)
  | [] => []
  | (name, value) :: rest => (some (name.getD ""), asRead value) :: membersAsRead rest

end

theorem no_blanks : Blanks [] := fun _ inside => by cases inside

theorem one_blank : Blanks [' '] := by simp [Blanks, isBlank]

theorem new_line_blank (depth : Nat) : Blanks (newLine depth) := by
  intro c inside
  rcases List.mem_cons.mp inside with rfl | inside
  · rfl
  · rw [List.eq_of_mem_replicate inside]
    rfl

mutual

theorem compact_spelled (json : Json) : Spells (asRead json) (compactChars json) := by
  cases json with
  | null => exact .null
  | bool value => exact .bool value
  | number value => exact .number _ _ (reread_spelled value)
  | string text => exact .string _ _ (quoted_spelled text)
  | array items => exact .array _ _ (compact_items_spelled items)
  | object members => exact .object _ _ (compact_members_spelled members)

theorem compact_items_spelled (items : List Json) : SpellsItems (itemsAsRead items) (compactItems items) := by
  match items with
  | [] => exact .empty [] no_blanks
  | [item] =>
      have spelled := SpellsItems.last _ [] _ [] no_blanks no_blanks (compact_spelled item)
      rwa [List.append_nil] at spelled
  | item :: next :: rest =>
      have behind := compact_items_spelled (next :: rest)
      exact .more _ _ _ [] _ [] _ no_blanks no_blanks (compact_spelled item) behind

theorem compact_members_spelled (members : List (Text × Json)) :
    SpellsMembers (membersAsRead members) (compactMembers members) := by
  match members with
  | [] => exact .empty [] no_blanks
  | [(name, value)] =>
      have spelled := SpellsMember.member _ _ [] _ [] [] _ [] no_blanks (quoted_spelled name) no_blanks no_blanks
        (compact_spelled value) no_blanks
      rw [List.append_nil] at spelled
      exact .last _ _ _ spelled
  | (name, value) :: next :: rest =>
      have spelled := SpellsMember.member _ _ [] _ [] [] _ [] no_blanks (quoted_spelled name) no_blanks no_blanks
        (compact_spelled value) no_blanks
      have all := SpellsMembers.more _ _ _ _ _ _ spelled (compact_members_spelled (next :: rest))
      simpa only [membersAsRead, compactMembers, List.nil_append, List.append_nil, List.append_assoc,
        List.cons_append] using all

end

mutual

theorem pretty_spelled (json : Json) (depth : Nat) : Spells (asRead json) (prettyChars depth json) := by
  cases json with
  | null => exact .null
  | bool value => exact .bool value
  | number value => exact .number _ _ (reread_spelled value)
  | string text => exact .string _ _ (quoted_spelled text)
  | array items =>
      have inner := pretty_items_spelled items (depth + 1) depth
      cases items with
      | nil => exact .array _ [] (.empty [] no_blanks)
      | cons item rest => exact .array _ _ inner
  | object members =>
      have inner := pretty_members_spelled members (depth + 1) depth
      cases members with
      | nil => exact .object _ [] (.empty [] no_blanks)
      | cons member rest => exact .object _ _ inner

theorem pretty_items_spelled (items : List Json) (depth outer : Nat) :
    SpellsItems (itemsAsRead items) (prettyItems depth items ++ newLine outer) := by
  match items with
  | [] => exact .empty _ (new_line_blank outer)
  | [item] =>
      have spelled := SpellsItems.last _ _ _ _ (new_line_blank depth) (new_line_blank outer)
        (pretty_spelled item depth)
      rwa [← List.append_assoc] at spelled
  | item :: next :: rest =>
      have behind := pretty_items_spelled (next :: rest) depth outer
      have all := SpellsItems.more _ _ _ _ _ [] _ (new_line_blank depth) no_blanks (pretty_spelled item depth) behind
      simpa only [itemsAsRead, prettyItems, List.nil_append, List.append_assoc, List.cons_append] using all

theorem pretty_members_spelled (members : List (Text × Json)) (depth outer : Nat) :
    SpellsMembers (membersAsRead members) (prettyMembers depth members ++ newLine outer) := by
  match members with
  | [] => exact .empty _ (new_line_blank outer)
  | [(name, value)] =>
      have spelled := SpellsMember.member _ _ _ _ [] _ _ _ (new_line_blank depth) (quoted_spelled name) no_blanks
        one_blank (pretty_spelled value depth) (new_line_blank outer)
      have all := SpellsMembers.last _ _ _ spelled
      simpa only [membersAsRead, prettyMembers, List.nil_append, List.append_assoc, List.cons_append] using all
  | (name, value) :: next :: rest =>
      have spelled := SpellsMember.member _ _ _ _ [] _ _ [] (new_line_blank depth) (quoted_spelled name) no_blanks
        one_blank (pretty_spelled value depth) no_blanks
      have behind := pretty_members_spelled (next :: rest) depth outer
      have all := SpellsMembers.more _ _ _ _ _ _ spelled behind
      simpa only [membersAsRead, prettyMembers, List.nil_append, List.append_nil, List.append_assoc,
        List.cons_append] using all

end

theorem compact_is_text (json : Json) : IsText (asRead json) json.compact :=
  ⟨[], compactChars json, [], no_blanks, compact_spelled json, no_blanks, by simp [compact]⟩

theorem pretty_is_text (json : Json) : IsText (asRead json) json.pretty :=
  ⟨[], prettyChars 0 json, [], no_blanks, pretty_spelled json 0, no_blanks, by simp [pretty]⟩

theorem parse_compact (json : Json) : parse? json.compact = some (asRead json) :=
  parse_document _ _ (compact_is_text json)

end Values

end Floorplan.Json

import Mathlib.Data.List.DropRight
import Floorplan.Number.Fixed
import Floorplan.Proofs.Number.Written

set_option autoImplicit false

namespace Floorplan.Number

open Json (Digits SpellsWhole minusText)

section Ends

variable (c : Char) (s : List Char)

theorem drop_last_other (d : Char) (other : d ≠ c) : dropLast c (s ++ [d]) = s ++ [d] :=
  List.rdropWhile_concat_neg _ _ _ (by simpa using other)

theorem drop_last_repeated (n : Nat) : dropLast c (s ++ List.replicate n c) = dropLast c s := by
  induction n with
  | zero => rw [List.replicate_zero, List.append_nil]
  | succ n ih =>
      rw [List.replicate_succ', ← List.append_assoc, ← ih]
      exact List.rdropWhile_concat_pos _ _ _ BEq.rfl

theorem drop_last_split : ∃ n, s = dropLast c s ++ List.replicate n c := by
  have dropped (d : Char) (inside : d ∈ List.rtakeWhile (· == c) s) : d = c := by
    have same := List.mem_rtakeWhile_imp inside
    exact beq_iff_eq.mp same
  refine ⟨(List.rtakeWhile (· == c) s).length, ?_⟩
  rw [← List.eq_replicate_of_mem dropped]
  exact List.rdropWhile_append_rtakeWhile.symm

theorem drop_last_ends : (dropLast c s).getLast? ≠ some c := by
  intro last
  have given : dropLast c s ≠ [] := by
    intro empty
    rw [empty] at last
    cases last
  rw [List.getLast?_eq_some_getLast given] at last
  exact List.rdropWhile_last_not (· == c) s given (beq_iff_eq.mpr (Option.some.inj last))

end Ends

namespace Written

def stripped (w : Written) : Written := { w with places := dropLast '0' w.places }

def bareZero (negative : Bool) : Written := { negative, whole := ['0'], places := [] }

def compacted (w : Written) : Written := if w.stripped = bareZero true then bareZero false else w.stripped

theorem text_of_places (w : Written) (given : w.places ≠ []) :
    w.text = minusText w.negative ++ (w.whole ++ '.' :: w.places) := by
  obtain ⟨negative, whole, places⟩ := w
  cases places with
  | nil => exact absurd rfl given
  | cons c rest => rfl

variable {w : Written} (proper : w.Proper)

include proper

theorem stripped_proper : w.stripped.Proper where
  whole := proper.whole
  places c inside := proper.places c ((List.rdropWhile_prefix _ _).subset inside)

theorem text_ends :
    ∃ front last, w.text = front ++ [last] ∧ last.isDigit = true ∧ (w.places ≠ [] → w.places.getLast? = some last) := by
  rcases List.eq_nil_or_concat' w.places with none | ⟨rest, last, places⟩
  · obtain ⟨front, last, whole⟩ := (List.eq_nil_or_concat' w.whole).resolve_left proper.whole.1
    refine ⟨minusText w.negative ++ front, last, ?_, proper.whole.2 last (by simp [whole]), absurd none⟩
    rw [text, none, whole, pointed, List.append_nil, List.append_assoc]
  · refine ⟨minusText w.negative ++ (w.whole ++ '.' :: rest), last, ?_, proper.places last (by simp [places]), ?_⟩
    · rw [text_of_places w (by simp [places]), places, List.append_assoc, List.append_assoc, List.cons_append]
    · intro _
      rw [places, List.getLast?_concat]

theorem drop_last_text (given : w.places ≠ []) : dropLast '.' (dropLast '0' w.text) = w.stripped.text := by
  obtain ⟨n, split⟩ := drop_last_split '0' w.places
  obtain ⟨front, last, ends, digit, placed⟩ := text_ends (stripped_proper proper)
  have kept : dropLast '.' (front ++ [last]) = front ++ [last] := by
    apply drop_last_other
    rintro rfl
    exact absurd digit (by decide)
  rw [ends]
  by_cases none : w.stripped.places = []
  · have zeros : w.text = front ++ [last] ++ ['.'] ++ List.replicate n '0' := by
      rw [← ends, text_of_places w given, split, text, none]
      change dropLast '0' w.places = [] at none
      simp [none, stripped, pointed]
    have point := drop_last_repeated '.' (front ++ [last]) 1
    rw [List.replicate_one] at point
    rw [zeros, drop_last_repeated, drop_last_other '0' _ '.' (by decide), point, kept]
  · have zeros : w.text = front ++ [last] ++ List.replicate n '0' := by
      rw [← ends, text_of_places w given, text_of_places w.stripped none, List.append_assoc, List.append_assoc,
        List.cons_append]
      exact congrArg (fun places => minusText w.negative ++ (w.whole ++ '.' :: places)) split
    have other : last ≠ '0' := by
      rintro rfl
      exact drop_last_ends '0' w.places (placed none)
    rw [zeros, drop_last_repeated, drop_last_other '0' front last other, kept]

omit proper in
theorem stripped_size (w : Written) : w.stripped.size = w.size := by
  obtain ⟨n, split⟩ := drop_last_split '0' w.places
  have zeros : (10 : Rat) ^ n ≠ 0 := by positivity
  rw [size, size, stripped]
  conv_rhs => rw [split, digits_value_zeros, List.length_append, List.length_replicate, pow_add, Nat.cast_mul,
    Nat.cast_pow, Nat.cast_ofNat, mul_div_mul_right _ _ zeros]

omit proper in
theorem stripped_value (w : Written) : w.stripped.value = w.value := by
  rw [value, value, stripped_size, stripped]

theorem compact_text (given : w.places ≠ []) : compact w.text = w.compacted.text := by
  simp only [compact, drop_last_text proper given, compacted]
  have bare : w.stripped.text = ['-', '0'] ↔ w.stripped = bareZero true := by
    constructor
    · intro same
      exact text_injective (stripped_proper proper) ⟨Json.digits_spelled 0, nofun⟩ same
    · intro same
      rw [same]
      rfl
  by_cases zero : w.stripped = bareZero true
  · rw [if_pos (bare.mpr zero), if_pos zero]
    rfl
  · rw [if_neg (mt bare.mp zero), if_neg zero]

omit proper in
theorem bare_zero_size (negative : Bool) : (bareZero negative).size = 0 := by
  have zero : digitsValue ['0'] = 0 := rfl
  have nothing : digitsValue [] = 0 := rfl
  rw [size, bareZero, zero, nothing]
  norm_num

omit proper in
theorem compacted_size (w : Written) : w.compacted.size = w.size := by
  rw [← stripped_size w, compacted]
  split
  · next zero => rw [zero, bare_zero_size, bare_zero_size]
  · rfl

-- The one number that loses its sign is a zero.
omit proper in
theorem compacted_value (w : Written) : w.compacted.value = w.value := by
  by_cases zero : w.stripped = bareZero true
  · have size : w.size = 0 := by rw [← stripped_size, zero, bare_zero_size]
    rw [value, value, compacted_size, size, neg_zero, ite_self, ite_self]
  · rw [value, value, compacted_size, compacted, if_neg zero, stripped]

theorem compacted_proper : w.compacted.Proper := by
  rw [compacted]
  split
  · exact ⟨Json.digits_spelled 0, nofun⟩
  · exact stripped_proper proper

omit proper in
theorem bare_of_size_zero (whole : SpellsWhole w.whole) (places : ∀ c ∈ w.places, c.isDigit = true)
    (trailing : w.places.getLast? ≠ some '0') (zero : w.size = 0) : w = bareZero w.negative := by
  have bare : (bareZero w.negative).Proper := ⟨Json.digits_spelled 0, nofun⟩
  have proper : w.Proper := ⟨whole_digits w.whole whole, places⟩
  obtain ⟨wholes, points⟩ := size_parts proper bare (zero.trans (bare_zero_size _).symm)
  have noPlaces : w.places = [] :=
    List.length_eq_zero_iff.mp (Nat.le_zero.mp (places_shortest w.places [] places trailing points))
  have oneDigit : w.whole.length = 1 :=
    le_antisymm (whole_shortest w.whole ['0'] whole bare.whole wholes) (List.length_pos_iff.mpr proper.whole.1)
  have wholeZero : w.whole = ['0'] := digits_value_injective _ _ proper.whole.2 bare.whole.2 oneDigit wholes
  exact Written.ext rfl wholeZero noPlaces

theorem compacted_reduced (whole : SpellsWhole w.whole) : w.compacted.Reduced := by
  rw [compacted]
  split
  · exact ⟨.zero, nofun, nofun, nofun⟩
  · next other =>
    have digits := (stripped_proper proper).places
    have trailing : w.stripped.places.getLast? ≠ some '0' := drop_last_ends '0' w.places
    refine ⟨whole, digits, trailing, fun negative zero => other ?_⟩
    have bare := bare_of_size_zero (w := w.stripped) whole digits trailing zero
    rwa [negative] at bare

end Written

structure ShortestFor (value : Rat) (text : List Char) : Prop where
  denotes : ∀ r, Denotes text r ↔ r = value
  least : ∀ other, Denotes other value → other = text ∨ text.length < other.length
  given : text ≠ []
  signed : text ≠ ['-', '0']
  point : text.getLast? ≠ some '.'
  trailing : '.' ∈ text → text.getLast? ≠ some '0'

section Shortest

variable {w : Written} (reduced : w.Reduced)

include reduced

theorem Written.Reduced.last_digit :
    ∃ c, w.text.getLast? = some c ∧ c.isDigit = true ∧ ('.' ∈ w.text → c ≠ '0') := by
  obtain ⟨front, last, ends, digit, placed⟩ := Written.text_ends reduced.proper
  refine ⟨last, by rw [ends, List.getLast?_concat], digit, ?_⟩
  rintro point rfl
  refine reduced.trailing (placed fun none => ?_)
  rw [Written.text, none, Written.pointed, List.append_nil, List.mem_append] at point
  have inside := point.resolve_left (by cases w.negative <;> decide)
  exact absurd (reduced.proper.whole.2 '.' inside) (by decide)

theorem Written.Reduced.shortest_for : ShortestFor w.value w.text where
  denotes := reduced.proper.denotes_iff
  least := by
    rintro _ ⟨w', proper', rfl, same⟩
    exact (reduced.shortest proper' same.symm).imp_left fun alike => by rw [alike]
  given := by
    obtain ⟨c, last, -⟩ := reduced.last_digit
    intro empty
    rw [empty] at last
    cases last
  signed := by
    intro bare
    have same : w = Written.bareZero true := Written.text_injective reduced.proper ⟨Json.digits_spelled 0, nofun⟩ bare
    have negative : w.negative = true := congrArg Written.negative same
    exact reduced.signed negative (by rw [same, Written.bare_zero_size])
  point := by
    obtain ⟨c, last, digit, -⟩ := reduced.last_digit
    rw [last]
    rintro ⟨⟩
    exact absurd digit (by decide)
  trailing := by
    obtain ⟨c, last, -, other⟩ := reduced.last_digit
    intro pointed zero
    rw [last] at zero
    exact other pointed (Option.some.inj zero)

end Shortest

section Fixed

def ofThousandths (negative : Bool) (n : Nat) : Written where
  negative
  whole := Nat.toDigits 10 (n / 1000)
  places := [Nat.digitChar (n % 1000 / 100), Nat.digitChar (n % 1000 / 10 % 10), Nat.digitChar (n % 1000 % 10)]

theorem digit_char_digit (n : Nat) (small : n < 10) : (Nat.digitChar n).isDigit = true := by
  revert n
  decide

theorem digit_char_value (n : Nat) (small : n < 10) : digitValue (Nat.digitChar n) = n := by
  revert n
  decide

theorem of_thousandths_proper (negative : Bool) (n : Nat) : (ofThousandths negative n).Proper where
  whole := Json.digits_spelled (n / 1000)
  places := by
    rintro c (_ | ⟨_, _ | ⟨_, _ | ⟨_, ⟨⟩⟩⟩⟩) <;> exact digit_char_digit _ (by omega)

theorem of_thousandths_size (negative : Bool) (n : Nat) : (ofThousandths negative n).size = n / 1000 := by
  have whole : digitsValue (Nat.toDigits 10 (n / 1000)) = n / 1000 := by
    rw [digits_value_eq, Nat.ofDigitChars_ten_toDigits]
  have places : digitsValue (ofThousandths negative n).places = n % 1000 := by
    rw [ofThousandths, digits_value_cons, digits_value_cons, digits_value_cons, digit_char_value _ (by omega),
      digit_char_value _ (by omega), digit_char_value _ (by omega)]
    change 10 ^ 2 * _ + (10 ^ 1 * _ + (10 ^ 0 * _ + 0)) = _
    omega
  have divided : n = 1000 * (n / 1000) + n % 1000 := (Nat.div_add_mod n 1000).symm
  rw [Written.size, places]
  change (digitsValue (Nat.toDigits 10 (n / 1000)) : Rat) + _ / 10 ^ 3 = _
  rw [whole]
  conv_rhs => rw [divided, Nat.cast_add, Nat.cast_mul]
  norm_num [add_div]

theorem fixed_text_finite (x : Float) (negative : Bool) (mantissa : Nat) (exponent : Int)
    (finite : Binary64.ofFloat x = .finite negative mantissa exponent) :
    fixedText x = (ofThousandths negative (thousandths mantissa exponent)).text := by
  rw [fixedText, finite]
  cases negative <;> rfl

theorem compact_text_finite (x : Float) (negative : Bool) (mantissa : Nat) (exponent : Int)
    (finite : Binary64.ofFloat x = .finite negative mantissa exponent) :
    (compactText x).toList = (ofThousandths negative (thousandths mantissa exponent)).compacted.text := by
  rw [compactText, String.toList_ofList, fixed_text_finite x negative mantissa exponent finite]
  exact Written.compact_text (of_thousandths_proper negative _) (List.cons_ne_nil _ _)

end Fixed

theorem compact_text_shortest :
    (∀ (x : Float) (negative : Bool) (mantissa : Nat) (exponent : Int),
      Binary64.ofFloat x = .finite negative mantissa exponent →
        let value : Rat :=
          if negative then -(thousandths mantissa exponent / 1000) else thousandths mantissa exponent / 1000
        (∀ r, Denotes (fixedText x) r ↔ r = value) ∧ ShortestFor value (compactText x).toList)
      ∧ ∀ (negative : Bool) (whole places : List Char), Digits whole → Digits places →
        let text := minusText negative ++ (whole ++ '.' :: places)
        (∀ r, Denotes (dropLast '.' (dropLast '0' text)) r ↔ Denotes text r)
          ∧ (∀ r, Denotes (compact text) r ↔ Denotes text r)
          ∧ ∃ kept zeros, places = kept ++ List.replicate zeros '0' ∧ kept.getLast? ≠ some '0'
            ∧ dropLast '.' (dropLast '0' text) = minusText negative ++ (whole ++ Written.pointed kept) := by
  constructor
  · intro x negative mantissa exponent finite
    rw [fixed_text_finite x negative mantissa exponent finite, compact_text_finite x negative mantissa exponent finite]
    generalize thousandths mantissa exponent = n
    intro value
    have proper := of_thousandths_proper negative n
    have same : (ofThousandths negative n).value = value := by
      rw [Written.value, of_thousandths_size]
      rfl
    have shortest := (Written.compacted_reduced proper (Json.whole_spelled (n / 1000))).shortest_for
    rw [Written.compacted_value, same] at shortest
    refine ⟨fun r => ?_, shortest⟩
    rw [proper.denotes_iff, same]
  · intro negative whole places digits digits' text
    have proper : Written.Proper ⟨negative, whole, places⟩ := ⟨digits, digits'.2⟩
    have printed : text = Written.text ⟨negative, whole, places⟩ :=
      (Written.text_of_places ⟨negative, whole, places⟩ digits'.1).symm
    have stripped := Written.drop_last_text proper digits'.1
    refine ⟨fun r => ?_, fun r => ?_, dropLast '0' places, ?_⟩
    · rw [printed, stripped, proper.denotes_iff, (Written.stripped_proper proper).denotes_iff, Written.stripped_value]
    · rw [printed, Written.compact_text proper digits'.1, proper.denotes_iff,
        (Written.compacted_proper proper).denotes_iff, Written.compacted_value]
    · obtain ⟨zeros, split⟩ := drop_last_split '0' places
      refine ⟨zeros, split, drop_last_ends '0' places, ?_⟩
      rw [printed, stripped]
      rfl

theorem hundred_keeps_zeros :
    Binary64.ofFloat 100 = .finite false 0x19000000000000 (-46) ∧ compactText 100 = "100"
      ∧ ShortestFor 100 (compactText 100).toList
      ∧ Digits ['1', '0', '0'] ∧ Digits ['0', '0', '0']
      ∧ ∀ r, Denotes (compact ['1', '0', '0', '.', '0', '0', '0']) r
        ↔ Denotes ['1', '0', '0', '.', '0', '0', '0'] r := by
  have finite : Binary64.ofFloat 100 = .finite false 0x19000000000000 (-46) := by decide +kernel
  have rounded : thousandths 0x19000000000000 (-46) = 100000 := by decide +kernel
  have shortest := (compact_text_shortest.1 100 false _ _ finite).2
  have value : ((thousandths 0x19000000000000 (-46) : Nat) : Rat) / 1000 = 100 := by
    rw [rounded]
    norm_num
  rw [if_neg Bool.false_ne_true, value] at shortest
  have whole : Digits ['1', '0', '0'] := ⟨List.cons_ne_nil _ _, List.all_eq_true.mp rfl⟩
  have places : Digits ['0', '0', '0'] := ⟨List.cons_ne_nil _ _, List.all_eq_true.mp rfl⟩
  exact ⟨finite, by decide +kernel, shortest, whole, places, (compact_text_shortest.2 false _ _ whole places).2.1⟩

example : compactText (-0.0001) = "0" := by decide +kernel

end Floorplan.Number

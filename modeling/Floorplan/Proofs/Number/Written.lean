import Mathlib.Algebra.Order.Field.Basic
import Mathlib.Algebra.Order.Field.Rat
import Mathlib.Data.List.Induction
import Mathlib.Tactic.Linarith
import Mathlib.Tactic.Positivity
import Floorplan.Proofs.Json.Written

set_option autoImplicit false

namespace Floorplan.Number

open Json (Digits SpellsWhole minusText)

section Digits

theorem digits_value_eq (s : List Char) : digitsValue s = Nat.ofDigitChars 10 s 0 := Nat.ofDigitChars_eq_foldl.symm

theorem digits_value_cons (c : Char) (s : List Char) :
    digitsValue (c :: s) = 10 ^ s.length * digitValue c + digitsValue s := by
  rw [digits_value_eq, digits_value_eq, Nat.ofDigitChars_cons, Nat.ofDigitChars_eq_ofDigitChars_zero, Nat.mul_zero,
    Nat.zero_add]
  rfl

theorem digits_value_concat (s : List Char) (c : Char) :
    digitsValue (s ++ [c]) = 10 * digitsValue s + digitValue c := by
  rw [digits_value_eq, digits_value_eq, Nat.ofDigitChars_append, Nat.ofDigitChars_cons, Nat.ofDigitChars_nil]
  rfl

theorem digits_value_zeros (s : List Char) (n : Nat) :
    digitsValue (s ++ List.replicate n '0') = digitsValue s * 10 ^ n := by
  rw [digits_value_eq, digits_value_eq, Nat.ofDigitChars_append, Nat.ofDigitChars_replicate_zero, Nat.mul_comm]

theorem digit_value_lt (c : Char) (digit : c.isDigit = true) : digitValue c < 10 := by
  have high : c.toNat ≤ 57 := (Char.isDigit_iff_toNat.mp digit).2
  change c.toNat - 48 < 10
  omega

theorem digit_value_injective (c d : Char) (first : c.isDigit = true) (second : d.isDigit = true)
    (same : digitValue c = digitValue d) : c = d := by
  have low : 48 ≤ c.toNat := (Char.isDigit_iff_toNat.mp first).1
  have low' : 48 ≤ d.toNat := (Char.isDigit_iff_toNat.mp second).1
  change c.toNat - 48 = d.toNat - 48 at same
  exact Char.toNat_inj.mp (by omega)

theorem digits_value_lt (s : List Char) (digits : ∀ c ∈ s, c.isDigit = true) : digitsValue s < 10 ^ s.length := by
  induction s using List.reverseRecOn with
  | nil => exact Nat.one_pos
  | append_singleton s c ih =>
      have last := digit_value_lt c (digits c (by simp))
      have others := ih fun d inside => digits d (List.mem_append_left _ inside)
      rw [digits_value_concat, List.length_append, List.length_singleton, Nat.pow_succ]
      omega

theorem digits_value_injective (s t : List Char) (first : ∀ c ∈ s, c.isDigit = true)
    (second : ∀ c ∈ t, c.isDigit = true) (length : s.length = t.length) (same : digitsValue s = digitsValue t) :
    s = t := by
  induction s using List.reverseRecOn generalizing t with
  | nil => exact (List.length_eq_zero_iff.mp length.symm).symm
  | append_singleton s c ih =>
      rcases List.eq_nil_or_concat' t with rfl | ⟨t, d, rfl⟩
      · simp at length
      · have digit := first c (by simp)
        have digit' := second d (by simp)
        have small := digit_value_lt c digit
        have small' := digit_value_lt d digit'
        rw [digits_value_concat, digits_value_concat] at same
        have front : s = t := ih t (fun x inside => first x (List.mem_append_left _ inside))
          (fun x inside => second x (List.mem_append_left _ inside)) (by simpa using length) (by omega)
        rw [front, digit_value_injective c d digit digit' (by omega)]

theorem last_zero_of_multiple (s : List Char) (digits : ∀ c ∈ s, c.isDigit = true) (given : s ≠ [])
    (multiple : digitsValue s % 10 = 0) : s.getLast? = some '0' := by
  rcases List.eq_nil_or_concat' s with rfl | ⟨s, c, rfl⟩
  · exact absurd rfl given
  · have digit := digits c (by simp)
    have small := digit_value_lt c digit
    have zero : digitValue '0' = 0 := rfl
    rw [digits_value_concat] at multiple
    rw [digit_value_injective c '0' digit rfl (by omega), List.getLast?_concat]

theorem whole_digits (s : List Char) (spelled : SpellsWhole s) : Digits s := by
  cases spelled with
  | zero => exact Json.digits_spelled 0
  | digits _ proper _ => exact proper

theorem whole_shortest (s t : List Char) (spelled : SpellsWhole s) (digits : Digits t)
    (same : digitsValue s = digitsValue t) : s.length ≤ t.length := by
  cases spelled with
  | zero => exact List.length_pos_iff.mpr digits.1
  | digits _ proper leading =>
      obtain ⟨c, rest, rfl⟩ := List.exists_cons_of_ne_nil proper.1
      have positive : digitValue c ≠ 0 := by
        intro zero
        exact leading (congrArg some (digit_value_injective c '0' (proper.2 c List.mem_cons_self) rfl zero))
      have least : 10 ^ rest.length ≤ 10 ^ rest.length * digitValue c := Nat.le_mul_of_pos_right _ (by omega)
      have small := digits_value_lt t digits.2
      rw [← same, digits_value_cons] at small
      have fewer : 10 ^ rest.length < 10 ^ t.length := by omega
      exact (Nat.pow_lt_pow_iff_right (by decide)).mp fewer

theorem places_shortest (s t : List Char) (digits : ∀ c ∈ s, c.isDigit = true) (trailing : s.getLast? ≠ some '0')
    (same : digitsValue s * 10 ^ t.length = digitsValue t * 10 ^ s.length) : s.length ≤ t.length := by
  by_contra longer
  have length : s.length = (s.length - t.length - 1) + 1 + t.length := by omega
  have given : s ≠ [] := by
    rintro rfl
    simp at longer
  apply trailing
  apply last_zero_of_multiple s digits given
  rw [length, Nat.pow_add, ← Nat.mul_assoc] at same
  rw [Nat.eq_of_mul_eq_mul_right (Nat.pow_pos (by decide)) same, Nat.pow_succ, ← Nat.mul_assoc]
  exact Nat.mul_mod_left _ 10

end Digits

@[ext] structure Written where
  negative : Bool
  whole : List Char
  places : List Char
deriving DecidableEq

namespace Written

def pointed : List Char → List Char
  | [] => []
  | places => '.' :: places

def text (w : Written) : List Char := minusText w.negative ++ (w.whole ++ pointed w.places)

def size (w : Written) : Rat := digitsValue w.whole + digitsValue w.places / 10 ^ w.places.length

def value (w : Written) : Rat := if w.negative then -w.size else w.size

structure Proper (w : Written) : Prop where
  whole : Digits w.whole
  places : ∀ c ∈ w.places, c.isDigit = true

structure Reduced (w : Written) : Prop where
  whole : SpellsWhole w.whole
  places : ∀ c ∈ w.places, c.isDigit = true
  trailing : w.places.getLast? ≠ some '0'
  signed : w.negative = true → w.size ≠ 0

end Written

def Denotes (text : List Char) (value : Rat) : Prop := ∃ w : Written, w.Proper ∧ w.text = text ∧ w.value = value

namespace Written

theorem Reduced.proper {w : Written} (reduced : w.Reduced) : w.Proper :=
  ⟨whole_digits w.whole reduced.whole, reduced.places⟩

section Text

theorem pointed_no_digit (places : List Char) : Json.NoDigit (pointed places) := by
  cases places with
  | nil => nofun
  | cons c rest => exact Json.no_digit_cons '.' _ rfl

theorem pointed_injective (s t : List Char) (same : pointed s = pointed t) : s = t := by
  cases s <;> cases t <;> simp_all [pointed]

theorem text_length (w : Written) : w.text.length
    = w.negative.toNat + w.whole.length + if w.places.length = 0 then 0 else w.places.length + 1 := by
  obtain ⟨negative, whole, places⟩ := w
  cases negative <;> cases places <;> simp [text, minusText, pointed] <;> omega

theorem text_injective {w w' : Written} (proper : w.Proper) (proper' : w'.Proper) (same : w.text = w'.text) :
    w = w' := by
  obtain ⟨negative, whole, places⟩ := w
  obtain ⟨negative', whole', places'⟩ := w'
  have unsigned (whole places rest : List Char) (digits : Digits whole) :
      whole ++ pointed places ≠ '-' :: rest := by
    obtain ⟨c, others, rfl⟩ := List.exists_cons_of_ne_nil digits.1
    intro signed
    obtain rfl := (List.cons.inj signed).1
    exact absurd (digits.2 '-' List.mem_cons_self) (by decide)
  have signs : negative = negative' := by
    cases negative <;> cases negative'
    · rfl
    · exact absurd same (unsigned whole places _ proper.whole)
    · exact absurd same.symm (unsigned whole' places' _ proper'.whole)
    · rfl
  subst signs
  have cut := Json.span_digits whole (pointed places) proper.whole.2 (pointed_no_digit places)
  rw [List.append_cancel_left same,
    Json.span_digits whole' (pointed places') proper'.whole.2 (pointed_no_digit places')] at cut
  obtain ⟨rfl, points⟩ := Prod.mk.inj cut
  rw [pointed_injective places' places points]

theorem denotes_unique {text : List Char} {q r : Rat} (first : Denotes text q) (second : Denotes text r) : q = r := by
  obtain ⟨w, proper, written, rfl⟩ := first
  obtain ⟨w', proper', rfl, rfl⟩ := second
  rw [text_injective proper proper' written]

theorem Proper.denotes_iff {w : Written} (proper : w.Proper) (r : Rat) : Denotes w.text r ↔ r = w.value :=
  ⟨fun read => denotes_unique read ⟨w, proper, rfl, rfl⟩, fun same => ⟨w, proper, rfl, same.symm⟩⟩

end Text

section Value

theorem places_lt_one {w : Written} (proper : w.Proper) :
    0 ≤ (digitsValue w.places : Rat) / 10 ^ w.places.length
      ∧ (digitsValue w.places : Rat) / 10 ^ w.places.length < 1 := by
  have positive : (0 : Rat) < 10 ^ w.places.length := by positivity
  have small : (digitsValue w.places : Rat) < 10 ^ w.places.length := by
    exact_mod_cast digits_value_lt w.places proper.places
  exact ⟨by positivity, (div_lt_one positive).mpr small⟩

theorem size_nonneg (w : Written) : 0 ≤ w.size := by
  rw [size]
  positivity

theorem abs_value (w : Written) : |w.value| = w.size := by
  rw [value]
  split
  · rw [abs_neg, abs_of_nonneg w.size_nonneg]
  · exact abs_of_nonneg w.size_nonneg

theorem size_parts {w w' : Written} (proper : w.Proper) (proper' : w'.Proper) (same : w.size = w'.size) :
    digitsValue w.whole = digitsValue w'.whole
      ∧ digitsValue w.places * 10 ^ w'.places.length = digitsValue w'.places * 10 ^ w.places.length := by
  obtain ⟨low, high⟩ := places_lt_one proper
  obtain ⟨low', high'⟩ := places_lt_one proper'
  rw [size, size] at same
  have whole : digitsValue w.whole = digitsValue w'.whole := by
    have below : (digitsValue w.whole : Rat) < digitsValue w'.whole + 1 := by linarith
    have above : (digitsValue w'.whole : Rat) < digitsValue w.whole + 1 := by linarith
    have below : digitsValue w.whole < digitsValue w'.whole + 1 := by exact_mod_cast below
    have above : digitsValue w'.whole < digitsValue w.whole + 1 := by exact_mod_cast above
    omega
  refine ⟨whole, ?_⟩
  rw [whole, add_right_inj, div_eq_div_iff (by positivity) (by positivity)] at same
  exact_mod_cast same

theorem Reduced.shortest {w w' : Written} (reduced : w.Reduced) (proper' : w'.Proper) (same : w.value = w'.value) :
    w = w' ∨ w.text.length < w'.text.length := by
  have proper := reduced.proper
  have size : w.size = w'.size := by rw [← abs_value, ← abs_value, same]
  obtain ⟨wholes, points⟩ := size_parts proper proper' size
  have whole := whole_shortest w.whole w'.whole reduced.whole proper'.whole wholes
  have places := places_shortest w.places w'.places proper.places reduced.trailing points
  have sign : w.negative = true → w'.negative = true := by
    intro negative
    have positive := lt_of_le_of_ne w.size_nonneg (reduced.signed negative).symm
    by_contra unsigned
    rw [value, value, if_pos negative, if_neg unsigned] at same
    linarith
  have signs : w.negative.toNat ≤ w'.negative.toNat := by
    cases negative : w.negative with
    | false => exact Nat.zero_le _
    | true => rw [sign negative]
  by_cases alike : w.negative.toNat = w'.negative.toNat ∧ w.whole.length = w'.whole.length
      ∧ w.places.length = w'.places.length
  · left
    obtain ⟨sameSign, wholeLength, placesLength⟩ := alike
    rw [placesLength] at points
    have sameWhole := digits_value_injective _ _ proper.whole.2 proper'.whole.2 wholeLength wholes
    have samePlaces := digits_value_injective _ _ proper.places proper'.places placesLength
      (Nat.eq_of_mul_eq_mul_right (Nat.pow_pos (by decide)) points)
    have sameNegative : w.negative = w'.negative := by
      cases negative : w.negative with
      | true => exact (sign negative).symm
      | false =>
          rw [negative] at sameSign
          exact (Bool.toNat_eq_zero.mp sameSign.symm).symm
    exact Written.ext sameNegative sameWhole samePlaces
  · right
    rw [text_length, text_length]
    split <;> split <;> omega

end Value

end Written

end Floorplan.Number

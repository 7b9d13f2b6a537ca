import Floorplan.Json.Form
import Floorplan.Proofs.Json.Written

set_option autoImplicit false

namespace Floorplan

namespace Json

open Number (digitValue)
open Token (fill numeral)

def RoundTrips {β : Type} [JsonForm β] (x : β) : Prop :=
  (parse? (JsonForm.write x).compact).bind JsonForm.read? = some x

variable {β γ : Type} [JsonForm β] [JsonForm γ]

theorem round_trips_iff (x : β) : RoundTrips x ↔ JsonForm.read? (asRead (JsonForm.write x)) = some x := by
  rw [RoundTrips, parse_compact, Option.bind_some]

theorem items_as_read (items : List Json) : itemsAsRead items = items.map asRead := by
  induction items with
  | nil => rfl
  | cons item rest ih => exact congrArg (asRead item :: ·) ih

theorem digits_grow (digits : List Char) (n : Nat) : n ≤ Nat.ofDigitChars 10 digits n := by
  rw [Nat.ofDigitChars_eq_ofDigitChars_zero]
  exact Nat.le_add_right_of_le (Nat.le_mul_of_pos_left n (Nat.pow_pos (Nat.succ_pos 9)))

theorem fill_fits (digits : List Char) (n : Nat) (fits : Nat.ofDigitChars 10 digits n < 1 <<< 64) :
    fill n digits = (Nat.ofDigitChars 10 digits n, 0) := by
  induction digits generalizing n with
  | nil => rfl
  | cons c rest ih =>
      rw [Nat.ofDigitChars_cons] at fits ⊢
      have small : 10 * n + digitValue c < 1 <<< 64 := Nat.lt_of_le_of_lt (digits_grow rest _) fits
      rw [fill, if_pos small]
      exact ih _ fits

theorem reread_whole (negative : Bool) (n : Nat) (fits : n < 1 <<< 64) :
    (Numeral.whole negative n).reread = .whole negative n := by
  have value : numeral negative (Nat.toDigits 10 n) none none = .whole negative n := by
    have filled := fill_fits (Nat.toDigits 10 n) 0 (by rwa [Nat.ofDigitChars_ten_toDigits])
    rw [numeral, filled, Nat.ofDigitChars_ten_toDigits]
    rfl
  apply reread_eq
  have spelled := SpellsNumber.number negative _ none [] none [] (whole_spelled n) .absent .absent
  rw [value, List.append_nil, List.append_nil] at spelled
  cases negative <;> exact spelled

theorem count_as_read (n bound : Nat) (fits : n ≤ bound) (word : bound < 1 <<< 64) :
    countUpTo? bound (asRead (ofNat n)) = some n := by
  rw [ofNat, asRead, reread_whole false n (Nat.lt_of_le_of_lt fits word), countUpTo?, wholeIn?,
    if_pos (Int.ofNat_le.mpr fits)]
  rfl

theorem whole_as_read (i lo hi : Int) (low : lo ≤ i) (high : i ≤ hi) (word : i.natAbs < 1 <<< 64) :
    wholeIn? lo hi (asRead (ofInt i)) = some i := by
  rw [ofInt, asRead, reread_whole _ _ word]
  by_cases negative : i < 0
  · rw [decide_eq_true negative, wholeIn?, if_pos (by omega)]
    exact congrArg some (by omega)
  · rw [decide_eq_false negative, wholeIn?, if_pos (by omega)]
    exact congrArg some (by omega)

theorem whole_within (json : Json) (lo hi i : Int) (below : lo ≤ 0) (above : 0 ≤ hi)
    (run : wholeIn? lo hi json = some i) : lo ≤ i ∧ i ≤ hi := by
  rw [wholeIn?.eq_def] at run
  split at run
  next magnitude =>
    split at run
    · cases run
      omega
    · cases run
  next magnitude =>
    split at run
    · cases run
      omega
    · cases run
  · cases run

theorem count_within (json : Json) (bound n : Nat) (run : countUpTo? bound json = some n) : n ≤ bound := by
  obtain ⟨i, read, rfl⟩ := Option.map_eq_some_iff.mp run
  have within := whole_within json 0 bound i (Int.le_refl 0) (Int.natCast_nonneg bound) read
  omega

theorem word32_round_trips (n : UInt32) : RoundTrips n := by
  have read := count_as_read n.toNat ((1 <<< 32) - 1) (Nat.le_pred_of_lt n.toNat_lt) (by decide)
  rw [round_trips_iff]
  change (countUpTo? ((1 <<< 32) - 1) (asRead (ofNat n.toNat))).map UInt32.ofNat = _
  rw [read, Option.map_some, UInt32.ofNat_toNat]

theorem word64_round_trips (n : UInt64) : RoundTrips n := by
  have read := count_as_read n.toNat ((1 <<< 64) - 1) (Nat.le_pred_of_lt n.toNat_lt) (by decide)
  rw [round_trips_iff]
  change (countUpTo? ((1 <<< 64) - 1) (asRead (ofNat n.toNat))).map UInt64.ofNat = _
  rw [read, Option.map_some, UInt64.ofNat_toNat]

theorem pair_round_trips (a : β) (b : γ) (first : RoundTrips a) (second : RoundTrips b) :
    RoundTrips (a, b) := by
  rw [round_trips_iff] at first second ⊢
  change pair? JsonForm.read? JsonForm.read? (.array [asRead (JsonForm.write a), asRead (JsonForm.write b)]) = _
  rw [pair?, first, second]
  rfl

theorem list_round_trips (items : List β) (each : ∀ item ∈ items, RoundTrips item) : RoundTrips items := by
  rw [round_trips_iff]
  change list? JsonForm.read? (.array (itemsAsRead (items.map JsonForm.write))) = _
  rw [items_as_read, list?, List.mapM_map, List.mapM_map]
  induction items with
  | nil => rfl
  | cons item rest ih =>
      have first := (round_trips_iff item).mp (each item List.mem_cons_self)
      have others := ih fun other inside => each other (List.mem_cons_of_mem item inside)
      rw [List.mapM_cons, others]
      change (JsonForm.read? (asRead (JsonForm.write item))).bind _ = _
      rw [first]
      rfl

theorem items_read (items : List Json) (list : List β) (run : items.mapM JsonForm.read? = some list) :
    ∀ x ∈ list, ∃ item, JsonForm.read? item = some x := by
  induction items generalizing list with
  | nil =>
      cases run
      exact fun _ inside => absurd inside List.not_mem_nil
  | cons item rest ih =>
      rw [List.mapM_cons] at run
      obtain ⟨first, firstRead, run⟩ := Option.bind_eq_some_iff.mp run
      obtain ⟨others, othersRead, run⟩ := Option.bind_eq_some_iff.mp run
      cases run
      exact List.forall_mem_cons.mpr ⟨⟨item, firstRead⟩, ih others othersRead⟩

theorem named_round_trips {δ : Type} [Named δ] [JsonForm δ] (writes : ∀ x : δ, JsonForm.write x = Named.write x)
    (reads : ∀ json, (JsonForm.read? json : Option δ) = Named.read? json) (x : δ)
    (found : Named.ofName? (Named.name x) = some x) : RoundTrips x := by
  rw [round_trips_iff, writes, reads]
  exact found

end Json

end Floorplan

import Mathlib.Data.List.Basic
import Mathlib.Data.List.TakeWhile
import Floorplan.Text.Blank
import Floorplan.Text.Split

set_option autoImplicit false

namespace Floorplan.Text

def Cut (separator : Char) (text : List Char) (parts : List (List Char)) : Prop :=
  parts ≠ [] ∧ (∀ part ∈ parts, separator ∉ part) ∧ text = [separator].intercalate parts

theorem split_on_nonempty (separator : Char) (text : List Char) : splitOn separator text ≠ [] := by
  cases text with
  | nil => exact List.cons_ne_nil _ _
  | cons c rest =>
      rw [splitOn]
      split
      · exact List.cons_ne_nil _ _
      · split <;> exact List.cons_ne_nil _ _

theorem split_on_cons (separator c : Char) (rest : List Char) :
    ∃ part parts, splitOn separator rest = part :: parts
      ∧ splitOn separator (c :: rest) = if c = separator then [] :: part :: parts else (c :: part) :: parts := by
  obtain ⟨part, parts, split⟩ := List.exists_cons_of_ne_nil (split_on_nonempty separator rest)
  exact ⟨part, parts, split, by rw [splitOn, split]⟩

theorem intercalate_push (separator c : Char) (part : List Char) (parts : List (List Char)) :
    [separator].intercalate ((c :: part) :: parts) = c :: [separator].intercalate (part :: parts) := by
  cases parts <;> simp [List.intercalate]

theorem intercalate_part (separator : Char) (part next : List Char) (parts : List (List Char)) :
    [separator].intercalate (part :: next :: parts) =
      part ++ separator :: [separator].intercalate (next :: parts) := by
  simp [List.intercalate]

theorem mem_joined (separator c : Char) (parts : List (List Char)) (inside : c ∈ [separator].intercalate parts) :
    c = separator ∨ ∃ part ∈ parts, c ∈ part := by
  induction parts with
  | nil => cases inside
  | cons part rest ih =>
      cases rest with
      | nil =>
          rw [List.intercalate_singleton] at inside
          exact .inr ⟨part, List.mem_cons_self, inside⟩
      | cons next parts =>
          rw [intercalate_part, List.mem_append, List.mem_cons] at inside
          rcases inside with inside | rfl | inside
          · exact .inr ⟨part, List.mem_cons_self, inside⟩
          · exact .inl rfl
          · obtain same | ⟨other, listed, within⟩ := ih inside
            · exact .inl same
            · exact .inr ⟨other, List.mem_cons_of_mem _ listed, within⟩

theorem split_on_cut (separator : Char) (text : List Char) : Cut separator text (splitOn separator text) := by
  induction text with
  | nil => exact ⟨List.cons_ne_nil _ _, by simp [splitOn], rfl⟩
  | cons c rest ih =>
      obtain ⟨part, parts, before, after⟩ := split_on_cons separator c rest
      rw [before] at ih
      obtain ⟨_, without, whole⟩ := ih
      rw [after]
      by_cases cut : c = separator
      · subst cut
        rw [if_pos rfl]
        exact ⟨List.cons_ne_nil _ _, by simpa using without, by rw [whole, intercalate_part, List.nil_append]⟩
      · rw [if_neg cut]
        refine ⟨List.cons_ne_nil _ _, ?_, by rw [whole, intercalate_push]⟩
        simpa [Ne.symm cut] using without

theorem split_on_plain (separator : Char) (part : List Char) (without : separator ∉ part) :
    splitOn separator part = [part] := by
  induction part with
  | nil => rfl
  | cons c rest ih =>
      obtain ⟨different, others⟩ := List.ne_and_not_mem_of_not_mem_cons without
      rw [splitOn, ih others]
      exact if_neg (Ne.symm different)

theorem split_on_part (separator : Char) (part text : List Char) (without : separator ∉ part) :
    splitOn separator (part ++ separator :: text) = part :: splitOn separator text := by
  induction part with
  | nil =>
      obtain ⟨_, _, before, after⟩ := split_on_cons separator separator text
      rw [List.nil_append, after, if_pos rfl, before]
  | cons c rest ih =>
      obtain ⟨different, others⟩ := List.ne_and_not_mem_of_not_mem_cons without
      rw [List.cons_append, splitOn, ih others]
      exact if_neg (Ne.symm different)

theorem Cut.eq_split_on {separator : Char} {text : List Char} {parts : List (List Char)}
    (cut : Cut separator text parts) : parts = splitOn separator text := by
  obtain ⟨nonempty, without, rfl⟩ := cut
  induction parts with
  | nil => exact absurd rfl nonempty
  | cons part rest ih =>
      have plain := without part List.mem_cons_self
      cases rest with
      | nil =>
          rw [List.intercalate_singleton]
          exact (split_on_plain separator part plain).symm
      | cons next parts =>
          have others := ih (List.cons_ne_nil _ _) fun other listed => without other (List.mem_cons_of_mem part listed)
          rw [intercalate_part, split_on_part separator part _ plain, ← others]

theorem split_once_found (test : Char → Bool) (before after : List Char) (c : Char)
    (passed : ∀ d ∈ before, test d = false) (found : test c = true) :
    splitOnce test (before ++ c :: after) = some (before, after) := by
  induction before with
  | nil => exact if_pos found
  | cons d rest ih =>
      have failed := passed d List.mem_cons_self
      rw [List.cons_append, splitOnce, ih fun other listed => passed other (List.mem_cons_of_mem d listed), failed]
      rfl

theorem split_once_parts (test : Char → Bool) (text before after : List Char)
    (split : splitOnce test text = some (before, after)) :
    ∃ c, text = before ++ c :: after ∧ test c = true := by
  induction text generalizing before with
  | nil => cases split
  | cons c rest ih =>
      rw [splitOnce] at split
      split at split
      next found =>
        cases split
        exact ⟨c, rfl, found⟩
      next passed =>
        obtain ⟨⟨front, back⟩, found, same⟩ := Option.map_eq_some_iff.mp split
        cases same
        obtain ⟨d, rfl, cross⟩ := ih front found
        exact ⟨d, rfl, cross⟩

def Blanks (s : List Char) : Prop := ∀ c ∈ s, isBlank c = true

def Bare (s : List Char) : Prop := (∀ c ∈ s.head?, isBlank c = false) ∧ ∀ c ∈ s.getLast?, isBlank c = false

theorem blanks_append (s t : List Char) (first : Blanks s) (second : Blanks t) : Blanks (s ++ t) := by
  intro c inside
  exact (List.mem_append.mp inside).elim (first c) (second c)

theorem bare_join (s middle t : List Char) (first : Bare s) (left : s ≠ []) (last : Bare t) (right : t ≠ []) :
    Bare (s ++ (middle ++ t)) := by
  constructor
  · rw [List.head?_append_of_ne_nil _ left]
    exact first.1
  · rw [← List.append_assoc, List.getLast?_append_of_ne_nil _ right]
    exact last.2

theorem drop_blanks (blanks s : List Char) (left : Blanks blanks) (bare : ∀ c ∈ s.head?, isBlank c = false) :
    (blanks ++ s).dropWhile isBlank = s := by
  rw [List.dropWhile_append_of_pos left]
  cases s with
  | nil => rfl
  | cons c rest => exact List.dropWhile_cons_of_neg (by simp [bare c rfl])

theorem trimmed_between (before core after : List Char) (left : Blanks before) (right : Blanks after)
    (bare : Bare core) (given : core ≠ []) : trimmed (before ++ (core ++ after)) = core := by
  have front : ∀ c ∈ (core ++ after).head?, isBlank c = false := by
    rw [List.head?_append_of_ne_nil _ given]
    exact bare.1
  have back : ∀ c ∈ core.reverse.head?, isBlank c = false := by
    rw [List.head?_reverse]
    exact bare.2
  have turned : Blanks after.reverse := fun c inside => right c (List.mem_reverse.mp inside)
  rw [trimmed, drop_blanks before _ left front, List.reverse_append, drop_blanks _ _ turned back,
    List.reverse_reverse]

theorem trimmed_spaced (s : List Char) :
    ∃ before after, Blanks before ∧ Blanks after ∧ s = before ++ (trimmed s ++ after) := by
  have blank (t : List Char) : Blanks (t.takeWhile isBlank) := fun c inside => List.mem_takeWhile_imp inside
  refine ⟨s.takeWhile isBlank, ((s.dropWhile isBlank).reverse.takeWhile isBlank).reverse, blank s,
    fun c inside => blank _ c (List.mem_reverse.mp inside), ?_⟩
  rw [trimmed, ← List.reverse_append, List.takeWhile_append_dropWhile, List.reverse_reverse,
    List.takeWhile_append_dropWhile]

theorem trimmed_eq_nil_iff (s : List Char) : trimmed s = [] ↔ Blanks s := by
  constructor
  · intro empty
    obtain ⟨before, after, left, right, whole⟩ := trimmed_spaced s
    rw [empty, List.nil_append] at whole
    rw [whole]
    exact blanks_append before after left right
  · intro blank
    rw [trimmed, List.dropWhile_eq_nil_iff.mpr blank]
    rfl

end Floorplan.Text

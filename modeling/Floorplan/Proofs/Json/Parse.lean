import Floorplan.Json.Reader
import Floorplan.Proofs.Json.Scan

set_option autoImplicit false

namespace Floorplan.Json

open Reading (complete step)

def Hands (found : List Token) (waiting : Reading) (value : Json) (stack : List Frame) : Prop :=
  ∀ rest, (found ++ rest).foldlM step waiting = rest.foldlM step (complete value stack)

theorem leaf_handed (token : Token) (value : Json) (stack : List Frame)
    (leaf : step { expect := .value, stack } token = some (complete value stack)) :
    Hands [token] { expect := .value, stack } value stack := by
  intro rest
  rw [List.singleton_append, List.foldlM_cons, leaf]
  rfl

theorem tokens_begin (json : Json) : ∃ token rest, tokens json = token :: rest ∧ token ≠ .closeArray := by
  cases json <;> exact ⟨_, _, rfl, by simp⟩

theorem item_tokens_begin (item : Json) (rest : List Json) :
    ∃ token others, itemTokens (item :: rest) = token :: others ∧ token ≠ .closeArray := by
  obtain ⟨token, others, shape, other⟩ := tokens_begin item
  cases rest with
  | nil => exact ⟨token, others, by rw [itemTokens, shape], other⟩
  | cons next rest => exact ⟨token, _, by rw [itemTokens, shape, List.cons_append], other⟩

theorem first_item_step (token : Token) (stack : List Frame) (other : token ≠ .closeArray) :
    step { expect := .itemOrEnd, stack } token = step { expect := .value, stack := .item [] :: stack } token := by
  cases token <;> first | rfl | exact absurd rfl other

theorem member_tokens_begin (member : Text × Json) (rest : List (Text × Json)) :
    ∃ others, memberTokens (member :: rest) = .string member.1 :: others := by
  cases rest with
  | nil => exact ⟨_, by rw [memberTokens]⟩
  | cons next rest => exact ⟨_, by rw [memberTokens]⟩

mutual

theorem tokens_handed (json : Json) (stack : List Frame) :
    Hands (tokens json) { expect := .value, stack } json stack := by
  cases json with
  | null => exact leaf_handed .null .null stack rfl
  | bool value => exact leaf_handed (.bool value) (.bool value) stack rfl
  | number value => exact leaf_handed (.number value) (.number value) stack rfl
  | string text => exact leaf_handed (.string text) (.string text) stack rfl
  | array items =>
      intro rest
      have inner := items_handed items [] stack rest
      match items with
      | [] => rfl
      | item :: others =>
          obtain ⟨token, tail, shape, other⟩ := item_tokens_begin item others
          have read := inner (List.cons_ne_nil item others)
          rw [shape, List.cons_append, List.foldlM_cons, ← first_item_step token stack other] at read
          rw [tokens, shape, List.cons_append, List.append_assoc]
          exact read
  | object members =>
      intro rest
      have inner := members_handed members [] stack rest
      match members with
      | [] => rfl
      | member :: others =>
          obtain ⟨tail, shape⟩ := member_tokens_begin member others
          have read := inner (List.cons_ne_nil member others)
          rw [shape] at read
          rw [tokens, shape, List.cons_append, List.append_assoc]
          exact read

theorem items_handed (items before : List Json) (stack : List Frame) (rest : List Token) (given : items ≠ []) :
    (itemTokens items ++ .closeArray :: rest).foldlM step { expect := .value, stack := .item before :: stack }
      = rest.foldlM step (complete (.array (before.reverse ++ items)) stack) := by
  match items with
  | [] => exact absurd rfl given
  | [item] =>
      rw [itemTokens, tokens_handed item (.item before :: stack), ← List.reverse_cons]
      rfl
  | item :: next :: others =>
      rw [itemTokens, List.append_assoc, tokens_handed item (.item before :: stack),
        List.append_cons before.reverse, ← List.reverse_cons]
      exact items_handed (next :: others) (item :: before) stack rest (List.cons_ne_nil next others)

theorem members_handed (members before : List (Text × Json)) (stack : List Frame) (rest : List Token)
    (given : members ≠ []) :
    (memberTokens members ++ .closeObject :: rest).foldlM step { expect := .name before, stack }
      = rest.foldlM step (complete (.object (before.reverse ++ members)) stack) := by
  match members with
  | [] => exact absurd rfl given
  | [(name, value)] =>
      have read := tokens_handed value (.member before name :: stack) (.closeObject :: rest)
      rw [memberTokens, ← List.reverse_cons]
      exact read
  | (name, value) :: next :: others =>
      have read := tokens_handed value (.member before name :: stack)
        (.comma :: (memberTokens (next :: others) ++ .closeObject :: rest))
      have behind := members_handed (next :: others) ((name, value) :: before) stack rest
        (List.cons_ne_nil next others)
      rw [memberTokens, List.append_cons before.reverse, ← List.reverse_cons, ← behind]
      simp only [List.cons_append, List.append_assoc]
      exact read

end

theorem parse_document (json : Json) (text : String) (spelled : IsText json text) : parse? text = some json := by
  have read := tokens_handed json [] []
  rw [List.append_nil] at read
  rw [parse?, scan_document json text spelled]
  change ((tokens json).foldlM step Reading.start).bind Reading.result? = _
  rw [Reading.start, read]
  rfl

end Floorplan.Json

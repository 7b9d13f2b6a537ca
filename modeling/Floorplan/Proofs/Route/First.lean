import Floorplan.Proofs.Route.Call

set_option autoImplicit false

namespace Floorplan

open Floorplan.Random (Draw Rng)

variable {α σ : Type} [Coord α]

def firstOffer (rules : RouteRules α) (strategy : Strategy α σ) (edge : Edge α) (board : RouteBoard α) :
    (left attempt : Nat) → σ → Draw (Option (Proposal α) × σ)
  | 0, _, inner => pure (none, inner)
  | left + 1, attempt, inner => do
    let (offer, inner) ← strategy.propose (rules.context board) edge.a edge.b attempt inner
    match offer with
    | some proposal => pure (some proposal, inner)
    | none => firstOffer rules strategy edge board left (attempt + 1) inner

omit [Coord α] in
theorem first_offer_cases (rules : RouteRules α) (strategy : Strategy α σ) (edge : Edge α) (board : RouteBoard α)
    (inner : σ)
    (steady : ∀ attempt rng, ((strategy.propose (rules.context board) edge.a edge.b attempt inner).run rng).1.2 = inner)
    (left attempt : Nat) (rng : Rng) :
    let ask := fun k rng => ((strategy.propose (rules.context board) edge.a edge.b k inner).run rng).1.1
    let answer := ((firstOffer rules strategy edge board left attempt inner).run rng).1
    answer.2 = inner ∧ match answer.1 with
      | none => ∀ k, attempt ≤ k → k < attempt + left → ∃ rng, ask k rng = none
      | some proposal => ∃ k, attempt ≤ k ∧ k < attempt + left ∧ (∃ rng, ask k rng = some proposal)
        ∧ ∀ j, attempt ≤ j → j < k → ∃ rng, ask j rng = none := by
  intro ask
  induction left generalizing attempt rng with
  | zero => exact ⟨rfl, fun k low high => absurd (Nat.lt_of_le_of_lt low high) (Nat.lt_irrefl attempt)⟩
  | succ left ih =>
      have asked : ask attempt rng = (((strategy.propose (rules.context board) edge.a edge.b attempt inner).run rng)).1.1 :=
        rfl
      have same := steady attempt rng
      simp only [firstOffer, draw_run_bind]
      generalize (strategy.propose (rules.context board) edge.a edge.b attempt inner).run rng = first at asked same ⊢
      obtain ⟨⟨offer, next⟩, rng'⟩ := first
      obtain rfl : inner = next := same.symm
      cases offer with
      | some proposal =>
          refine ⟨rfl, attempt, Nat.le_refl _, by omega, ⟨rng, asked⟩, fun j low high => ?_⟩
          exact absurd (Nat.lt_of_le_of_lt low high) (Nat.lt_irrefl attempt)
      | none =>
          obtain ⟨kept, later⟩ := ih (attempt + 1) rng'
          have failed : ∀ j, attempt ≤ j → j < attempt + 1 → ∃ rng, ask j rng = none := by
            intro j low high
            obtain rfl : attempt = j := by omega
            exact ⟨rng, asked⟩
          refine ⟨kept, ?_⟩
          simp only
          generalize ((firstOffer rules strategy edge board left (attempt + 1) inner).run rng').1.1 = found at later ⊢
          cases found with
          | none =>
              intro k low high
              rcases Nat.lt_or_ge k (attempt + 1) with here | beyond
              · exact failed k low here
              · exact later k beyond (by omega)
          | some proposal =>
              obtain ⟨k, low, high, offered, earlier⟩ := later
              refine ⟨k, by omega, by omega, offered, fun j jLow jHigh => ?_⟩
              rcases Nat.lt_or_ge j (attempt + 1) with here | beyond
              · exact failed j jLow here
              · exact earlier j beyond jHigh

def committing (strategy : Strategy α σ) (edge : Edge α) (board : RouteBoard α) (proposal : Proposal α)
    (forced : Bool) (inner : σ) : Except (Failure α) (Option (Connector α)) × RouteState α σ :=
  let connector := connectorOf board edge proposal forced
  (.ok (some connector), committedState strategy connector board inner)

def routeFirst (rules : RouteRules α) (strategy : Strategy α σ) (edge : Edge α) (state : RouteState α σ) :
    Draw (Except (Failure α) (Option (Connector α)) × RouteState α σ) := do
  let { board, strategy := inner } := state
  let failure : Failure α := .unroutableEdge edge.a edge.b rules.perEdge
  let (offer, inner) ← firstOffer rules strategy edge board rules.perEdge 0 inner
  match offer with
  | some proposal => pure (committing strategy edge board proposal false inner)
  | none =>
    if !edge.isTree then pure (.ok none, { board, strategy := inner })
    else if rules.unroutable = .restart then pure (.error failure, { board, strategy := inner })
    else
      let (offer, inner) ← strategy.proposeForced (rules.context board) edge.a edge.b inner
      match offer with
      | none => pure (.error failure, { board, strategy := inner })
      | some proposal => pure (committing strategy edge board proposal true inner)

inductive FirstOutcome (rules : RouteRules α) (edge : Edge α) (board : RouteBoard α) :
    Option (Proposal α) → Except (Failure α) (Option (Connector α)) → Prop
  | offered (proposal : Proposal α) :
      FirstOutcome rules edge board (some proposal) (.ok (some (connectorOf board edge proposal false)))
  | dropped (extra : edge.isTree = false) : FirstOutcome rules edge board none (.ok none)
  | failed (tree : edge.isTree = true) :
      FirstOutcome rules edge board none (.error (.unroutableEdge edge.a edge.b rules.perEdge))
  | forced (tree : edge.isTree = true) (policy : rules.unroutable ≠ .restart) (proposal : Proposal α) :
      FirstOutcome rules edge board none (.ok (some (connectorOf board edge proposal true)))

namespace FirstOutcome

variable {rules : RouteRules α} {edge : Edge α} {board : RouteBoard α} {offer : Option (Proposal α)}
  {outcome : Except (Failure α) (Option (Connector α))} (became : FirstOutcome rules edge board offer outcome)

omit [Coord α]

include became

theorem unforced_offered (connector : Connector α) (ended : outcome = .ok (some connector))
    (unforced : connector.forced = false) :
    offer = some { doors := connector.doors, geometry := connector.geometry } := by
  cases became with
  | offered proposal =>
      cases ended
      rfl
  | dropped extra => cases ended
  | failed tree => cases ended
  | forced tree policy proposal =>
      cases ended
      cases unforced

theorem unforced_iff :
    (∃ connector, outcome = .ok (some connector) ∧ connector.forced = false) ↔ offer.isSome = true := by
  constructor
  · rintro ⟨connector, ended, unforced⟩
    rw [became.unforced_offered connector ended unforced]
    rfl
  · intro found
    cases became with
    | offered proposal => exact ⟨_, rfl, rfl⟩
    | dropped extra => cases found
    | failed tree => cases found
    | forced tree policy proposal => cases found

theorem failed_iff (tree : edge.isTree = true) (restart : rules.unroutable = .restart) :
    outcome = .error (.unroutableEdge edge.a edge.b rules.perEdge) ↔ offer = none := by
  cases became with
  | offered proposal => exact iff_of_false nofun nofun
  | dropped extra => exact absurd (extra.symm.trans tree) Bool.false_ne_true
  | failed tree => exact iff_of_true rfl rfl
  | forced tree policy proposal => exact absurd restart policy

theorem dropped_iff (extra : edge.isTree = false) : outcome = .ok none ↔ offer = none := by
  cases became with
  | offered proposal => exact iff_of_false nofun nofun
  | dropped extra => exact iff_of_true rfl rfl
  | failed tree => exact absurd (extra.symm.trans tree) Bool.false_ne_true
  | forced tree policy proposal => exact absurd (extra.symm.trans tree) Bool.false_ne_true

end FirstOutcome

theorem route_first_outcome (rules : RouteRules α) (strategy : Strategy α σ) (edge : Edge α) (state : RouteState α σ)
    (rng : Rng) :
    FirstOutcome rules edge state.board
      ((firstOffer rules strategy edge state.board rules.perEdge 0 state.strategy).run rng).1.1
      ((routeFirst rules strategy edge state).run rng).1.1 := by
  obtain ⟨board, inner⟩ := state
  simp only [routeFirst, draw_run_bind]
  generalize (firstOffer rules strategy edge board rules.perEdge 0 inner).run rng = answer
  obtain ⟨⟨offer, inner'⟩, rng'⟩ := answer
  cases offer with
  | some proposal => exact .offered proposal
  | none =>
      simp only
      split
      next extra => exact .dropped (Bool.not_eq_true' _ ▸ extra)
      next tree =>
        have tree : edge.isTree = true := by simpa using tree
        split
        next => exact .failed tree
        next policy =>
          simp only [draw_run_bind]
          generalize (strategy.proposeForced (rules.context board) edge.a edge.b inner').run rng' = forced
          obtain ⟨⟨offer, inner''⟩, rng''⟩ := forced
          cases offer with
          | none => exact .failed tree
          | some proposal => exact .forced tree policy proposal

def Accepted (rules : RouteRules α) (strategy : Strategy α σ) (edge : Edge α) (board : RouteBoard α)
    (keeps : σ → Prop) : Prop :=
  ∀ (attempt : Nat) (inner : σ) (rng : Rng), keeps inner →
    let answer := ((strategy.propose (rules.context board) edge.a edge.b attempt inner).run rng).1
    keeps answer.2 ∧ ∀ proposal, answer.1 = some proposal → (rules.tryReserve edge proposal board).1 = 0

variable {rules : RouteRules α} {strategy : Strategy α σ} {edge : Edge α} {board : RouteBoard α}
  {keeps : σ → Prop}

theorem try_attempts_first (faithful : board.index.Faithful) (accepted : Accepted rules strategy edge board keeps)
    (left attempt : Nat) (inner : σ) (kept : keeps inner) (rng : Rng) :
    (tryAttempts rules strategy edge left attempt none { board, strategy := inner }).run rng =
      let answer := (firstOffer rules strategy edge board left attempt inner).run rng
      match answer.1.1 with
      | some proposal =>
        let connector := connectorOf board edge proposal false
        ((.ok connector, committedState strategy connector board answer.1.2), answer.2)
      | none => ((.error none, { board, strategy := answer.1.2 }), answer.2) := by
  induction left generalizing attempt inner rng with
  | zero => rfl
  | succ left ih =>
      obtain ⟨keptNext, clear⟩ := accepted attempt inner rng kept
      rw [try_attempts_succ rules strategy edge board faithful]
      simp only [firstOffer, draw_run_bind]
      generalize (strategy.propose (rules.context board) edge.a edge.b attempt inner).run rng = answer
        at keptNext clear ⊢
      obtain ⟨⟨offer, next⟩, rng'⟩ := answer
      cases offer with
      | none => exact ih (attempt + 1) next keptNext rng'
      | some proposal =>
          simp only [clear proposal rfl, if_true]
          rfl

theorem route_edge_first (state : RouteState α σ) (faithful : state.board.index.Faithful)
    (accepted : Accepted rules strategy edge state.board keeps) (kept : keeps state.strategy) (rng : Rng) :
    (routeEdge rules strategy edge state).run rng = (routeFirst rules strategy edge state).run rng := by
  obtain ⟨board, inner⟩ := state
  have first := try_attempts_first faithful accepted rules.perEdge 0 inner kept rng
  simp only [routeEdge, routeFirst, draw_run_bind, first]
  generalize (firstOffer rules strategy edge board rules.perEdge 0 inner).run rng = answer
  obtain ⟨⟨offer, inner'⟩, rng'⟩ := answer
  cases offer with
  | some proposal => rfl
  | none =>
      simp only
      split
      next => rfl
      next =>
        split
        next => rfl
        next =>
          simp only [fallback, draw_run_bind]
          generalize (strategy.proposeForced (rules.context board) edge.a edge.b inner').run rng' = forced
          obtain ⟨⟨offer, inner''⟩, rng''⟩ := forced
          cases offer with
          | none => rfl
          | some proposal =>
              simp only [commit_entered]
              rfl

end Floorplan

import Floorplan.Proofs.Route.First
import Floorplan.Proofs.Route.Soundness

set_option autoImplicit false

namespace Floorplan

open Floorplan.Random (Draw Rng)

structure RouteCall (α σ : Type) where
  rules : RouteRules α
  strategy : Strategy α σ
  edge : Edge α
  board : RouteBoard α
  inner : σ
  rng : Rng

namespace RouteCall

variable {α σ : Type}

section Offers

variable (call : RouteCall α σ)

def before : Nat → σ × Rng
  | 0 => (call.inner, call.rng)
  | k + 1 =>
    let answer := (call.strategy.propose (call.rules.context call.board) call.edge.a call.edge.b k (before k).1).run
      (before k).2
    (answer.1.2, answer.2)

def offer (k : Nat) : Option (Proposal α) :=
  ((call.strategy.propose (call.rules.context call.board) call.edge.a call.edge.b k (call.before k).1).run
    (call.before k).2).1.1

def lastResort : (Option (Proposal α) × σ) × Rng :=
  (call.strategy.proposeForced (call.rules.context call.board) call.edge.a call.edge.b
    (call.before call.rules.perEdge).1).run (call.before call.rules.perEdge).2

theorem propose_before (k : Nat) :
    (call.strategy.propose (call.rules.context call.board) call.edge.a call.edge.b k (call.before k).1).run
      (call.before k).2 = ((call.offer k, (call.before (k + 1)).1), (call.before (k + 1)).2) := rfl

end Offers

variable [Coord α] (call : RouteCall α σ)

def run : (Except (Failure α) (Option (Connector α)) × RouteState α σ) × Rng :=
  (routeEdge call.rules call.strategy call.edge { board := call.board, strategy := call.inner }).run call.rng

def conflicts (proposal : Proposal α) : Nat := call.rules.conflicts call.edge proposal call.board

def Unclear (count : Nat) : Prop := ∀ k < count, ∀ proposal, call.offer k = some proposal → call.conflicts proposal ≠ 0

structure Fewest (count k : Nat) (proposal : Proposal α) : Prop where
  within : k < count
  offered : call.offer k = some proposal
  least : ∀ j < count, ∀ other, call.offer j = some other → call.conflicts proposal ≤ call.conflicts other
  earliest : ∀ j < k, ∀ other, call.offer j = some other → call.conflicts proposal < call.conflicts other

theorem Fewest.unique {call : RouteCall α σ} {count j k : Nat} {first second : Proposal α}
    (one : call.Fewest count j first) (other : call.Fewest count k second) : j = k ∧ first = second := by
  obtain rfl : j = k := by
    rcases Nat.lt_trichotomy j k with below | same | above
    · exact absurd (other.earliest j below first one.offered) (Nat.not_lt.mpr (one.least k other.within second other.offered))
    · exact same
    · exact absurd (one.earliest k above second other.offered) (Nat.not_lt.mpr (other.least j one.within first one.offered))
  exact ⟨rfl, Option.some.inj (one.offered.symm.trans other.offered)⟩

def Kept (count : Nat) : BestProposal α → Prop
  | none => ∀ k < count, call.offer k = none
  | some (fewest, proposal) => fewest = call.conflicts proposal ∧ ∃ k, call.Fewest count k proposal

inductive Settled : (Except (Failure α) (Option (Connector α)) × RouteState α σ) × Rng → Prop
  | clear (k : Nat) (proposal : Proposal α) (within : k < call.rules.perEdge) (offered : call.offer k = some proposal)
      (free : call.conflicts proposal = 0) (first : call.Unclear k) :
      Settled (committing call.strategy call.edge call.board proposal false (call.before (k + 1)).1,
        (call.before (k + 1)).2)
  | dropped (extra : call.edge.isTree = false) (unclear : call.Unclear call.rules.perEdge) :
      Settled ((.ok none, { board := call.board, strategy := (call.before call.rules.perEdge).1 }),
        (call.before call.rules.perEdge).2)
  | refused (tree : call.edge.isTree = true) (unclear : call.Unclear call.rules.perEdge)
      (policy : call.rules.unroutable = .restart) :
      Settled ((.error (.unroutableEdge call.edge.a call.edge.b call.rules.perEdge),
        { board := call.board, strategy := (call.before call.rules.perEdge).1 }), (call.before call.rules.perEdge).2)
  | forced (tree : call.edge.isTree = true) (unclear : call.Unclear call.rules.perEdge)
      (policy : call.rules.unroutable = .forceBestEffort) (k : Nat) (proposal : Proposal α)
      (fewest : call.Fewest call.rules.perEdge k proposal) :
      Settled (committing call.strategy call.edge call.board proposal true (call.before call.rules.perEdge).1,
        (call.before call.rules.perEdge).2)
  | made (tree : call.edge.isTree = true) (silent : ∀ k < call.rules.perEdge, call.offer k = none)
      (policy : call.rules.unroutable = .forceBestEffort) (proposal : Proposal α)
      (offered : call.lastResort.1.1 = some proposal) :
      Settled (committing call.strategy call.edge call.board proposal true call.lastResort.1.2, call.lastResort.2)
  | failed (tree : call.edge.isTree = true) (silent : ∀ k < call.rules.perEdge, call.offer k = none)
      (policy : call.rules.unroutable = .forceBestEffort) (missing : call.lastResort.1.1 = none) :
      Settled ((.error (.unroutableEdge call.edge.a call.edge.b call.rules.perEdge),
        { board := call.board, strategy := call.lastResort.1.2 }), call.lastResort.2)

theorem kept_none_unclear (count : Nat) (silent : ∀ k < count, call.offer k = none) : call.Unclear count := by
  intro k within proposal offered
  rw [silent k within] at offered
  cases offered

theorem unclear_next (count : Nat) (unclear : call.Unclear count)
    (last : ∀ proposal, call.offer count = some proposal → call.conflicts proposal ≠ 0) : call.Unclear (count + 1) := by
  intro k within
  rcases Nat.lt_succ_iff_lt_or_eq.mp within with earlier | rfl
  · exact unclear k earlier
  · exact last

theorem kept_silent (count : Nat) (best : BestProposal α) (kept : call.Kept count best)
    (silent : call.offer count = none) : call.Kept (count + 1) best := by
  cases best with
  | none =>
      intro k within
      rcases Nat.lt_succ_iff_lt_or_eq.mp within with earlier | rfl
      · exact kept k earlier
      · exact silent
  | some old =>
      obtain ⟨counted, k, fewest⟩ := kept
      refine ⟨counted, k, Nat.lt_succ_of_lt fewest.within, fewest.offered, ?_, fewest.earliest⟩
      intro j within other offered
      rcases Nat.lt_succ_iff_lt_or_eq.mp within with earlier | rfl
      · exact fewest.least j earlier other offered
      · rw [silent] at offered
        cases offered

theorem kept_update (count : Nat) (best : BestProposal α) (kept : call.Kept count best) (proposal : Proposal α)
    (offered : call.offer count = some proposal) :
    call.Kept (count + 1) (best.update (call.conflicts proposal) proposal) := by
  have only : ∀ other, call.offer count = some other → other = proposal := fun other same =>
    Option.some.inj (same.symm.trans offered)
  cases best with
  | none =>
      refine ⟨rfl, count, Nat.lt_succ_self count, offered, ?_, ?_⟩
      · intro j within other found
        rcases Nat.lt_succ_iff_lt_or_eq.mp within with earlier | rfl
        · rw [kept j earlier] at found
          cases found
        · rw [only other found]
      · intro j earlier other found
        rw [kept j earlier] at found
        cases found
  | some old =>
      obtain ⟨fewest, holder⟩ := old
      obtain ⟨rfl, k, held⟩ := kept
      rw [BestProposal.update]
      by_cases better : call.conflicts proposal < call.conflicts holder
      · rw [if_pos better]
        refine ⟨rfl, count, Nat.lt_succ_self count, offered, ?_, ?_⟩
        · intro j within other found
          rcases Nat.lt_succ_iff_lt_or_eq.mp within with earlier | rfl
          · exact Nat.le_of_lt (Nat.lt_of_lt_of_le better (held.least j earlier other found))
          · rw [only other found]
        · exact fun j earlier other found => Nat.lt_of_lt_of_le better (held.least j earlier other found)
      · rw [if_neg better]
        refine ⟨rfl, k, Nat.lt_succ_of_lt held.within, held.offered, ?_, held.earliest⟩
        intro j within other found
        rcases Nat.lt_succ_iff_lt_or_eq.mp within with earlier | rfl
        · exact held.least j earlier other found
        · rw [only other found]
          exact Nat.not_lt.mp better

inductive Asked : (Except (BestProposal α) (Connector α) × RouteState α σ) × Rng → Prop
  | clear (k : Nat) (proposal : Proposal α) (within : k < call.rules.perEdge) (offered : call.offer k = some proposal)
      (free : call.conflicts proposal = 0) (first : call.Unclear k) :
      Asked ((.ok (connectorOf call.board call.edge proposal false),
        committedState call.strategy (connectorOf call.board call.edge proposal false) call.board
          (call.before (k + 1)).1), (call.before (k + 1)).2)
  | spent (best : BestProposal α) (unclear : call.Unclear call.rules.perEdge)
      (kept : call.Kept call.rules.perEdge best) :
      Asked ((.error best, { board := call.board, strategy := (call.before call.rules.perEdge).1 }),
        (call.before call.rules.perEdge).2)

-- What the counting needs of a call: an index that can be searched, with nothing of the connector that is to come, and
-- offers whose pieces have a length on both axes.
structure Counted : Prop where
  reached : call.board.index.Reached
  cell_pos : Coord.zero < call.board.index.cellSize
  sized : ∀ entry ∈ call.board.index.entries.toList, entry.rect.Sized
  fresh : ∀ entry ∈ call.board.index.entries.toList, entry.occupant ≠ call.board.occupant
  offers : call.strategy.Offers Proposal.Sized

variable [LawfulCoord α] (counted : call.Counted)

include counted

theorem reserve_conflicts (k : Nat) (proposal : Proposal α) (offered : call.offer k = some proposal) :
    (call.rules.tryReserve call.edge proposal call.board).1 = call.conflicts proposal := by
  have searchable : call.board.index.Searchable :=
    { faithful := (SpatialIndex.reached_iff_faithful _).mp counted.reached
      cell_pos := counted.cell_pos
      sized := counted.sized }
  exact call.rules.try_reserve_conflicts call.edge proposal call.board searchable
    (counted.offers.propose _ _ _ _ _ _ proposal offered) counted.fresh

theorem attempts_asked (left k : Nat) (total : k + left = call.rules.perEdge) (best : BestProposal α)
    (unclear : call.Unclear k) (kept : call.Kept k best) :
    call.Asked ((tryAttempts call.rules call.strategy call.edge left k best
      { board := call.board, strategy := (call.before k).1 }).run (call.before k).2) := by
  -- every attempt begins on the board of the call, with the best of the offers before it
  induction left generalizing k best with
  | zero =>
      obtain rfl : k = call.rules.perEdge := total
      exact .spent best unclear kept
  | succ left ih =>
      have faithful := (SpatialIndex.reached_iff_faithful _).mp counted.reached
      have next : k + 1 + left = call.rules.perEdge := by omega
      rw [try_attempts_succ call.rules call.strategy call.edge call.board faithful, call.propose_before k]
      cases offered : call.offer k with
      | none =>
          refine ih (k + 1) next best (call.unclear_next k unclear ?_) (call.kept_silent k best kept offered)
          intro proposal some
          rw [offered] at some
          cases some
      | some proposal =>
          simp only [call.reserve_conflicts counted k proposal offered]
          by_cases free : call.conflicts proposal = 0
          · rw [if_pos free]
            exact .clear k proposal (by omega) offered free unclear
          · rw [if_neg free]
            refine ih (k + 1) next _ (call.unclear_next k unclear ?_) (call.kept_update k best kept proposal offered)
            intro other same
            rwa [← Option.some.inj (offered.symm.trans same)]

theorem run_settled : call.Settled call.run := by
  have asked := call.attempts_asked counted call.rules.perEdge 0 (Nat.zero_add _) none nofun nofun
  change call.Asked ((tryAttempts call.rules call.strategy call.edge call.rules.perEdge 0 none
    { board := call.board, strategy := call.inner }).run call.rng) at asked
  rw [run, routeEdge, draw_run_bind]
  generalize (tryAttempts call.rules call.strategy call.edge call.rules.perEdge 0 none
    { board := call.board, strategy := call.inner }).run call.rng = answer at asked ⊢
  cases asked with
  | clear k proposal within offered free first => exact .clear k proposal within offered free first
  | spent best unclear kept =>
      cases tree : call.edge.isTree with
      | false => exact .dropped tree unclear
      | true =>
          cases policy : call.rules.unroutable with
          | restart => exact .refused tree unclear policy
          | forceBestEffort =>
              cases best with
              | some old =>
                  obtain ⟨fewest, proposal⟩ := old
                  obtain ⟨-, k, held⟩ := kept
                  simp only [Bool.not_true, Bool.false_eq_true, if_false, reduceCtorEq, fallback, draw_run_bind,
                    draw_run_pure, commit_entered]
                  exact .forced tree unclear policy k proposal held
              | none =>
                  have made : (call.strategy.proposeForced (call.rules.context call.board) call.edge.a call.edge.b
                      (call.before call.rules.perEdge).1).run (call.before call.rules.perEdge).2 = call.lastResort := rfl
                  simp only [Bool.not_true, Bool.false_eq_true, if_false, reduceCtorEq, fallback, draw_run_bind,
                    draw_run_pure, made]
                  cases offered : call.lastResort.1.1 with
                  | none => exact .failed tree kept policy offered
                  | some proposal =>
                      simp only [commit_entered]
                      exact .made tree kept policy proposal offered

end RouteCall

-- A call forces a connector just for a tree edge without a clear offer, under the policy that
-- forces, when there is something to force.
theorem forcing_takes_fewest {α σ : Type} [Coord α] [LawfulCoord α] (call : RouteCall α σ) (counted : call.Counted) :
    call.Settled call.run
      ∧ ((∃ connector, call.run.1.1 = .ok (some connector) ∧ connector.forced = false) ↔
          ¬ call.Unclear call.rules.perEdge)
      ∧ ((∃ connector, call.run.1.1 = .ok (some connector) ∧ connector.forced = true) ↔
          call.Unclear call.rules.perEdge ∧ call.edge.isTree = true ∧ call.rules.unroutable = .forceBestEffort
            ∧ ((∃ k < call.rules.perEdge, (call.offer k).isSome) ∨ call.lastResort.1.1.isSome)) := by
  have settled := call.run_settled counted
  refine ⟨settled, ?_⟩
  generalize call.run = result at settled ⊢
  cases settled with
  | clear k proposal within offered free first =>
      have cleared : ¬ call.Unclear call.rules.perEdge := fun unclear => unclear k within proposal offered free
      refine ⟨iff_of_true ⟨_, rfl, rfl⟩ cleared, iff_of_false ?_ fun conditions => cleared conditions.1⟩
      rintro ⟨connector, same, forced⟩
      cases same
      cases forced
  | dropped extra unclear =>
      refine ⟨iff_of_false nofun (not_not.mpr unclear), iff_of_false nofun ?_⟩
      rintro ⟨-, tree, -⟩
      rw [extra] at tree
      cases tree
  | refused tree unclear policy =>
      refine ⟨iff_of_false nofun (not_not.mpr unclear), iff_of_false nofun ?_⟩
      rintro ⟨-, -, forcing, -⟩
      rw [policy] at forcing
      cases forcing
  | forced tree unclear policy k proposal fewest =>
      refine ⟨iff_of_false ?_ (not_not.mpr unclear), iff_of_true ⟨_, rfl, rfl⟩ ⟨unclear, tree, policy, .inl ?_⟩⟩
      · rintro ⟨connector, same, unforced⟩
        cases same
        cases unforced
      · refine ⟨k, fewest.within, ?_⟩
        rw [fewest.offered]
        rfl
  | made tree silent policy proposal offered =>
      have unclear := call.kept_none_unclear _ silent
      refine ⟨iff_of_false ?_ (not_not.mpr unclear), iff_of_true ⟨_, rfl, rfl⟩ ⟨unclear, tree, policy, .inr ?_⟩⟩
      · rintro ⟨connector, same, unforced⟩
        cases same
        cases unforced
      · rw [offered]
        rfl
  | failed tree silent policy missing =>
      refine ⟨iff_of_false nofun (not_not.mpr (call.kept_none_unclear _ silent)), iff_of_false nofun ?_⟩
      rintro ⟨-, -, -, ⟨k, within, offered⟩ | offered⟩
      · rw [silent k within] at offered
        cases offered
      · rw [missing] at offered
        cases offered

def strayBridges : List (Proposal Rat) :=
  [{ bridge with doors := (⟨.right, ⟨10, 10⟩⟩, ⟨.left, ⟨20, 10⟩⟩) },
    { bridge with doors := (⟨.right, ⟨10, 5⟩⟩, ⟨.left, ⟨20, 10⟩⟩) },
    { bridge with doors := (⟨.right, ⟨10, 0⟩⟩, ⟨.left, ⟨20, 5⟩⟩) }]

def strayCall : RouteCall Rat Unit :=
  { rules := { narrowRules with unroutable := .forceBestEffort, perEdge := 3 }
    strategy :=
      { propose := fun _ _ _ attempt inner => pure (strayBridges[attempt]?, inner)
        proposeForced := fun _ _ _ inner => pure (none, inner)
        onCommit := fun _ inner => inner }
    edge := bridgedEdge
    board := openFloor
    inner := ()
    rng := .ofSeed 0 }

theorem stray_call_counted : strayCall.Counted := by
  have offers : strayCall.strategy.Offers Proposal.Sized := by
    constructor
    · intro _ _ _ attempt _ _ proposal offered
      have read : strayBridges[attempt]? = some proposal := offered
      have same : proposal.geometry = bridge.geometry :=
        (by decide +kernel : ∀ other ∈ strayBridges, other.geometry = bridge.geometry) proposal (List.mem_of_getElem? read)
      intro rect member
      rw [same] at member
      exact bridge_sized rect member
    · intro _ _ _ _ _ proposal offered
      cases offered
  exact ⟨open_floor_ready.reached, open_floor_ready.cell_pos, open_floor_ready.sized, open_floor_ready.occupant_unused,
    offers⟩

theorem stray_conflicts (k : Nat) (proposal : Proposal Rat) (offered : strayCall.offer k = some proposal) :
    [2, 1, 1][k]? = some (strayCall.conflicts proposal) := by
  have counts : strayBridges.map (fun stray => strayCall.conflicts stray) = [2, 1, 1] := by
    have entries : strayCall.board.index.entries.toList = [⟨⟨0, 0, 10, 10⟩, .room ⟨0⟩⟩, ⟨⟨20, 0, 10, 10⟩, .room ⟨1⟩⟩] :=
      open_floor_entries
    simp only [RouteCall.conflicts, RouteRules.conflicts, entries]
    decide +kernel
  rw [← counts, List.getElem?_map]
  exact congrArg _ offered

theorem second_stray_forced : strayCall.Counted
    ∧ ∃ proposal, strayBridges[1]? = some proposal
      ∧ strayCall.run.1.1 = .ok (some (connectorOf openFloor bridgedEdge proposal true)) := by
  have unclear : strayCall.Unclear 3 := by
    intro k within other offered free
    have count := stray_conflicts k other offered
    rw [free] at count
    exact absurd count ((by decide : ∀ k < 3, [2, 1, 1][k]? ≠ some 0) k within)
  have second : strayCall.Fewest 3 1 strayBridges[1] := by
    have one := Option.some.inj (stray_conflicts 1 strayBridges[1] rfl)
    refine ⟨by decide, rfl, ?_, ?_⟩
    · intro j within other offered
      rw [← one]
      exact Nat.pos_of_ne_zero (unclear j within other offered)
    · intro j earlier other offered
      obtain rfl : j = 0 := by omega
      have two := Option.some.inj (stray_conflicts 0 other offered)
      omega
  have settled := (forcing_takes_fewest strayCall stray_call_counted).1
  refine ⟨stray_call_counted, strayBridges[1], rfl, ?_⟩
  generalize strayCall.run = result at settled ⊢
  cases settled with
  | clear k proposal within offered free => exact absurd free (unclear k within proposal offered)
  | dropped extra => cases extra
  | refused _ _ policy => cases policy
  | forced _ _ _ k proposal fewest =>
      obtain ⟨-, rfl⟩ := second.unique fewest
      rfl
  | made _ silent => cases silent 1 (by decide)
  | failed _ silent => cases silent 1 (by decide)

end Floorplan

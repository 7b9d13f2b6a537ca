import Floorplan.Generator
import Floorplan.Proofs.Route.Call

set_option autoImplicit false

namespace Floorplan

open Floorplan.Random (Draw Rng)

variable {α : Type} [Coord α]

inductive Failure.EndsAttempt (config : Config α) : Failure α → Prop
  | placement (placed attempts : Nat) (few : placed < config.roomCount.toNat) :
      EndsAttempt config (.placementExhausted placed config.roomCount.toNat attempts)
  | routing (a b : RoomId) : EndsAttempt config (.unroutableEdge a b config.budgets.perEdge.toNat)

omit [Coord α] in
theorem Failure.EndsAttempt.retryable {config : Config α} {failure : Failure α} (ends : failure.EndsAttempt config) :
    failure.retryable = true := by
  cases ends <;> rfl

theorem place_rooms_error (request : PlacementRequest α) (index after : SpatialIndex α) (failure : Failure α)
    (rng rest : Rng) (failed : (placeRooms request index).run rng = ((.error failure, after), rest)) :
    ∃ placed attempts, placed < request.roomCount
      ∧ failure = .placementExhausted placed request.roomCount attempts := by
  rw [placeRooms] at failed
  split at failed
  next none =>
    cases failed
    exact ⟨0, 0, of_decide_eq_true (Bool.and_eq_true_iff.mp none).2, rfl⟩
  next =>
    simp only [draw_run_bind] at failed
    split at failed
    next few =>
      cases failed
      exact ⟨_, _, few, rfl⟩
    next => cases failed

theorem route_edge_error {σ : Type} (rules : RouteRules α) (strategy : Strategy α σ) (edge : Edge α)
    (state after : RouteState α σ) (failure : Failure α) (rng rest : Rng)
    (failed : (routeEdge rules strategy edge state).run rng = ((.error failure, after), rest)) :
    failure = .unroutableEdge edge.a edge.b rules.perEdge := by
  simp only [routeEdge, draw_run_bind] at failed
  generalize (tryAttempts rules strategy edge rules.perEdge 0 none state).run rng = answer at failed
  obtain ⟨⟨outcome, state⟩, rng'⟩ := answer
  cases outcome with
  | ok connector => cases failed
  | error best =>
      simp only at failed
      split at failed
      next => cases failed
      next =>
        split at failed
        next =>
          cases failed
          rfl
        next =>
          simp only [draw_run_bind] at failed
          generalize (fallback rules strategy edge best state).run rng' = answer at failed
          obtain ⟨⟨offer, state⟩, rng''⟩ := answer
          cases offer with
          | none =>
              cases failed
              rfl
          | some proposal => cases failed

theorem route_all_error {σ : Type} (rules : RouteRules α) (strategy : Strategy α σ) (edges : List (Edge α))
    (state after : RouteState α σ) (failure : Failure α) (rng rest : Rng)
    (failed : (routeAll rules strategy edges state).run rng = ((.error failure, after), rest)) :
    ∃ edge ∈ edges, failure = .unroutableEdge edge.a edge.b rules.perEdge := by
  induction edges generalizing state rng with
  | nil => cases failed
  | cons edge others ih =>
      simp only [routeAll, draw_run_bind] at failed
      generalize called : (routeEdge rules strategy edge state).run rng = answer at failed
      obtain ⟨⟨outcome, state⟩, rng'⟩ := answer
      cases outcome with
      | error first =>
          cases failed
          exact ⟨edge, List.mem_cons_self, route_edge_error rules strategy edge _ _ _ _ _ called⟩
      | ok routed =>
          simp only [draw_run_bind] at failed
          generalize later : (routeAll rules strategy others state).run rng' = answer at failed
          obtain ⟨⟨outcome, state'⟩, rng''⟩ := answer
          cases outcome with
          | error second =>
              cases failed
              obtain ⟨culprit, listed, same⟩ := ih state rng' later
              exact ⟨culprit, List.mem_cons_of_mem edge listed, same⟩
          | ok connectors => cases failed

theorem route_with_error {σ : Type} (config : Config α) (strategy : Strategy α σ) (inner : σ)
    (rooms : Array (Room α)) (index : SpatialIndex α) (edges : List (Edge α)) (failure : Failure α) (rng rest : Rng)
    (failed : (routeWith config strategy inner rooms index edges).run rng = (.error failure, rest)) :
    failure.EndsAttempt config := by
  simp only [routeWith, draw_run_bind] at failed
  generalize routed : (routeAll (.ofConfig config) strategy edges
    { board := { rooms, index, nextId := 0 }, strategy := inner }).run rng = answer at failed
  obtain ⟨⟨outcome, state⟩, rng'⟩ := answer
  cases outcome with
  | error first =>
      cases failed
      obtain ⟨edge, _, rfl⟩ := route_all_error _ strategy edges _ _ _ _ _ routed
      exact .routing edge.a edge.b
  | ok connectors => cases failed

theorem attempt_error (config : Config α) (seed : UInt64) (number : Nat) (failure : Failure α) (rng : Rng)
    (failed : ((attempt config seed number).run rng).1.1 = .error failure) : failure.EndsAttempt config := by
  simp only [attempt, draw_run_bind] at failed
  generalize placing : (placeRooms (.ofConfig config) (.new config.indexCellSize)).run rng = answer at failed
  obtain ⟨⟨placed, index⟩, rest⟩ := answer
  cases placed with
  | error first =>
      cases failed
      obtain ⟨placed, attempts, few, rfl⟩ := place_rooms_error _ _ _ _ _ _ placing
      exact .placement placed attempts few
  | ok rooms =>
      simp only [draw_run_bind] at failed
      generalize (buildEdges rooms config.metric config.extraEdgeFraction).run rest = edges at failed
      generalize routing : (routeByKind config rooms index edges.1).run edges.2 = routed at failed
      obtain ⟨outcome, final⟩ := routed
      cases outcome with
      | error first =>
          cases failed
          rw [routeByKind] at routing
          split at routing
          · exact route_with_error config _ _ _ _ _ _ _ _ routing
          · exact route_with_error config _ _ _ _ _ _ _ _ routing
      | ok layout => cases failed

end Floorplan

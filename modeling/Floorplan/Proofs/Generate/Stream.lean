import Floorplan.Generator
import Floorplan.Proofs.Random.Seed

set_option autoImplicit false

namespace Floorplan

open Floorplan.Random (Draw Rng KeepsSeed)

namespace Placement

variable {α : Type} [Coord α]

theorem random_candidate_keeps_seed (bounds : Rect α) (w h : α) : KeepsSeed (randomCandidate bounds w h) :=
  .ite (.pure _) <| .bind (Random.between_keeps_seed _ _) fun _ =>
    .bind (Random.between_keeps_seed _ _) fun _ => .pure _

theorem touching_candidate_keeps_seed (base : Rect α) (w h : α) (side : Wall) :
    KeepsSeed (touchingCandidate base w h side) :=
  .ite (.bind (Random.between_keeps_seed _ _) fun _ => .pure _)
    (.bind (Random.between_keeps_seed _ _) fun _ => .pure _)

theorem touching_any_keeps_seed (rooms : Array (Room α)) (w h : α) : KeepsSeed (touchingAny rooms w h) := by
  refine .bind (Random.choose_keeps_seed _) fun base => ?_
  cases base with
  | none => exact .pure _
  | some base =>
      refine .bind (Random.choose_keeps_seed _) fun side => ?_
      cases side with
      | none => exact .pure _
      | some side => exact .bind (touching_candidate_keeps_seed _ w h side) fun _ => .pure _

theorem step_keeps_seed (request : PlacementRequest α) (placement : Placement α) :
    KeepsSeed (step request placement) := by
  refine .bind (Random.choose_keeps_seed _) fun size => ?_
  cases size with
  | none => exact .pure _
  | some size =>
      -- a candidate is accepted or passed over, and nothing is drawn for that
      refine .ite (.bind (touching_any_keeps_seed _ _ _) fun candidate => ?_)
        (.bind (random_candidate_keeps_seed _ _ _) fun candidate => ?_)
      · cases candidate <;> exact .pure _
      · cases candidate <;> exact .pure _

theorem run_keeps_seed (request : PlacementRequest α) (budget : Nat) (placement : Placement α) :
    KeepsSeed (run request budget placement) := by
  induction budget generalizing placement with
  | zero => exact .pure _
  | succ budget ih => exact .ite (.bind (step_keeps_seed request placement) ih) (.pure _)

end Placement

variable {α : Type} [Coord α]

theorem place_rooms_keeps_seed (request : PlacementRequest α) (index : SpatialIndex α) :
    KeepsSeed (placeRooms request index) :=
  .ite (.pure _) <| .bind (Placement.run_keeps_seed request _ _) fun _ => .ite (.pure _) (.pure _)

theorem extra_from_keeps_seed (rooms : Array (Room α)) (metric : Metric) (edges : List (Edge α)) (left : Nat)
    (pairs : List (RoomId × RoomId)) : KeepsSeed (extraFrom rooms metric edges left pairs) := by
  induction edges generalizing left pairs with
  | nil => exact .pure _
  | cons edge rest ih =>
      cases left with
      | zero => exact .pure _
      | succ left =>
          refine .bind (Random.one_in_keeps_seed 2) fun first => ?_
          simp only
          split
          · exact ih _ _
          · exact .bind (ih _ _) fun _ => .pure _

theorem build_edges_keeps_seed (rooms : Array (Room α)) (metric : Metric) (fraction : α) :
    KeepsSeed (buildEdges rooms metric fraction) :=
  .ite (.pure _) <| .bind (.bind (Random.shuffle_keeps_seed _) fun _ => extra_from_keeps_seed _ _ _ _ _)
    fun _ => .pure _

structure Strategy.KeepsSeed {σ : Type} (strategy : Strategy α σ) : Prop where
  propose : ∀ context a b attempt inner, Random.KeepsSeed (strategy.propose context a b attempt inner)
  proposeForced : ∀ context a b inner, Random.KeepsSeed (strategy.proposeForced context a b inner)

section Route

variable {σ : Type} (rules : RouteRules α) (strategy : Strategy α σ) (keeps : strategy.KeepsSeed)

include keeps

theorem try_attempts_keeps_seed (edge : Edge α) (left attempt : Nat) (best : BestProposal α)
    (state : RouteState α σ) : KeepsSeed (tryAttempts rules strategy edge left attempt best state) := by
  induction left generalizing attempt best state with
  | zero => exact .pure _
  | succ left ih =>
      refine .bind (keeps.propose _ _ _ _ _) fun answer => ?_
      obtain ⟨offer, inner⟩ := answer
      cases offer with
      | none => exact ih _ _ _
      | some proposal => exact .ite (.pure _) (ih _ _ _)

omit [Coord α] in
theorem fallback_keeps_seed (edge : Edge α) (best : BestProposal α) (state : RouteState α σ) :
    KeepsSeed (fallback rules strategy edge best state) := by
  cases best with
  | none => exact .bind (keeps.proposeForced _ _ _ _) fun _ => .pure _
  | some kept => exact .pure _

theorem route_edge_keeps_seed (edge : Edge α) (state : RouteState α σ) :
    KeepsSeed (routeEdge rules strategy edge state) := by
  refine .bind (try_attempts_keeps_seed rules strategy keeps edge _ _ _ _) fun answer => ?_
  obtain ⟨outcome, state⟩ := answer
  cases outcome with
  | ok connector => exact .pure _
  | error best =>
      refine .ite (.pure _) (.ite (.pure _) ?_)
      refine .bind (fallback_keeps_seed rules strategy keeps edge best state) fun answer => ?_
      obtain ⟨offer, state⟩ := answer
      cases offer <;> exact .pure _

theorem route_all_keeps_seed (edges : List (Edge α)) (state : RouteState α σ) :
    KeepsSeed (routeAll rules strategy edges state) := by
  induction edges generalizing state with
  | nil => exact .pure _
  | cons edge rest ih =>
      refine .bind (route_edge_keeps_seed rules strategy keeps edge state) fun answer => ?_
      obtain ⟨outcome, state⟩ := answer
      cases outcome with
      | error failure => exact .pure _
      | ok routed =>
          refine .bind (ih state) fun answer => ?_
          obtain ⟨outcome, state⟩ := answer
          cases outcome <;> exact .pure _

end Route

section Strategies

variable [SteadyCoord α]

theorem sample_keeps_seed (span : DoorSpan α) : KeepsSeed span.sample := by
  cases span with
  | range lo hi => exact SteadyCoord.uniform_keeps_seed lo hi
  | midpoint m => exact .pure _

theorem doorway_keeps_seed (a b : Room α) (wall : Wall) (thickness : α) :
    KeepsSeed (doorway a b wall thickness) := by
  refine .ite ?_ (.pure _)
  split
  · exact .pure _
  · exact .bind (sample_keeps_seed _) fun _ => .pure _

theorem elbow_sideways_keeps_seed (thickness : α) (a b : Rect α) (wallA wallB : Wall) :
    KeepsSeed (Direct.elbowSideways thickness a b wallA wallB) := by
  rw [Direct.elbowSideways]
  split
  · exact .bind (sample_keeps_seed _) fun _ => .bind (sample_keeps_seed _) fun _ => .pure _
  · exact .pure _

theorem direct_propose_keeps_seed (a b : Room α) (thickness : α) (attempt : Nat) :
    KeepsSeed (Direct.propose a b thickness attempt) := by
  rw [Direct.propose]
  generalize (Direct.approaches a b).get _ = approach
  cases approach with
  | facing wall =>
      refine .ite (.pure _) (.ite (doorway_keeps_seed a b wall thickness) ?_)
      split
      · exact .pure _
      · exact .bind (sample_keeps_seed _) fun _ => .pure _
  | elbow wallA wallB =>
      exact .ite (elbow_sideways_keeps_seed _ _ _ _ _)
        (.bind (elbow_sideways_keeps_seed _ _ _ _ _) fun _ => .pure _)

theorem direct_keeps_seed : (Direct.strategy : Strategy α Unit).KeepsSeed where
  propose context a b attempt inner := by
    simp only [Direct.strategy]
    split
    · exact .bind (direct_propose_keeps_seed _ _ _ _) fun _ => .pure _
    · exact .pure _
  proposeForced context a b inner := by
    simp only [Direct.strategy]
    split <;> exact .pure _

theorem grid_propose_keeps_seed (raster : Raster) (crossing : CrossingPolicy) (a b : Room α) (thickness : α)
    (attempt : Nat) : KeepsSeed (Grid.propose raster crossing a b thickness attempt) := by
  rw [Grid.propose]
  split
  · exact .pure _
  next =>
    refine .ite (.bind (doorway_keeps_seed a b _ thickness) fun shared => ?_) (.bind (.pure _) fun shared => ?_)
    · cases shared <;> exact .pure _
    · cases shared <;> exact .pure _

theorem grid_keeps_seed (crossing : CrossingPolicy) : (Grid.strategy crossing : Strategy α Raster).KeepsSeed where
  propose context a b attempt raster := by
    simp only [Grid.strategy]
    split
    · exact .bind (grid_propose_keeps_seed _ _ _ _ _ _) fun _ => .pure _
    · exact .pure _
  proposeForced context a b raster := by
    simp only [Grid.strategy]
    split <;> exact .pure _

omit [SteadyCoord α] in
theorem route_with_keeps_seed {σ : Type} (config : Config α) (strategy : Strategy α σ) (keeps : strategy.KeepsSeed)
    (inner : σ) (rooms : Array (Room α)) (index : SpatialIndex α) (edges : List (Edge α)) :
    KeepsSeed (routeWith config strategy inner rooms index edges) := by
  refine .bind (route_all_keeps_seed _ strategy keeps edges _) fun answer => ?_
  obtain ⟨outcome, state⟩ := answer
  cases outcome <;> exact .pure _

theorem route_by_kind_keeps_seed (config : Config α) (rooms : Array (Room α)) (index : SpatialIndex α)
    (edges : List (Edge α)) : KeepsSeed (routeByKind config rooms index edges) := by
  rw [routeByKind]
  split
  · exact route_with_keeps_seed config _ direct_keeps_seed _ _ _ _
  · exact route_with_keeps_seed config _ (grid_keeps_seed _) _ _ _ _

theorem attempt_keeps_seed (config : Config α) (seed : UInt64) (number : Nat) :
    KeepsSeed (attempt config seed number) := by
  refine .bind (place_rooms_keeps_seed _ _) fun answer => ?_
  obtain ⟨placed, index⟩ := answer
  cases placed with
  | error failure => exact .pure _
  | ok rooms =>
      refine .bind (build_edges_keeps_seed _ _ _) fun edges => ?_
      refine .bind (route_by_kind_keeps_seed config rooms index edges) fun routed => ?_
      cases routed <;> exact .pure _

end Strategies

end Floorplan

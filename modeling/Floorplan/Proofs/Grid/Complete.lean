import Floorplan.Proofs.Grid.Pairs
import Floorplan.Proofs.Route.First

set_option autoImplicit false

namespace Floorplan

open Floorplan.Random (Draw Rng)

namespace Grid

theorem propose_offers (raster : Raster) (crossing : CrossingPolicy) (a b : Room Rat) (thickness : Rat)
    (attempt : Nat) (rng : Rng) (walls : Wall × Wall) (turn : (wallPairs a b)[attempt % 16]? = some walls) :
    match ((propose raster crossing a b thickness attempt).run rng).1 with
    | some proposal => Offers raster crossing a b thickness walls proposal
    | none => ∀ proposal, ¬ Offers raster crossing a b thickness walls proposal := by
  have pair : let pairs := wallPairs a b
      pairs[attempt % pairs.length]? = some walls := by
    simp only [(wall_pairs_each a b).1]
    exact turn
  obtain ⟨found, notFound⟩ := route_pair_offers raster crossing a b walls thickness
  simp only [propose, pair]
  by_cases opposite : walls.2 = walls.1.opposite
  · obtain ⟨source, target⟩ := walls
    obtain rfl : target = source.opposite := opposite
    obtain ⟨door, noDoor⟩ := doorway_offers raster crossing a b source thickness rng
    simp only [if_true, draw_run_bind]
    generalize (doorway a b source thickness).run rng = answer at door noDoor ⊢
    obtain ⟨shared, rng'⟩ := answer
    cases shared with
    | some proposal => exact door proposal rfl
    | none =>
        simp only [draw_run_pure]
        split
        next proposal routed => exact found proposal routed
        next failed =>
          intro proposal offered
          cases offered with
          | doorway v _ line first second => exact noDoor rfl ⟨line, v, first, second⟩
          | path start startListed goal goalListed path leads =>
              exact notFound failed start startListed goal goalListed path leads
  · simp only [if_neg opposite, draw_run_bind, draw_run_pure]
    split
    next proposal routed => exact found proposal routed
    next failed =>
      intro proposal offered
      cases offered with
      | doorway v same => exact opposite same
      | path start startListed goal goalListed path leads =>
          exact notFound failed start startListed goal goalListed path leads

-- A strategy that asks this map has its first offer from the first pair that makes any.
theorem first_offer_pairs {σ : Type} (rules : RouteRules Rat) (strategy : Strategy Rat σ) (edge : Edge Rat)
    (board : RouteBoard Rat) (inner : σ) (raster : Raster) (a b : Room Rat)
    (asked : ∀ attempt rng, ((strategy.propose (rules.context board) edge.a edge.b attempt inner).run rng).1 =
      (((propose raster rules.crossing a b rules.thickness attempt).run rng).1, inner))
    (enough : 16 ≤ rules.perEdge) (rng : Rng) :
    let offers := Offers raster rules.crossing a b rules.thickness
    match ((firstOffer rules strategy edge board rules.perEdge 0 inner).run rng).1.1 with
      | some proposal => ∃ before walls after, wallPairs a b = before ++ walls :: after ∧ offers walls proposal
        ∧ ∀ pair ∈ before, ∀ other, ¬ offers pair other
      | none => ∀ walls proposal, ¬ offers walls proposal := by
  intro offers
  obtain ⟨length, _, every⟩ := wall_pairs_each a b
  have failed : ∀ attempt walls, (wallPairs a b)[attempt % 16]? = some walls →
      (∃ rng, ((propose raster rules.crossing a b rules.thickness attempt).run rng).1 = none) →
        ∀ other, ¬ offers walls other := by
    rintro attempt walls turn ⟨rng, none⟩
    have offered := propose_offers raster rules.crossing a b rules.thickness attempt rng walls turn
    rwa [none] at offered
  obtain ⟨_, outcome⟩ := first_offer_cases rules strategy edge board inner
    (fun attempt rng => congrArg Prod.snd (asked attempt rng)) rules.perEdge 0 rng
  simp only [asked, Nat.zero_add, Nat.zero_le, true_implies, true_and] at outcome
  generalize ((firstOffer rules strategy edge board rules.perEdge 0 inner).run rng).1.1 = answer at outcome ⊢
  cases answer with
  | none =>
      rintro ⟨source, target⟩ proposal
      obtain ⟨j, inRange, read⟩ := List.mem_iff_getElem.mp (every source target)
      rw [length] at inRange
      refine failed j (source, target) ?_ (outcome j (Nat.lt_of_lt_of_le inRange enough)) proposal
      rw [Nat.mod_eq_of_lt inRange, List.getElem?_eq_some_iff]
      exact ⟨by omega, read⟩
  | some proposal =>
      obtain ⟨k, _, ⟨drawn, offered⟩, earlier⟩ := outcome
      have turn : k % 16 < (wallPairs a b).length := by
        rw [length]
        exact Nat.mod_lt k (by decide)
      have made := propose_offers raster rules.crossing a b rules.thickness k drawn _ (List.getElem?_eq_getElem turn)
      rw [offered] at made
      -- a pair that comes round again had no offer the first time
      have early : k < 16 := by
        by_contra late
        refine failed (k % 16) _ ?_ (earlier (k % 16) (by omega)) proposal made
        rw [Nat.mod_mod, List.getElem?_eq_getElem turn]
      have here : k % 16 = k := Nat.mod_eq_of_lt early
      simp only [here] at turn made
      refine ⟨(wallPairs a b).take k, (wallPairs a b)[k], (wallPairs a b).drop (k + 1), ?_, made, ?_⟩
      · rw [List.getElem_cons_drop, List.take_append_drop]
      · intro pair member
        obtain ⟨j, jRange, read⟩ := List.mem_take_iff_getElem.mp member
        obtain ⟨jEarlier, jRange⟩ := Nat.lt_min.mp jRange
        refine failed j pair ?_ (earlier j jEarlier)
        rw [Nat.mod_eq_of_lt (Nat.lt_trans jEarlier early), List.getElem?_eq_some_iff]
        exact ⟨jRange, read⟩

end Grid

end Floorplan

import Floorplan.Proofs.Connect.SpanningTree
import Floorplan.Proofs.Route.Ledger

set_option autoImplicit false

namespace Floorplan

open Floorplan.Random (Draw Rng)

variable {α σ : Type} [Coord α]

theorem RouteBoard.Gains.faithful {before after : RouteBoard α} {connector : Connector α}
    (gains : before.Gains after connector) : after.index.Faithful := by
  rw [gains.index]
  exact (SpatialIndex.of_reservations_spec _ _).1

theorem route_all_cons_ok (rules : RouteRules α) (strategy : Strategy α σ) (edge : Edge α) (rest : List (Edge α))
    (state : RouteState α σ) (rng : Rng) (connectors : List (Connector α))
    (routed : ((routeAll rules strategy (edge :: rest) state).run rng).1.1 = .ok connectors) :
    ∃ first others,
      let answer := (routeEdge rules strategy edge state).run rng
      answer.1.1 = .ok first ∧ ((routeAll rules strategy rest answer.1.2).run answer.2).1.1 = .ok others
        ∧ connectors = first.toList ++ others := by
  simp only [routeAll, draw_run_bind] at routed ⊢
  generalize (routeEdge rules strategy edge state).run rng = answer at routed ⊢
  obtain ⟨⟨outcome, after⟩, rng'⟩ := answer
  cases outcome with
  | error failure => cases routed
  | ok first =>
      simp only [draw_run_bind] at routed ⊢
      generalize (routeAll rules strategy rest after).run rng' = answer at routed ⊢
      obtain ⟨⟨outcome, final⟩, rng''⟩ := answer
      cases outcome with
      | error failure => cases routed
      | ok others =>
          cases routed
          exact ⟨first, others, rfl, rfl, rfl⟩

theorem route_all_kept (rules : RouteRules α) (strategy : Strategy α σ) (edges : List (Edge α))
    (state : RouteState α σ) (faithful : state.board.index.Faithful) (rng : Rng) (connectors : List (Connector α))
    (routed : ((routeAll rules strategy edges state).run rng).1.1 = .ok connectors) :
    ∃ kept : List (Edge α), kept.Sublist edges ∧ kept.filter Edge.isTree = edges.filter Edge.isTree
      ∧ connectors.map (·.rooms) = kept.map Edge.ends := by
  induction edges generalizing state rng connectors with
  | nil =>
      cases routed
      exact ⟨[], .slnil, rfl, rfl⟩
  | cons edge rest ih =>
      obtain ⟨first, others, firstRouted, restRouted, rfl⟩ :=
        route_all_cons_ok rules strategy edge rest state rng connectors routed
      have called := route_edge_spec state faithful (serves_anything rules strategy edge state.board) trivial rng
      simp only [firstRouted] at called
      generalize (routeEdge rules strategy edge state).run rng = answer at called restRouted
      obtain ⟨⟨outcome, after⟩, rng'⟩ := answer
      cases called with
      | dropped inner extra _ =>
          obtain ⟨kept, sublist, trees, same⟩ :=
            ih { board := state.board, strategy := inner } faithful rng' others restRouted
          refine ⟨kept, sublist.cons edge, ?_, same⟩
          rw [trees, List.filter_cons_of_neg (by simp [extra])]
      | committed proposal forced inner _ _ _ =>
          have grown := (state.board.with_connector_gains faithful
            (connectorOf state.board edge proposal forced)).faithful
          obtain ⟨kept, sublist, trees, same⟩ := ih _ grown rng' others restRouted
          refine ⟨edge :: kept, sublist.cons_cons edge, ?_, ?_⟩
          · rw [List.filter_cons, List.filter_cons, trees]
          · rw [List.map_cons, ← same]
            rfl

theorem route_all_keeps_tree (rules : RouteRules α) (strategy : Strategy α σ) (tree extra : List (Edge α))
    (needed : ∀ e ∈ tree, e.isTree = true) (spare : ∀ e ∈ extra, e.isTree = false) (state : RouteState α σ)
    (faithful : state.board.index.Faithful) (rng : Rng) (connectors : List (Connector α))
    (routed : ((routeAll rules strategy (tree ++ extra) state).run rng).1.1 = .ok connectors) :
    ∃ kept : List (Edge α), kept.Sublist extra ∧ connectors.map (·.rooms) = (tree ++ kept).map Edge.ends := by
  obtain ⟨all, sublist, trees, same⟩ := route_all_kept rules strategy _ state faithful rng connectors routed
  obtain ⟨first, kept, rfl, firstSublist, keptSublist⟩ := List.sublist_append_iff.mp sublist
  -- no extra edge is a tree edge, so the parts before and after the seam are compared apart
  have spareKept : kept.filter Edge.isTree = [] :=
    List.filter_eq_nil_iff.mpr fun e member => by simp [spare e (keptSublist.subset member)]
  have spareAll : extra.filter Edge.isTree = [] :=
    List.filter_eq_nil_iff.mpr fun e member => by simp [spare e member]
  rw [List.filter_append, List.filter_append, spareKept, spareAll, List.append_nil, List.append_nil,
    List.filter_eq_self.mpr fun e member => needed e (firstSublist.subset member),
    List.filter_eq_self.mpr needed] at trees
  rw [trees] at same
  exact ⟨kept, keptSublist, same⟩

end Floorplan

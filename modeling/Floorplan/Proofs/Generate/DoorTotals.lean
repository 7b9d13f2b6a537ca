import Mathlib.Algebra.BigOperators.Group.List.Basic
import Floorplan.Proofs.Generate.Account

set_option autoImplicit false

namespace Floorplan

section Totals

variable {α : Type}

structure Layout.Accounted (layout : Layout α) : Prop where
  rooms : ∀ (k : Nat) (room : Room α), layout.rooms[k]? = some room →
    room.id = ⟨k⟩ ∧ room.doors = layout.connectors.flatMap (·.doorsAt k)
  connectors : ∀ (i : Nat) (connector : Connector α), layout.connectors[i]? = some connector →
    connector.id = ⟨i⟩
  inRange : ∀ connector ∈ layout.connectors,
    connector.rooms.1.index < layout.rooms.size ∧ connector.rooms.2.index < layout.rooms.size

def Layout.doorCount (layout : Layout α) : Nat := (layout.rooms.toList.map (·.doors.length)).sum

theorem sum_at_place (i n : Nat) :
    ((List.range n).map fun k => if i = k then 1 else 0).sum = if i < n then 1 else 0 := by
  induction n with
  | zero => rfl
  | succ n ih =>
      rw [List.range_succ, List.map_append, List.sum_append, ih, List.map_singleton, List.sum_singleton]
      split_ifs <;> omega

theorem doors_at_length (connector : Connector α) (k : Nat) :
    (connector.doorsAt k).length =
      (if connector.rooms.1.index = k then 1 else 0) + if connector.rooms.2.index = k then 1 else 0 := by
  rw [Connector.doorsAt, List.length_append]
  split_ifs <;> rfl

theorem doors_at_total (connector : Connector α) (n : Nat) (first : connector.rooms.1.index < n)
    (second : connector.rooms.2.index < n) :
    ((List.range n).map fun k => (connector.doorsAt k).length).sum = 2 := by
  simp only [doors_at_length, List.sum_map_add, sum_at_place, if_pos first, if_pos second]

theorem all_doors_total (connectors : List (Connector α)) (n : Nat)
    (inRange : ∀ connector ∈ connectors, connector.rooms.1.index < n ∧ connector.rooms.2.index < n) :
    ((List.range n).map fun k => (connectors.flatMap (·.doorsAt k)).length).sum = 2 * connectors.length := by
  induction connectors with
  | nil => simp
  | cons connector rest ih =>
      obtain ⟨first, second⟩ := inRange connector List.mem_cons_self
      have others := ih fun other listed => inRange other (List.mem_cons_of_mem _ listed)
      simp only [List.flatMap_cons, List.length_append, List.sum_map_add, others,
        doors_at_total connector n first second, List.length_cons]
      omega

theorem Layout.Accounted.door_count {layout : Layout α} (accounted : layout.Accounted) :
    layout.doorCount = 2 * layout.connectors.length := by
  have lists : layout.rooms.toList.map (·.doors.length) =
      (List.range layout.rooms.size).map fun k => (layout.connectors.flatMap (·.doorsAt k)).length := by
    apply List.ext_getElem
    · simp
    · intro k listed counted
      have inside : k < layout.rooms.size := by simpa using listed
      have doors := (accounted.rooms k layout.rooms[k] (Array.getElem?_eq_getElem inside)).2
      simp [doors]
  rw [Layout.doorCount, lists, all_doors_total _ _ accounted.inRange]

end Totals

variable {α : Type} [Coord α]

theorem generated_accounted (config : Config α) (seed : UInt64) (layout : Layout α)
    (generated : generate config seed = .ok layout) : layout.Accounted := by
  obtain ⟨number, finished⟩ := generate_ok config seed layout generated
  obtain ⟨placed, index, rest, placing, routed, _⟩ := attempt_ok config _ _ _ layout finished
  have initial := place_rooms_placed (.ofConfig config) _ (SpatialIndex.new_faithful config.indexCellSize)
    _ placed index rest placing
  have spans := spanning_tree_spec placed initial.numbered config.metric
  obtain ⟨extra, edges, _, extras⟩ := build_edges_spec placed config.metric config.extraEdgeFraction rest
  obtain ⟨rooms, account⟩ := route_by_kind_account config placed index initial.faithful _ _ _ _ routed
  have joins := tree_and_extras_join placed initial.numbered _ extra spans extras
  rw [← edges] at joins
  have read : ∀ k : Nat, layout.rooms[k]? = placed[k]?.map fun room =>
      { room with doors := room.doors ++ layout.connectors.flatMap (·.doorsAt k) } := by
    intro k
    rw [← rooms]
    exact account.rooms k
  have size : layout.rooms.size = placed.size := by
    have past (k : Nat) : layout.rooms.size ≤ k ↔ placed.size ≤ k := by
      rw [← Array.getElem?_eq_none_iff, ← Array.getElem?_eq_none_iff, read, Option.map_eq_none_iff]
    exact Nat.le_antisymm ((past _).mpr (Nat.le_refl _)) ((past _).mp (Nat.le_refl _))
  obtain ⟨kept, sublist, _, pairs⟩ := account.pairs
  refine ⟨?_, account.ids, ?_⟩
  · intro k room found
    rw [read] at found
    obtain ⟨original, originalRead, rfl⟩ := Option.map_eq_some_iff.mp found
    have doorless := initial.doorless original (Array.mem_of_getElem? originalRead)
    have number : original.id = ⟨k⟩ := congrArg RoomId.mk (initial.numbered k original originalRead)
    exact ⟨number, by rw [doorless, List.nil_append]⟩
  · intro connector listed
    rw [size]
    have ends : connector.rooms ∈ kept.map Edge.ends := pairs ▸ List.mem_map_of_mem listed
    exact joins.inRange _ ((sublist.map Edge.ends).subset ends)

end Floorplan

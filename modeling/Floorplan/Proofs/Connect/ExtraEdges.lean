import Floorplan.Edge
import Floorplan.Proofs.Route.Call

set_option autoImplicit false

namespace Floorplan

open Floorplan.Random (Draw Rng)

theorem unordered_joined (source target : RoomId) (pairs : List (RoomId × RoomId)) (apart : target ≠ source)
    (joined : unordered source target ∈ pairs) : target ∈ partners source pairs := by
  rw [unordered] at joined
  split at joined
  · exact List.mem_filterMap.mpr ⟨_, joined, if_pos rfl⟩
  · refine List.mem_filterMap.mpr ⟨_, joined, ?_⟩
    simp only [if_neg apart, if_true]

variable {α : Type} [Coord α]

theorem nearest_mem (items : List (RoomId × α)) (best : RoomId × α) (found : nearest? items = some best) :
    best ∈ items := by
  cases items with
  | nil => cases found
  | cons first rest =>
      obtain rfl := Option.some.inj found
      induction rest generalizing first with
      | nil => exact List.mem_cons_self
      | cons next later ih =>
          rw [List.foldl_cons]
          split
          · rcases List.mem_cons.mp (ih first rfl) with same | member
            · exact List.mem_cons.mpr (.inl same)
            · exact List.mem_cons_of_mem _ (List.mem_cons_of_mem _ member)
          · exact List.mem_cons_of_mem _ (ih next rfl)

theorem nearest_unpaired_spec (rooms : Array (Room α)) (metric : Metric) (id target : RoomId)
    (pairs : List (RoomId × RoomId)) (weight : α)
    (found : nearestUnpaired rooms metric id pairs = some (target, weight)) :
    id.index < rooms.size ∧ (∃ room ∈ rooms, room.id = target) ∧ target ≠ id ∧ unordered id target ∉ pairs := by
  rw [nearestUnpaired] at found
  cases read : rooms[id.index]? with
  | none => simp [read] at found
  | some room =>
      rw [read] at found
      obtain ⟨other, free, same⟩ := List.mem_map.mp (nearest_mem _ _ found)
      obtain ⟨listed, passed⟩ := List.mem_filter.mp free
      obtain rfl : other.id = target := congrArg (·.1) same
      simp only [Bool.and_eq_true, bne_iff_ne, Bool.not_eq_true', List.contains_eq_mem, decide_eq_false_iff_not]
        at passed
      refine ⟨(Array.getElem?_eq_some_iff.mp read).1, ⟨other, Array.mem_toList_iff.mp listed, rfl⟩, passed.1, ?_⟩
      exact fun joined => passed.2 (unordered_joined id other.id pairs passed.1 joined)

structure Extras (rooms : Array (Room α)) (pairs : List (RoomId × RoomId)) (edges : List (Edge α)) : Prop where
  extra : ∀ e ∈ edges, e.isTree = false
  apart : ∀ e ∈ edges, e.a ≠ e.b
  inRange : ∀ e ∈ edges, e.a.index < rooms.size ∧ ∃ room ∈ rooms, room.id = e.b
  fresh : ∀ e ∈ edges, e.key ∉ pairs
  once : (edges.map Edge.key).Nodup

namespace Extras

variable {rooms : Array (Room α)} {pairs : List (RoomId × RoomId)} {edges : List (Edge α)}

omit [Coord α]

theorem nil : Extras rooms pairs [] := ⟨nofun, nofun, nofun, nofun, .nil⟩

theorem cons (e : Edge α) (later : Extras rooms (e.key :: pairs) edges) (extra : e.isTree = false)
    (apart : e.a ≠ e.b) (inRange : e.a.index < rooms.size ∧ ∃ room ∈ rooms, room.id = e.b)
    (fresh : e.key ∉ pairs) : Extras rooms pairs (e :: edges) where
  extra := List.forall_mem_cons.mpr ⟨extra, later.extra⟩
  apart := List.forall_mem_cons.mpr ⟨apart, later.apart⟩
  inRange := List.forall_mem_cons.mpr ⟨inRange, later.inRange⟩
  fresh := List.forall_mem_cons.mpr
    ⟨fresh, fun other member paired => later.fresh other member (List.mem_cons_of_mem _ paired)⟩
  once := by
    refine List.nodup_cons.mpr ⟨fun listed => ?_, later.once⟩
    obtain ⟨other, member, same⟩ := List.mem_map.mp listed
    exact later.fresh other member (List.mem_cons.mpr (.inl same))

theorem sublist {kept : List (Edge α)} (extras : Extras rooms pairs edges) (sublist : kept.Sublist edges) :
    Extras rooms pairs kept where
  extra e member := extras.extra e (sublist.subset member)
  apart e member := extras.apart e (sublist.subset member)
  inRange e member := extras.inRange e (sublist.subset member)
  fresh e member := extras.fresh e (sublist.subset member)
  once := extras.once.sublist (sublist.map _)

end Extras

def drawnEnd (edge : Edge α) : Draw RoomId := (fun first => if first then edge.a else edge.b) <$> Random.oneIn 2

omit [Coord α] in
theorem drawn_end_mem (edge : Edge α) (rng : Rng) :
    ((drawnEnd edge).run rng).1 = edge.a ∨ ((drawnEnd edge).run rng).1 = edge.b := by
  change (if ((Random.oneIn 2).run rng).1 then edge.a else edge.b) = edge.a
    ∨ (if ((Random.oneIn 2).run rng).1 then edge.a else edge.b) = edge.b
  cases ((Random.oneIn 2).run rng).1 with
  | true => exact .inl rfl
  | false => exact .inr rfl

section Step

variable (rooms : Array (Room α)) (metric : Metric) (edge : Edge α) (edges : List (Edge α)) (left : Nat)
  (pairs : List (RoomId × RoomId)) (rng : Rng)

theorem extra_from_missed (missed : nearestUnpaired rooms metric ((drawnEnd edge).run rng).1 pairs = none) :
    (extraFrom rooms metric (edge :: edges) (left + 1) pairs).run rng
      = (extraFrom rooms metric edges (left + 1) pairs).run ((drawnEnd edge).run rng).2 := by
  change nearestUnpaired rooms metric (if ((Random.oneIn 2).run rng).1 then edge.a else edge.b) pairs = none at missed
  simp only [extraFrom, draw_run_bind, missed]
  rfl

theorem extra_from_found (target : RoomId) (weight : α)
    (found : nearestUnpaired rooms metric ((drawnEnd edge).run rng).1 pairs = some (target, weight)) :
    let source := ((drawnEnd edge).run rng).1
    let later := (extraFrom rooms metric edges left (unordered source target :: pairs)).run ((drawnEnd edge).run rng).2
    (extraFrom rooms metric (edge :: edges) (left + 1) pairs).run rng
      = ({ a := source, b := target, weight, kind := .extra } :: later.1, later.2) := by
  change nearestUnpaired rooms metric (if ((Random.oneIn 2).run rng).1 then edge.a else edge.b) pairs = _ at found
  simp only [extraFrom, draw_run_bind, found]
  rfl

end Step

theorem extra_from_spec (rooms : Array (Room α)) (metric : Metric) (edges : List (Edge α)) (left : Nat)
    (pairs : List (RoomId × RoomId)) (rng : Rng) :
    let extra := ((extraFrom rooms metric edges left pairs).run rng).1
    extra.length ≤ left ∧ Extras rooms pairs extra := by
  -- the pairs grow by the key of each edge that is found, which keeps the later ones off it
  induction edges generalizing left pairs rng with
  | nil => exact ⟨Nat.zero_le _, nofun, nofun, nofun, nofun, .nil⟩
  | cons e rest ih =>
      cases left with
      | zero => exact ⟨Nat.le_refl _, nofun, nofun, nofun, nofun, .nil⟩
      | succ left =>
          cases found : nearestUnpaired rooms metric ((drawnEnd e).run rng).1 pairs with
          | none =>
              rw [extra_from_missed rooms metric e rest left pairs rng found]
              exact ih (left + 1) pairs ((drawnEnd e).run rng).2
          | some best =>
              obtain ⟨target, weight⟩ := best
              rw [extra_from_found rooms metric e rest left pairs rng target weight found]
              obtain ⟨sourceRange, targetListed, apart, unjoined⟩ :=
                nearest_unpaired_spec rooms metric _ target pairs weight found
              obtain ⟨few, later⟩ := ih left (unordered ((drawnEnd e).run rng).1 target :: pairs) ((drawnEnd e).run rng).2
              exact ⟨Nat.succ_le_succ few, .cons { a := _, b := target, weight, kind := .extra } later rfl
                (Ne.symm apart) ⟨sourceRange, targetListed⟩ unjoined⟩

theorem build_edges_spec (rooms : Array (Room α)) (metric : Metric) (fraction : α) (rng : Rng) :
    let tree := spanningTree rooms metric
    ∃ extra, ((buildEdges rooms metric fraction).run rng).1 = tree ++ extra
      ∧ extra.length ≤ extraCount tree.length fraction ∧ Extras rooms (tree.map Edge.key) extra := by
  intro tree
  simp only [buildEdges]
  split
  · exact ⟨[], (List.append_nil _).symm, Nat.zero_le _, .nil⟩
  · simp only [draw_run_bind, draw_run_pure, extraEdges]
    generalize (Random.shuffle (spanningTree rooms metric).toArray).run rng = shuffled
    exact ⟨_, rfl, extra_from_spec rooms metric shuffled.1.toList _ _ shuffled.2⟩

end Floorplan

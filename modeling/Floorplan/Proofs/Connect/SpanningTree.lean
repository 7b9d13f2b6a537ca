import Floorplan.Edge
import Floorplan.Proofs.Connect.Joined

set_option autoImplicit false

namespace Floorplan

open Components (Joined Tracks)

def Edge.ends {α : Type} (e : Edge α) : RoomId × RoomId := (e.a, e.b)

def places (ends : RoomId × RoomId) : Nat × Nat := (ends.1.index, ends.2.index)

def Edge.Earlier {α : Type} (e f : Edge α) : Prop :=
  e.a.index < f.a.index ∨ e.a.index = f.a.index ∧ e.b.index < f.b.index

def Numbered {α : Type} (rooms : Array (Room α)) : Prop :=
  ∀ (k : Nat) (room : Room α), rooms[k]? = some room → room.id.index = k

variable {α : Type}

theorem numbered_rising (rooms : Array (Room α)) (numbered : Numbered rooms) :
    rooms.toList.Pairwise fun p q => p.id.index < q.id.index := by
  apply List.pairwise_iff_getElem.mpr
  intro i j iRange jRange before
  have first := numbered i _ (Array.getElem?_eq_getElem iRange)
  have second := numbered j _ (Array.getElem?_eq_getElem jRange)
  rw [Array.getElem_toList, Array.getElem_toList, first, second]
  exact before

theorem numbered_lt (rooms : Array (Room α)) (numbered : Numbered rooms) (room : Room α)
    (listed : room ∈ rooms.toList) : room.id.index < rooms.size := by
  obtain ⟨k, read⟩ := Array.getElem?_of_mem (Array.mem_toList_iff.mp listed)
  rw [numbered k room read]
  exact (Array.getElem?_eq_some_iff.mp read).1

theorem linking_edges_sublist (edges : List (Edge α)) (c : Components) :
    (linkingEdges edges c).Sublist edges := by
  induction edges generalizing c with
  | nil => exact .slnil
  | cons e rest ih =>
      simp only [linkingEdges]
      split
      · exact (ih _).cons_cons e
      · exact (ih _).cons e

theorem linking_edges_spec (edges : List (Edge α)) (c : Components) (pairs : List (Nat × Nat))
    (tracks : Tracks c pairs) (inRange : ∀ e ∈ edges, e.a.index < c.size ∧ e.b.index < c.size) :
    let links := (linkingEdges edges c).map fun e => places e.ends
    (∃ final, Tracks final (pairs ++ links) ∧ final.size = c.size ∧ final.count + links.length = c.count)
      ∧ ∀ e ∈ edges, Joined (pairs ++ links) e.a.index e.b.index := by
  induction edges generalizing c pairs with
  | nil => exact ⟨⟨c, by simpa [linkingEdges] using tracks, rfl, rfl⟩, nofun⟩
  | cons e rest ih =>
      obtain ⟨aRange, bRange⟩ := inRange e List.mem_cons_self
      obtain ⟨after, size, fresh, fewer⟩ := Components.merge_tracks tracks e.a.index e.b.index aRange bRange
      have restRange : ∀ other ∈ rest, other.a.index < (c.merge e.a.index e.b.index).2.size
          ∧ other.b.index < (c.merge e.a.index e.b.index).2.size := by
        intro other member
        rw [size]
        exact inRange other (List.mem_cons_of_mem e member)
      simp only [linkingEdges]
      cases linked : (c.merge e.a.index e.b.index).1 with
      | true =>
          rw [linked] at fewer
          obtain ⟨⟨final, finalTracks, finalSize, finalCount⟩, joined⟩ := ih _ _ after restRange
          rw [if_pos rfl, List.map_cons, List.append_cons]
          refine ⟨⟨final, finalTracks, finalSize.trans size, ?_⟩, ?_⟩
          · rw [List.length_cons, ← Nat.add_assoc, finalCount]
            exact fewer
          · intro other member
            rcases List.mem_cons.mp member with rfl | later
            · exact .of_mem (List.mem_append_left _ (List.mem_append_right _ List.mem_cons_self))
            · exact joined other later
      | false =>
          rw [linked] at fewer
          -- an edge that links nothing joins what the links before it join
          have already : Joined pairs e.a.index e.b.index := by
            by_contra apart
            rw [fresh.mpr apart] at linked
            cases linked
          obtain ⟨⟨final, finalTracks, finalSize, finalCount⟩, joined⟩ := ih _ pairs
            (after.congr fun i j => (Joined.concat_redundant already).symm) restRange
          rw [if_neg Bool.false_ne_true]
          refine ⟨⟨final, finalTracks, finalSize.trans size, finalCount.trans fewer⟩, ?_⟩
          intro other member
          rcases List.mem_cons.mp member with rfl | later
          · exact already.mono (List.subset_append_left _ _)
          · exact joined other later

variable [Coord α]

theorem pair_edges_sound (metric : Metric) (rel : Room α → Room α → Prop) (rooms : List (Room α))
    (related : rooms.Pairwise rel) :
    ∀ e ∈ pairEdges metric rooms, ∃ p ∈ rooms, ∃ q ∈ rooms, rel p q
      ∧ e = { a := p.id, b := q.id, weight := metric.distance p.center q.center, kind := .tree } := by
  induction rooms with
  | nil => exact nofun
  | cons room later ih =>
      obtain ⟨first, rest⟩ := List.pairwise_cons.mp related
      intro e member
      rcases List.mem_append.mp member with mine | others
      · obtain ⟨other, listed, rfl⟩ := List.mem_map.mp mine
        exact ⟨room, List.mem_cons_self, other, List.mem_cons_of_mem _ listed, first other listed, rfl⟩
      · obtain ⟨p, pListed, q, qListed, known⟩ := ih rest e others
        exact ⟨p, List.mem_cons_of_mem _ pListed, q, List.mem_cons_of_mem _ qListed, known⟩

theorem pair_edges_complete (metric : Metric) (rooms : List (Room α)) :
    rooms.Pairwise fun p q =>
      { a := p.id, b := q.id, weight := metric.distance p.center q.center, kind := .tree } ∈
        pairEdges metric rooms := by
  induction rooms with
  | nil => exact .nil
  | cons room later ih =>
      refine .cons ?_ (ih.imp fun member => List.mem_append_right _ member)
      intro other listed
      exact List.mem_append_left _ (List.mem_map_of_mem listed)

theorem pair_edges_earlier (metric : Metric) (rooms : List (Room α))
    (rising : rooms.Pairwise fun p q => p.id.index < q.id.index) :
    (pairEdges metric rooms).Pairwise Edge.Earlier := by
  induction rooms with
  | nil => exact .nil
  | cons room later ih =>
      obtain ⟨first, rest⟩ := List.pairwise_cons.mp rising
      rw [pairEdges, List.pairwise_append]
      refine ⟨List.pairwise_map.mpr (rest.imp fun before => .inr ⟨rfl, before⟩), ih rest, ?_⟩
      intro mine mineListed other otherListed
      obtain ⟨_, _, rfl⟩ := List.mem_map.mp mineListed
      obtain ⟨p, pListed, q, _, _, rfl⟩ := pair_edges_sound metric _ later rest other otherListed
      exact .inl (first p pListed)

theorem pair_edges_nodup (metric : Metric) (rooms : List (Room α))
    (rising : rooms.Pairwise fun p q => p.id.index < q.id.index) :
    ((pairEdges metric rooms).map Edge.ends).Nodup := by
  refine List.pairwise_map.mpr ((pair_edges_earlier metric rooms rising).imp fun {e f} earlier same => ?_)
  have aSame : e.a = f.a := congrArg (·.1) same
  have bSame : e.b = f.b := congrArg (·.2) same
  rw [Edge.Earlier, aSame, bSame] at earlier
  omega

theorem pair_edges_rise (rooms : Array (Room α)) (numbered : Numbered rooms) (metric : Metric) :
    ∀ e ∈ pairEdges metric rooms.toList,
      e.isTree = true ∧ e.a.index < e.b.index ∧ e.b.index < rooms.size := by
  intro e member
  obtain ⟨p, _, q, listed, before, rfl⟩ :=
    pair_edges_sound metric _ rooms.toList (numbered_rising rooms numbered) e member
  exact ⟨rfl, before, numbered_lt rooms numbered q listed⟩

theorem pair_edges_reach (rooms : Array (Room α)) (numbered : Numbered rooms) (metric : Metric) (i j : Nat)
    (before : i < j) (inside : j < rooms.size) :
    ∃ e ∈ pairEdges metric rooms.toList, e.a.index = i ∧ e.b.index = j := by
  have iRange := Nat.lt_trans before inside
  have complete := List.pairwise_iff_getElem.mp (pair_edges_complete metric rooms.toList) i j iRange inside before
  refine ⟨_, complete, ?_, ?_⟩
  · exact numbered i _ (Array.getElem?_eq_getElem iRange)
  · exact numbered j _ (Array.getElem?_eq_getElem inside)

structure Spans (rooms : Array (Room α)) (tree : List (Edge α)) : Prop where
  length : tree.length = rooms.size - 1
  needed : ∀ e ∈ tree, e.isTree = true
  rising : ∀ e ∈ tree, e.a.index < e.b.index
  inRange : ∀ e ∈ tree, e.b.index < rooms.size
  once : (tree.map Edge.ends).Nodup
  joined : ∀ i < rooms.size, ∀ j < rooms.size, Joined (tree.map fun e => places e.ends) i j

theorem spanning_tree_spec (rooms : Array (Room α)) (numbered : Numbered rooms) (metric : Metric) :
    Spans rooms (spanningTree rooms metric) := by
  -- whatever the order of weights is, sorting only permutes the candidates
  let sorted := (pairEdges metric rooms.toList).mergeSort fun e f => Coord.totalLe e.weight f.weight
  have same : sorted.Perm (pairEdges metric rooms.toList) := List.mergeSort_perm _ _
  have sublist : (spanningTree rooms metric).Sublist sorted := linking_edges_sublist sorted _
  have rise : ∀ e ∈ sorted, e.isTree = true ∧ e.a.index < e.b.index ∧ e.b.index < rooms.size :=
    fun e member => pair_edges_rise rooms numbered metric e (same.mem_iff.mp member)
  have inRange : ∀ e ∈ sorted, e.a.index < (Components.new rooms.size).size
      ∧ e.b.index < (Components.new rooms.size).size := by
    intro e member
    rw [Components.new_size]
    obtain ⟨_, before, inside⟩ := rise e member
    exact ⟨Nat.lt_trans before inside, inside⟩
  obtain ⟨⟨final, tracks, size, counted⟩, linked⟩ :=
    linking_edges_spec sorted _ [] (Components.new_tracks rooms.size) inRange
  change Tracks final ((spanningTree rooms metric).map fun e => places e.ends) at tracks
  change ∀ e ∈ sorted, Joined ((spanningTree rooms metric).map fun e => places e.ends) _ _ at linked
  change final.count + ((spanningTree rooms metric).map fun e => places e.ends).length = rooms.size at counted
  rw [Components.new_size] at size
  have ordered : ∀ i j : Nat, i < j → j < rooms.size →
      Joined ((spanningTree rooms metric).map fun e => places e.ends) i j := by
    intro i j before inside
    obtain ⟨e, member, rfl, rfl⟩ := pair_edges_reach rooms numbered metric i j before inside
    exact linked e (same.mem_iff.mpr member)
  have joined : ∀ i < rooms.size, ∀ j < rooms.size,
      Joined ((spanningTree rooms metric).map fun e => places e.ends) i j := by
    intro i iRange j jRange
    rcases Nat.lt_trichotomy i j with before | rfl | after
    · exact ordered i j before jRange
    · exact .refl i
    · exact (ordered j i after iRange).symm
  refine ⟨?_, ?_, ?_, ?_, ?_, joined⟩
  · rw [List.length_map] at counted
    have single := Components.count_of_joined tracks (by rwa [size])
    rw [size] at single
    omega
  · exact fun e member => (rise e (sublist.subset member)).1
  · exact fun e member => (rise e (sublist.subset member)).2.1
  · exact fun e member => (rise e (sublist.subset member)).2.2
  · have once := pair_edges_nodup metric rooms.toList (numbered_rising rooms numbered)
    exact ((same.map _).nodup_iff.mpr once).sublist (sublist.map _)

end Floorplan

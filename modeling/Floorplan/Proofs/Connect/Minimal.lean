import Mathlib.Tactic.IntervalCases
import Floorplan.Coord.Double
import Floorplan.Proofs.Connect.SpanningTree

/-!
The tree is the least one. In the order of the weights, and of the places where weights are equal, it takes an edge
exactly when those before it do not join its ends; so up to every weight it joins what all pairs of rooms join.
-/

set_option autoImplicit false

namespace Floorplan

open Components (Joined Tracks)

variable {α : Type}

def Linked (edges : Edge α → Prop) : Nat → Nat → Prop :=
  Relation.EqvGen fun i j => ∃ e, edges e ∧ e.a.index = i ∧ e.b.index = j

namespace Linked

variable {edges more : Edge α → Prop} {i j : Nat}

theorem of_edge (e : Edge α) (member : edges e) : Linked edges e.a.index e.b.index :=
  .rel _ _ ⟨e, member, rfl, rfl⟩

theorem through (each : ∀ e, edges e → Linked more e.a.index e.b.index) (linked : Linked edges i j) :
    Linked more i j := by
  induction linked with
  | rel x y found =>
      obtain ⟨e, member, rfl, rfl⟩ := found
      exact each e member
  | refl x => exact .refl x
  | symm x y _ ih => exact .symm _ _ ih
  | trans x y z _ _ first second => exact .trans _ _ _ first second

theorem mono (sub : ∀ e, edges e → more e) (linked : Linked edges i j) : Linked more i j :=
  linked.through fun e member => of_edge e (sub e member)

theorem iff_joined (list : List (Edge α)) :
    Linked (· ∈ list) i j ↔ Joined (list.map fun e => places e.ends) i j := by
  have same : ∀ x y, (∃ e, e ∈ list ∧ e.a.index = x ∧ e.b.index = y) ↔
      (x, y) ∈ list.map fun e => places e.ends := by
    intro x y
    simp only [List.mem_map, places, Edge.ends, Prod.mk.injEq]
  simp only [Linked, Components.Joined, same]

end Linked

namespace Components

variable {c : Components} {pairs : List (Nat × Nat)}

theorem merges_count (tracks : Tracks c pairs) (more : List (Nat × Nat))
    (inRange : ∀ pair ∈ more, pair.1 < c.size ∧ pair.2 < c.size) :
    c.count ≤ (more.foldl (fun c pair => (c.merge pair.1 pair.2).2) c).count + more.length := by
  induction more generalizing c pairs with
  | nil => exact Nat.le_refl _
  | cons pair rest ih =>
      obtain ⟨aRange, bRange⟩ := inRange pair List.mem_cons_self
      obtain ⟨after, size, _, fewer⟩ := merge_tracks tracks pair.1 pair.2 aRange bRange
      have later := ih after fun other member => by
        rw [size]
        exact inRange other (List.mem_cons_of_mem _ member)
      have one := Bool.toNat_le (c.merge pair.1 pair.2).1
      rw [List.foldl_cons, List.length_cons]
      omega

-- Fewer pairs than it takes leave some places apart.
theorem pairs_enough (n : Nat) (links : List (Nat × Nat)) (inRange : ∀ pair ∈ links, pair.1 < n ∧ pair.2 < n)
    (joined : ∀ i < n, ∀ j < n, Joined links i j) : n ≤ links.length + 1 := by
  have size := new_size n
  obtain ⟨final, sameSize⟩ := merges_track (new_tracks n) links (by rwa [size])
  have fewer := merges_count (new_tracks n) links (by rwa [size])
  rw [size] at sameSize
  have single := count_of_joined final (by rwa [sameSize, List.nil_append])
  have start : (Components.new n).count = n := rfl
  omega

end Components

section Order

variable {β : Type} (items : List β) (x y : β)

theorem pair_sublist (xListed : x ∈ items) (yListed : y ∈ items) (different : x ≠ y) :
    [x, y].Sublist items ∨ [y, x].Sublist items := by
  induction items with
  | nil => cases xListed
  | cons item rest ih =>
      rcases List.mem_cons.mp xListed with rfl | xLater
      · have yLater := (List.mem_cons.mp yListed).resolve_left different.symm
        exact .inl (.cons_cons x (List.singleton_sublist.mpr yLater))
      · rcases List.mem_cons.mp yListed with rfl | yLater
        · exact .inr (.cons_cons y (List.singleton_sublist.mpr xLater))
        · exact (ih xLater yLater).imp (.cons item) (.cons item)

theorem pair_once (once : items.Nodup) (sub : [x, y].Sublist items) : ¬ [y, x].Sublist items := by
  induction items with
  | nil => cases sub
  | cons item rest ih =>
      obtain ⟨fresh, others⟩ := List.nodup_cons.mp once
      intro turned
      cases sub with
      | cons _ later =>
          cases turned with
          | cons _ turnedLater => exact ih others later turnedLater
          | cons_cons _ _ => exact fresh (later.subset (by simp))
      | cons_cons _ later =>
          cases turned with
          | cons _ turnedLater => exact fresh (turnedLater.subset (by simp))
          | cons_cons _ _ => exact fresh (later.subset (by simp))

end Order

section Scan

def linkAll (edges : List (Edge α)) (c : Components) : Components :=
  (edges.map fun e => places e.ends).foldl (fun c pair => (c.merge pair.1 pair.2).2) c

theorem linking_edges_append (front back : List (Edge α)) (c : Components) :
    linkingEdges (front ++ back) c = linkingEdges front c ++ linkingEdges back (linkAll front c) := by
  induction front generalizing c with
  | nil => rfl
  | cons e rest ih =>
      simp only [List.cons_append, linkingEdges, ih]
      split <;> rfl

theorem linking_edges_mem (front back : List (Edge α)) (e : Edge α) (once : (front ++ e :: back).Nodup)
    (c : Components) (pairs : List (Nat × Nat)) (tracks : Tracks c pairs)
    (inRange : ∀ f ∈ front ++ e :: back, f.a.index < c.size ∧ f.b.index < c.size) :
    e ∈ linkingEdges (front ++ e :: back) c ↔
      ¬ Joined (pairs ++ front.map fun f => places f.ends) e.a.index e.b.index := by
  obtain ⟨_, rest, apart⟩ := List.nodup_append.mp once
  have early : e ∉ linkingEdges front c := fun member =>
    apart e ((linking_edges_sublist front c).subset member) e List.mem_cons_self rfl
  have late : ∀ d, e ∉ linkingEdges back d := fun d member =>
    (List.nodup_cons.mp rest).1 ((linking_edges_sublist back d).subset member)
  have frontRange : ∀ pair ∈ front.map fun f => places f.ends, pair.1 < c.size ∧ pair.2 < c.size := by
    intro pair listed
    obtain ⟨f, member, rfl⟩ := List.mem_map.mp listed
    exact inRange f (List.mem_append_left _ member)
  obtain ⟨after, size⟩ := Components.merges_track tracks _ frontRange
  obtain ⟨aRange, bRange⟩ := inRange e (List.mem_append_right _ List.mem_cons_self)
  rw [← size] at aRange bRange
  obtain ⟨_, _, fresh, _⟩ := Components.merge_tracks after e.a.index e.b.index aRange bRange
  rw [linking_edges_append, List.mem_append, or_iff_right early, ← fresh]
  change e ∈ linkingEdges (e :: back) (linkAll front c) ↔ ((linkAll front c).merge e.a.index e.b.index).1 = true
  simp only [linkingEdges]
  split
  next linked => exact iff_of_true List.mem_cons_self linked
  next stale => exact iff_of_false (late _) stale

def firstLinking : Nat → List (Edge α) → Components → List (Edge α)
  | _, [], _ => []
  | left, e :: rest, c =>
    let (fresh, c) := c.merge e.a.index e.b.index
    if fresh then e :: if left ≤ 1 then [] else firstLinking (left - 1) rest c
    else firstLinking left rest c

theorem first_linking_eq (left : Nat) (edges : List (Edge α)) (c : Components)
    (enough : (linkingEdges edges c).length ≤ left) : firstLinking left edges c = linkingEdges edges c := by
  induction edges generalizing left c with
  | nil => rfl
  | cons e rest ih =>
      simp only [firstLinking, linkingEdges] at enough ⊢
      split
      next fresh =>
        rw [if_pos fresh, List.length_cons] at enough
        split
        next last =>
          have none : (linkingEdges rest (c.merge e.a.index e.b.index).2).length = 0 := by omega
          rw [List.length_eq_zero_iff.mp none]
        next => rw [ih (left - 1) _ (by omega)]
      next stale =>
        rw [if_neg stale] at enough
        exact ih left _ enough

end Scan

variable [Coord α]

inductive PairEdge (rooms : Array (Room α)) (metric : Metric) : Edge α → Prop
  | between (i j : Nat) (p q : Room α) (before : i < j) (first : rooms[i]? = some p) (second : rooms[j]? = some q) :
      PairEdge rooms metric { a := ⟨i⟩, b := ⟨j⟩, weight := metric.distance p.center q.center, kind := .tree }

namespace Edge

def Before (e f : Edge α) : Prop :=
  Coord.totalLe e.weight f.weight = true ∧ (Coord.totalLe f.weight e.weight = true → e.Earlier f)

theorem Before.asymm {e f : Edge α} (first : e.Before f) : ¬ f.Before e := by
  intro second
  have one := first.2 second.1
  have other := second.2 first.1
  simp only [Earlier] at one other
  omega

end Edge

def sortedPairs (rooms : Array (Room α)) (metric : Metric) : List (Edge α) :=
  (pairEdges metric rooms.toList).mergeSort fun e f => Coord.totalLe e.weight f.weight

theorem total_le_refl (total : ∀ u v : α, (Coord.totalLe u v || Coord.totalLe v u) = true) (u : α) :
    Coord.totalLe u u = true := by
  have self := total u u
  rwa [Bool.or_self] at self

section Least

variable (rooms : Array (Room α)) (numbered : Numbered rooms) (metric : Metric)

include numbered

theorem sorted_pairs_mem (e : Edge α) : e ∈ sortedPairs rooms metric ↔ PairEdge rooms metric e := by
  rw [sortedPairs, (List.mergeSort_perm _ _).mem_iff]
  constructor
  · intro listed
    obtain ⟨p, pListed, q, qListed, before, rfl⟩ :=
      pair_edges_sound metric _ rooms.toList (numbered_rising rooms numbered) e listed
    have placed : ∀ room ∈ rooms.toList, rooms[room.id.index]? = some room := by
      intro room member
      obtain ⟨k, read⟩ := Array.getElem?_of_mem (Array.mem_toList_iff.mp member)
      rwa [numbered k room read]
    exact .between p.id.index q.id.index p q before (placed p pListed) (placed q qListed)
  · rintro ⟨i, j, p, q, before, first, second⟩
    obtain ⟨iRange, pRead⟩ := Array.getElem?_eq_some_iff.mp first
    obtain ⟨jRange, qRead⟩ := Array.getElem?_eq_some_iff.mp second
    have complete := List.pairwise_iff_getElem.mp (pair_edges_complete metric rooms.toList) i j iRange jRange before
    obtain rfl : p.id.index = i := numbered i p first
    obtain rfl : q.id.index = j := numbered j q second
    rwa [Array.getElem_toList, Array.getElem_toList, pRead, qRead] at complete

theorem sorted_pairs_nodup : (sortedPairs rooms metric).Nodup :=
  (List.mergeSort_perm _ _).nodup_iff.mpr
    (List.Nodup.of_map _ (pair_edges_nodup metric rooms.toList (numbered_rising rooms numbered)))

theorem sorted_pairs_range :
    ∀ e ∈ sortedPairs rooms metric, e.a.index < rooms.size ∧ e.b.index < rooms.size := by
  intro e listed
  obtain ⟨_, before, inside⟩ :=
    pair_edges_rise rooms numbered metric e ((List.mergeSort_perm _ _).mem_iff.mp listed)
  exact ⟨Nat.lt_trans before inside, inside⟩

variable (trans : ∀ u v w : α, Coord.totalLe u v = true → Coord.totalLe v w = true → Coord.totalLe u w = true)
  (total : ∀ u v : α, (Coord.totalLe u v || Coord.totalLe v u) = true)

include trans total

theorem sorted_pairs_before : (sortedPairs rooms metric).Pairwise Edge.Before := by
  let le (e f : Edge α) : Bool := Coord.totalLe e.weight f.weight
  have leTrans : ∀ e f g : Edge α, le e f = true → le f g = true → le e g = true := fun _ _ _ => trans _ _ _
  have leTotal : ∀ e f : Edge α, (le e f || le f e) = true := fun _ _ => total _ _
  have earlier := pair_edges_earlier metric rooms.toList (numbered_rising rooms numbered)
  refine List.pairwise_iff_forall_sublist.mpr fun {e f} sub => ⟨?_, fun back => ?_⟩
  · exact (List.pairwise_mergeSort leTrans leTotal _).forall_sublist sub
  · have member : ∀ g ∈ [e, f], g ∈ pairEdges metric rooms.toList := fun g listed =>
      (List.mergeSort_perm _ _).mem_iff.mp (sub.subset listed)
    have once := sorted_pairs_nodup rooms numbered metric
    have different : e ≠ f := fun same => by simpa [same] using once.sublist sub
    rcases pair_sublist _ e f (member e (by simp)) (member f (by simp)) different with kept | turned
    · exact earlier.forall_sublist kept
    · -- a pair that came earlier and is no heavier still comes first
      exact absurd (List.pair_sublist_mergeSort leTrans leTotal back turned) (pair_once _ e f once sub)

theorem sorted_pairs_split (e : Edge α) (pair : PairEdge rooms metric e) :
    ∃ front back, sortedPairs rooms metric = front ++ e :: back
      ∧ ∀ f, f ∈ front ↔ PairEdge rooms metric f ∧ f.Before e := by
  obtain ⟨front, back, split⟩ := List.append_of_mem ((sorted_pairs_mem rooms numbered metric e).mpr pair)
  have before := sorted_pairs_before rooms numbered metric trans total
  rw [split, List.pairwise_append] at before
  obtain ⟨_, rest, across⟩ := before
  refine ⟨front, back, split, fun f => ⟨fun member => ⟨?_, across f member e List.mem_cons_self⟩, ?_⟩⟩
  · rw [← sorted_pairs_mem rooms numbered, split]
    exact List.mem_append_left _ member
  · rintro ⟨other, earlier⟩
    rw [← sorted_pairs_mem rooms numbered, split] at other
    rcases List.mem_append.mp other with member | later
    · exact member
    · rcases List.mem_cons.mp later with rfl | later
      · exact absurd earlier earlier.asymm
      · exact absurd earlier ((List.pairwise_cons.mp rest).1 f later).asymm

theorem tree_mem_iff (e : Edge α) (pair : PairEdge rooms metric e) : e ∈ spanningTree rooms metric ↔
    ¬ Linked (fun f => PairEdge rooms metric f ∧ f.Before e) e.a.index e.b.index := by
  obtain ⟨front, back, split, before⟩ := sorted_pairs_split rooms numbered metric trans total e pair
  have once := sorted_pairs_nodup rooms numbered metric
  have inRange := sorted_pairs_range rooms numbered metric
  rw [split] at once inRange
  have linking := linking_edges_mem front back e once (.new rooms.size) [] (Components.new_tracks _)
    (by rwa [Components.new_size])
  rw [← split, List.nil_append, ← Linked.iff_joined] at linking
  simp only [before] at linking
  exact linking

theorem tree_links (e : Edge α) (pair : PairEdge rooms metric e) :
    Linked (fun f => f ∈ spanningTree rooms metric ∧ Coord.totalLe f.weight e.weight = true) e.a.index e.b.index := by
  obtain ⟨front, back, split, before⟩ := sorted_pairs_split rooms numbered metric trans total e pair
  have begins : spanningTree rooms metric = linkingEdges (front ++ [e]) (.new rooms.size)
      ++ linkingEdges back (linkAll (front ++ [e]) (.new rooms.size)) := by
    rw [← linking_edges_append, List.append_assoc, List.singleton_append, ← split]
    rfl
  have inRange := sorted_pairs_range rooms numbered metric
  rw [split, List.append_cons] at inRange
  obtain ⟨_, joined⟩ := linking_edges_spec (front ++ [e]) (.new rooms.size) [] (Components.new_tracks _)
    fun f member => by
      rw [Components.new_size]
      exact inRange f (List.mem_append_left _ member)
  have linked := joined e (List.mem_append_right _ List.mem_cons_self)
  rw [List.nil_append, ← Linked.iff_joined] at linked
  refine linked.mono fun f member => ⟨?_, ?_⟩
  · rw [begins]
    exact List.mem_append_left _ member
  · rcases List.mem_append.mp ((linking_edges_sublist _ _).subset member) with earlier | last
    · exact ((before f).mp earlier).2.1
    · rw [List.mem_singleton.mp last]
      exact total_le_refl total _

theorem tree_joins_as_pairs (bound : α) (i j : Nat) :
    Linked (fun e => e ∈ spanningTree rooms metric ∧ Coord.totalLe e.weight bound = true) i j ↔
      Linked (fun e => PairEdge rooms metric e ∧ Coord.totalLe e.weight bound = true) i j := by
  constructor
  · refine Linked.mono fun e member => ⟨?_, member.2⟩
    rw [← sorted_pairs_mem rooms numbered]
    exact (linking_edges_sublist _ _).subset member.1
  · refine Linked.through fun e pair => ?_
    refine (tree_links rooms numbered metric trans total e pair.1).mono fun f member => ⟨member.1, ?_⟩
    exact trans _ _ _ member.2 pair.2

end Least

section Cut

variable (rooms : Array (Room α)) (numbered : Numbered rooms) (metric : Metric)

include numbered

-- A tree has no edge to spare: the others are too few to join everything.
theorem tree_cut (e : Edge α) (member : e ∈ spanningTree rooms metric) :
    ¬ Linked (fun f => f ∈ spanningTree rooms metric ∧ f ≠ e) e.a.index e.b.index := by
  intro around
  have spans := spanning_tree_spec rooms numbered metric
  have inside := spans.inRange e member
  obtain ⟨front, back, split⟩ := List.append_of_mem member
  have others : ∀ f, f ∈ spanningTree rooms metric → f ≠ e → f ∈ front ++ back := by
    intro f listed different
    rw [split] at listed
    rcases List.mem_append.mp listed with early | late
    · exact List.mem_append_left _ early
    · exact List.mem_append_right _ ((List.mem_cons.mp late).resolve_left different)
  have joined : ∀ i < rooms.size, ∀ j < rooms.size,
      Joined ((front ++ back).map fun f => places f.ends) i j := by
    intro i iRange j jRange
    have linked := (Linked.iff_joined _).mpr (spans.joined i iRange j jRange)
    refine (Linked.iff_joined _).mp (linked.through fun f listed => ?_)
    by_cases same : f = e
    · rw [same]
      exact around.mono fun g other => others g other.1 other.2
    · exact .of_edge f (others f listed same)
  have enough := Components.pairs_enough rooms.size _ (fun pair listed => ?_) joined
  · have length := spans.length
    rw [split, List.length_append, List.length_cons] at length
    rw [List.length_map, List.length_append] at enough
    omega
  · obtain ⟨f, other, rfl⟩ := List.mem_map.mp listed
    have kept : f ∈ spanningTree rooms metric := by
      rw [split]
      exact (List.sublist_cons_self e back).append_left front |>.subset other
    exact ⟨Nat.lt_trans (spans.rising f kept) (spans.inRange f kept), spans.inRange f kept⟩

end Cut

-- The tree is that of the order of weights and places, whatever the weights are.
theorem spanning_tree_least (rooms : Array (Room α)) (numbered : Numbered rooms) (metric : Metric)
    (trans : ∀ u v w : α, Coord.totalLe u v = true → Coord.totalLe v w = true → Coord.totalLe u w = true)
    (total : ∀ u v : α, (Coord.totalLe u v || Coord.totalLe v u) = true) :
    let tree := spanningTree rooms metric
    let pair := PairEdge rooms metric
    tree.length = rooms.size - 1 ∧ (∀ e ∈ tree, pair e) ∧ tree.Pairwise Edge.Before
      ∧ (∀ e, pair e → (e ∈ tree ↔ ¬ Linked (fun f => pair f ∧ f.Before e) e.a.index e.b.index))
      ∧ (∀ i < rooms.size, ∀ j < rooms.size, Linked (· ∈ tree) i j)
      ∧ (∀ e ∈ tree, ¬ Linked (fun f => f ∈ tree ∧ f ≠ e) e.a.index e.b.index)
      ∧ (∀ bound i j, Linked (fun e => e ∈ tree ∧ Coord.totalLe e.weight bound = true) i j ↔
          Linked (fun e => pair e ∧ Coord.totalLe e.weight bound = true) i j)
      ∧ (∀ f, pair f → ∀ e ∈ tree, ¬ Linked (fun g => g ∈ tree ∧ g ≠ e) f.a.index f.b.index →
          Coord.totalLe e.weight f.weight = true)
      ∧ firstLinking (rooms.size - 1) (sortedPairs rooms metric) (.new rooms.size) = tree := by
  intro tree pair
  have spans := spanning_tree_spec rooms numbered metric
  have sublist : tree.Sublist (sortedPairs rooms metric) := linking_edges_sublist _ _
  refine ⟨spans.length, ?_, ?_, tree_mem_iff rooms numbered metric trans total, ?_, tree_cut rooms numbered metric,
    tree_joins_as_pairs rooms numbered metric trans total, ?_, ?_⟩
  · exact fun e member => (sorted_pairs_mem rooms numbered metric e).mp (sublist.subset member)
  · exact (sorted_pairs_before rooms numbered metric trans total).sublist sublist
  · exact fun i iRange j jRange => (Linked.iff_joined _).mpr (spans.joined i iRange j jRange)
  · intro f other e member cut
    by_contra heavier
    -- the tree joins the ends of `f` by edges no heavier than it, and `e` is none of these
    refine cut ((tree_links rooms numbered metric trans total f other).mono fun g light => ⟨light.1, ?_⟩)
    rintro rfl
    exact heavier light.2
  · exact first_linking_eq _ _ _ (Nat.le_of_eq spans.length)

namespace Double

theorem total_le_trans (u v w : Float) (first : Coord.totalLe u v = true) (second : Coord.totalLe v w = true) :
    Coord.totalLe u w = true :=
  decide_eq_true (Int.le_trans (of_decide_eq_true first) (of_decide_eq_true second))

theorem total_le_total (u v : Float) : (Coord.totalLe u v || Coord.totalLe v u) = true :=
  Bool.or_eq_true_iff.mpr ((Int.le_total (rank u) (rank v)).imp decide_eq_true decide_eq_true)

end Double

def triangleRooms : Array (Room Float) :=
  #[.new ⟨0⟩ ⟨0, 0, 2, 2⟩, .new ⟨1⟩ ⟨10, 0, 2, 2⟩, .new ⟨2⟩ ⟨5, 5, 2, 2⟩]

theorem triangle_tree_least :
    Numbered triangleRooms
      ∧ (spanningTree triangleRooms .manhattan).map Edge.ends = [(⟨0⟩, ⟨1⟩), (⟨0⟩, ⟨2⟩)]
      ∧ ∃ e, PairEdge triangleRooms .manhattan e ∧ e.ends = (⟨1⟩, ⟨2⟩)
        ∧ Linked (fun f => PairEdge triangleRooms .manhattan f ∧ f.Before e) 1 2 := by
  have numbered : Numbered triangleRooms := by
    intro k room read
    obtain ⟨inRange, rfl⟩ := Array.getElem?_eq_some_iff.mp read
    have few : k < 3 := inRange
    interval_cases k <;> rfl
  have sorted : sortedPairs triangleRooms .manhattan = pairEdges .manhattan triangleRooms.toList :=
    List.mergeSort_of_pairwise (by decide +kernel)
  have ends : (spanningTree triangleRooms .manhattan).map Edge.ends = [(⟨0⟩, ⟨1⟩), (⟨0⟩, ⟨2⟩)] := by
    change (linkingEdges (sortedPairs triangleRooms .manhattan) (.new 3)).map Edge.ends = _
    rw [sorted]
    decide +kernel
  obtain ⟨_, _, _, chosen, _⟩ :=
    spanning_tree_least triangleRooms numbered .manhattan Double.total_le_trans Double.total_le_total
  have side : PairEdge triangleRooms .manhattan _ := .between 1 2 _ _ (by decide) rfl rfl
  refine ⟨numbered, ends, _, side, rfl, ?_⟩
  by_contra apart
  have listed := List.mem_map_of_mem (f := Edge.ends) ((chosen _ side).mpr apart)
  rw [ends] at listed
  revert listed
  decide

end Floorplan

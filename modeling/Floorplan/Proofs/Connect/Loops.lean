import Floorplan.Proofs.Connect.ExtraEdges
import Floorplan.Proofs.Connect.Minimal
import Floorplan.Proofs.Words.Capacity

set_option autoImplicit false

namespace Floorplan

open Floorplan.Random (Draw Rng)

def Normal (pairs : List (RoomId × RoomId)) : Prop := ∀ pair ∈ pairs, pair.1.index ≤ pair.2.index

theorem unordered_normal (a b : RoomId) : (unordered a b).1.index ≤ (unordered a b).2.index := by
  rw [unordered]
  split
  next before => exact before
  next after => exact Nat.le_of_not_le after

theorem normal_cons (a b : RoomId) (pairs : List (RoomId × RoomId)) (normal : Normal pairs) :
    Normal (unordered a b :: pairs) :=
  List.forall_mem_cons.mpr ⟨unordered_normal a b, normal⟩

theorem partners_joined (source target : RoomId) (pairs : List (RoomId × RoomId)) (normal : Normal pairs)
    (partner : target ∈ partners source pairs) : unordered source target ∈ pairs := by
  obtain ⟨⟨a, b⟩, listed, other⟩ := List.mem_filterMap.mp partner
  have order : a.index ≤ b.index := normal _ listed
  simp only at other
  split at other
  next same =>
    obtain rfl := same
    obtain rfl := Option.some.inj other
    rwa [unordered, if_pos order]
  next =>
    split at other
    next same =>
      obtain rfl := same
      obtain rfl := Option.some.inj other
      rw [unordered]
      split
      next back =>
        have equal : a = b := RoomId.mk.injEq .. ▸ Nat.le_antisymm order back
        rwa [equal] at listed ⊢
      next => exact listed
    next => cases other

section Nearest

variable {α : Type} [Coord α]

def FirstLeast (items : List (RoomId × α)) (best : RoomId × α) : Prop :=
  ∃ earlier later, items = earlier ++ best :: later ∧ (∀ item ∈ earlier, Coord.totalLe item.2 best.2 = false)
    ∧ ∀ item ∈ later, Coord.totalLe best.2 item.2 = true

variable (trans : ∀ u v w : α, Coord.totalLe u v = true → Coord.totalLe v w = true → Coord.totalLe u w = true)
  (total : ∀ u v : α, (Coord.totalLe u v || Coord.totalLe v u) = true)

include total

theorem first_least_all (items : List (RoomId × α)) (best : RoomId × α) (first : FirstLeast items best) :
    ∀ item ∈ items, Coord.totalLe best.2 item.2 = true := by
  obtain ⟨earlier, later, rfl, above, below⟩ := first
  intro item listed
  have either := total best.2 item.2
  rcases List.mem_append.mp listed with before | after
  · rwa [above item before, Bool.or_false] at either
  · rcases List.mem_cons.mp after with rfl | after
    · rwa [Bool.or_self] at either
    · exact below item after

include trans

theorem fold_first_least (first : RoomId × α) (rest : List (RoomId × α)) : FirstLeast (first :: rest)
    (rest.foldl (fun best next => if Coord.totalLe best.2 next.2 then best else next) first) := by
  induction rest generalizing first with
  | nil => exact ⟨[], [], rfl, nofun, nofun⟩
  | cons next rest ih =>
      rw [List.foldl_cons]
      cases kept : Coord.totalLe first.2 next.2 with
      | true =>
          have least := ih first
          rw [if_pos rfl]
          generalize rest.foldl _ first = best at least ⊢
          obtain ⟨earlier, later, split, above, below⟩ := least
          cases earlier with
          | nil =>
              obtain ⟨rfl, rfl⟩ := List.cons.inj split
              exact ⟨[], next :: rest, rfl, nofun, List.forall_mem_cons.mpr ⟨kept, below⟩⟩
          | cons head more =>
              obtain ⟨rfl, rfl⟩ := List.cons.inj split
              obtain ⟨firstAbove, moreAbove⟩ := List.forall_mem_cons.mp above
              -- the item that is passed over is no smaller than the first, which is above the best
              have nextAbove : Coord.totalLe next.2 best.2 = false := by
                by_contra low
                rw [trans _ _ _ kept (Bool.eq_true_of_not_eq_false low)] at firstAbove
                cases firstAbove
              exact ⟨first :: next :: more, later, rfl,
                List.forall_mem_cons.mpr ⟨firstAbove, List.forall_mem_cons.mpr ⟨nextAbove, moreAbove⟩⟩, below⟩
      | false =>
          have least := ih next
          rw [if_neg Bool.false_ne_true]
          generalize rest.foldl _ next = best at least ⊢
          have low := first_least_all total _ _ least next List.mem_cons_self
          obtain ⟨earlier, later, split, above, below⟩ := least
          have firstAbove : Coord.totalLe first.2 best.2 = false := by
            by_contra below
            rw [trans _ _ _ (Bool.eq_true_of_not_eq_false below) low] at kept
            cases kept
          exact ⟨first :: earlier, later, congrArg (first :: ·) split, List.forall_mem_cons.mpr ⟨firstAbove, above⟩, below⟩

theorem nearest_first (items : List (RoomId × α)) (best : RoomId × α) (found : nearest? items = some best) :
    FirstLeast items best := by
  cases items with
  | nil => cases found
  | cons first rest =>
      obtain rfl := Option.some.inj found
      exact fold_first_least trans total first rest

omit trans total in
theorem first_least_tie (items : List (RoomId × α)) (best : RoomId × α) (first : FirstLeast items best)
    (rising : items.Pairwise fun p q => p.1.index < q.1.index) :
    ∀ item ∈ items, Coord.totalLe item.2 best.2 = true → best.1.index ≤ item.1.index := by
  obtain ⟨earlier, later, rfl, above, -⟩ := first
  intro item listed low
  rcases List.mem_append.mp listed with before | after
  · rw [above item before] at low
    cases low
  · rcases List.mem_cons.mp after with rfl | after
    · exact Nat.le_refl _
    · exact Nat.le_of_lt (List.rel_of_pairwise_cons (List.pairwise_append.mp rising).2.1 after)

end Nearest

variable {α : Type} [Coord α]

structure Closes (rooms : Array (Room α)) (metric : Metric) (pairs : List (RoomId × RoomId)) (e : Edge α) : Prop where
  extra : e.kind = .extra
  apart : e.b ≠ e.a
  free : e.key ∉ pairs
  nearest : ∃ origin target, rooms[e.a.index]? = some origin ∧ rooms[e.b.index]? = some target
    ∧ e.weight = metric.distance origin.center target.center
    ∧ ∀ other ∈ rooms, other.id ≠ e.a → unordered e.a other.id ∉ pairs →
      Coord.totalLe e.weight (metric.distance origin.center other.center) = true
        ∧ (Coord.totalLe (metric.distance origin.center other.center) e.weight = true → e.b.index ≤ other.id.index)

def Exhausted (rooms : Array (Room α)) (pairs : List (RoomId × RoomId)) (source : RoomId) : Prop :=
  ∀ other ∈ rooms, other.id ≠ source → unordered source other.id ∈ pairs

-- A walk over tree edges: from the drawn end of each either an extra edge is found, and pairs its ends, or there is none
-- to find.
inductive Walk (rooms : Array (Room α)) (metric : Metric) :
    List (RoomId × RoomId) → Rng → List (Edge α) → List (Edge α) → Prop
  | done (pairs : List (RoomId × RoomId)) (rng : Rng) : Walk rooms metric pairs rng [] []
  | found (pairs : List (RoomId × RoomId)) (rng : Rng) (edge e : Edge α) (visited extra : List (Edge α))
      (drawn : e.a = ((drawnEnd edge).run rng).1) (closes : Closes rooms metric pairs e)
      (later : Walk rooms metric (e.key :: pairs) ((drawnEnd edge).run rng).2 visited extra) :
      Walk rooms metric pairs rng (edge :: visited) (e :: extra)
  | missed (pairs : List (RoomId × RoomId)) (rng : Rng) (edge : Edge α) (visited extra : List (Edge α))
      (exhausted : Exhausted rooms pairs ((drawnEnd edge).run rng).1)
      (later : Walk rooms metric pairs ((drawnEnd edge).run rng).2 visited extra) :
      Walk rooms metric pairs rng (edge :: visited) extra

section Search

variable (rooms : Array (Room α)) (source : RoomId) (pairs : List (RoomId × RoomId)) (normal : Normal pairs)

include normal

omit [Coord α] in
theorem free_iff (other : Room α) :
    other ∈ rooms.toList.filter (fun other => other.id != source && !(partners source pairs).contains other.id) ↔
      other ∈ rooms ∧ other.id ≠ source ∧ unordered source other.id ∉ pairs := by
  simp only [List.mem_filter, Array.mem_toList_iff, Bool.and_eq_true, bne_iff_ne, Bool.not_eq_true',
    List.contains_eq_mem, decide_eq_false_iff_not]
  refine and_congr_right fun _ => and_congr_right fun apart => not_congr ⟨?_, ?_⟩
  · exact partners_joined source other.id pairs normal
  · exact unordered_joined source other.id pairs apart

theorem unpaired_none (metric : Metric) (known : source.index < rooms.size)
    (none : nearestUnpaired rooms metric source pairs = none) : Exhausted rooms pairs source := by
  rw [nearestUnpaired, Array.getElem?_eq_getElem known] at none
  simp only at none
  intro other listed apart
  by_contra free
  have member := (free_iff rooms source pairs normal other).mpr ⟨listed, apart, free⟩
  generalize rooms.toList.filter (fun other => other.id != source && !(partners source pairs).contains other.id) = unpaired
    at member none
  cases unpaired with
  | nil => cases member
  | cons first rest => cases none

theorem unpaired_some (metric : Metric) (numbered : Numbered rooms)
    (trans : ∀ u v w : α, Coord.totalLe u v = true → Coord.totalLe v w = true → Coord.totalLe u w = true)
    (total : ∀ u v : α, (Coord.totalLe u v || Coord.totalLe v u) = true) (target : RoomId) (weight : α)
    (found : nearestUnpaired rooms metric source pairs = some (target, weight)) :
    Closes rooms metric pairs { a := source, b := target, weight, kind := .extra } := by
  rw [nearestUnpaired] at found
  cases read : rooms[source.index]? with
  | none =>
      rw [read] at found
      cases found
  | some origin =>
      rw [read] at found
      simp only at found
      have first := nearest_first trans total _ _ found
      have least := first_least_all total _ _ first
      have rising : ((rooms.toList.filter fun other => other.id != source
          && !(partners source pairs).contains other.id).map fun other =>
          (other.id, metric.distance origin.center other.center)).Pairwise fun p q => p.1.index < q.1.index :=
        List.pairwise_map.mpr ((numbered_rising rooms numbered).sublist List.filter_sublist)
      have tie := first_least_tie _ _ first rising
      obtain ⟨other, free, same⟩ := List.mem_map.mp (nearest_mem _ _ found)
      obtain ⟨rfl, rfl⟩ := Prod.mk.inj same
      obtain ⟨listed, apart, unjoined⟩ := (free_iff rooms source pairs normal other).mp free
      obtain ⟨k, place⟩ := Array.getElem?_of_mem listed
      refine ⟨rfl, apart, unjoined, origin, other, read, ?_, rfl, ?_⟩
      · rw [numbered k other place]
        exact place
      · intro rival rivalListed rivalApart rivalFree
        have member := List.mem_map_of_mem (f := fun other => (other.id, metric.distance origin.center other.center))
          ((free_iff rooms source pairs normal rival).mpr ⟨rivalListed, rivalApart, rivalFree⟩)
        exact ⟨least _ member, tie _ member⟩

end Search

section Extra

variable (rooms : Array (Room α)) (numbered : Numbered rooms) (metric : Metric)
  (trans : ∀ u v w : α, Coord.totalLe u v = true → Coord.totalLe v w = true → Coord.totalLe u w = true)
  (total : ∀ u v : α, (Coord.totalLe u v || Coord.totalLe v u) = true)

include numbered trans total

theorem extra_from_walk (edges : List (Edge α)) (known : ∀ e ∈ edges, e.a.index < rooms.size ∧ e.b.index < rooms.size)
    (left : Nat) (pairs : List (RoomId × RoomId)) (normal : Normal pairs) (rng : Rng) :
    let extra := ((extraFrom rooms metric edges left pairs).run rng).1
    ∃ visited rest, edges = visited ++ rest ∧ Walk rooms metric pairs rng visited extra
      ∧ (extra.length < left → rest = []) := by
  induction edges generalizing left pairs rng with
  | nil => exact ⟨[], [], rfl, .done pairs rng, fun _ => rfl⟩
  | cons e edges ih =>
      cases left with
      | zero => exact ⟨[], e :: edges, rfl, .done pairs rng, nofun⟩
      | succ left =>
          obtain ⟨⟨aKnown, bKnown⟩, known⟩ := List.forall_mem_cons.mp known
          have inRange : ((drawnEnd e).run rng).1.index < rooms.size := by
            rcases drawn_end_mem e rng with same | same <;> rw [same] <;> assumption
          cases found : nearestUnpaired rooms metric ((drawnEnd e).run rng).1 pairs with
          | none =>
              have exhausted := unpaired_none rooms _ pairs normal metric inRange found
              rw [extra_from_missed rooms metric e edges left pairs rng found]
              obtain ⟨visited, rest, rfl, walk, stopped⟩ := ih known (left + 1) pairs normal ((drawnEnd e).run rng).2
              exact ⟨e :: visited, rest, rfl, .missed pairs rng e visited _ exhausted walk, stopped⟩
          | some best =>
              obtain ⟨target, weight⟩ := best
              have closes := unpaired_some rooms _ pairs normal metric numbered trans total target weight found
              rw [extra_from_found rooms metric e edges left pairs rng target weight found]
              obtain ⟨visited, rest, rfl, walk, stopped⟩ := ih known left _
                (normal_cons ((drawnEnd e).run rng).1 target pairs normal) ((drawnEnd e).run rng).2
              exact ⟨e :: visited, rest, rfl, .found pairs rng e _ visited _ rfl closes walk,
                fun few => stopped (Nat.lt_of_succ_lt_succ few)⟩

end Extra

omit [Coord α] in
theorem key_normal (edges : List (Edge α)) : Normal (edges.map Edge.key) := by
  intro pair listed
  obtain ⟨e, -, rfl⟩ := List.mem_map.mp listed
  exact unordered_normal e.a e.b

theorem walk_length (rooms : Array (Room α)) (metric : Metric) (pairs : List (RoomId × RoomId)) (rng : Rng)
    (visited extra : List (Edge α)) (walk : Walk rooms metric pairs rng visited extra) : extra.length ≤ visited.length := by
  induction walk with
  | done pairs rng => exact Nat.le_refl _
  | found pairs rng edge e visited extra drawn closes later ih => exact Nat.succ_le_succ ih
  | missed pairs rng edge visited extra exhausted later ih => exact Nat.le_succ_of_le ih

theorem shuffled_walk (rooms : Array (Room α)) (numbered : Numbered rooms) (metric : Metric)
    (trans : ∀ u v w : α, Coord.totalLe u v = true → Coord.totalLe v w = true → Coord.totalLe u w = true)
    (total : ∀ u v : α, (Coord.totalLe u v || Coord.totalLe v u) = true) (tree : List (Edge α))
    (known : ∀ e ∈ tree, e.a.index < rooms.size ∧ e.b.index < rooms.size) (count : Nat) (rng : Rng) :
    let shuffled := (Random.shuffle tree.toArray).run rng
    let extra := ((extraEdges rooms tree count metric).run rng).1
    extra.length ≤ min count tree.length ∧ Extras rooms (tree.map Edge.key) extra
      ∧ shuffled.1.toList.Perm tree
      ∧ ∃ visited rest, shuffled.1.toList = visited ++ rest
        ∧ Walk rooms metric (tree.map Edge.key) shuffled.2 visited extra ∧ (extra.length < count → rest = []) := by
  have order := (Random.shuffle_perm tree.toArray rng).toList
  simp only [extraEdges, draw_run_bind]
  generalize (Random.shuffle tree.toArray).run rng = shuffled at order ⊢
  obtain ⟨few, extras⟩ := extra_from_spec rooms metric shuffled.1.toList count (tree.map Edge.key) shuffled.2
  obtain ⟨visited, rest, split, walk, stopped⟩ := extra_from_walk rooms numbered metric trans total shuffled.1.toList
    (fun e listed => known e (order.mem_iff.mp listed)) count (tree.map Edge.key) (key_normal tree) shuffled.2
  have short : visited.length ≤ tree.length := by
    rw [← order.length_eq, split, List.length_append]
    exact Nat.le_add_right _ _
  have walked := Nat.le_trans (walk_length _ _ _ _ _ _ walk) short
  exact ⟨Nat.le_min.mpr ⟨few, walked⟩, extras, order, visited, rest, split, walk, stopped⟩

-- Only a count that no list of edges is given memory for has no answer, however short the tree.
theorem extra_edges_walk (rooms : Array (Room α)) (numbered : Numbered rooms) (metric : Metric)
    (trans : ∀ u v w : α, Coord.totalLe u v = true → Coord.totalLe v w = true → Coord.totalLe u w = true)
    (total : ∀ u v : α, (Coord.totalLe u v || Coord.totalLe v u) = true) (tree : List (Edge α))
    (known : ∀ e ∈ tree, e.a.index < rooms.size ∧ e.b.index < rooms.size) (count : Nat) (rng : Rng) :
    let answer := ((Words.extraEdges? rooms tree count metric).run rng).1
    let shuffled := (Random.shuffle tree.toArray).run rng
    (answer = none ↔ ¬ Words.InMemory count Words.edgeBytes)
      ∧ ∀ extra, answer = some extra →
        extra.length ≤ min count tree.length ∧ Extras rooms (tree.map Edge.key) extra
          ∧ shuffled.1.toList.Perm tree
          ∧ ∃ visited rest, shuffled.1.toList = visited ++ rest
            ∧ Walk rooms metric (tree.map Edge.key) shuffled.2 visited extra ∧ (extra.length < count → rest = []) := by
  intro answer shuffled
  refine ⟨Words.extra_edges_none_iff rooms tree count metric rng, fun extra made => ?_⟩
  have ran := Words.extra_edges_sound rooms tree count metric rng extra _ (Prod.ext made rfl)
  have walked := shuffled_walk rooms numbered metric trans total tree known count rng
  rw [ran] at walked
  exact walked

def chainRooms : Array (Room Float) :=
  #[.new ⟨0⟩ ⟨0, 0, 2, 2⟩, .new ⟨1⟩ ⟨10, 0, 2, 2⟩, .new ⟨2⟩ ⟨20, 0, 2, 2⟩]

def chainTree : List (Edge Float) :=
  [{ a := ⟨0⟩, b := ⟨1⟩, weight := 10, kind := .tree }, { a := ⟨1⟩, b := ⟨2⟩, weight := 10, kind := .tree }]

theorem chain_joined :
    Numbered chainRooms ∧ ∀ e ∈ chainTree, e.a.index < chainRooms.size ∧ e.b.index < chainRooms.size := by
  constructor
  · intro k room read
    obtain ⟨inRange, rfl⟩ := Array.getElem?_eq_some_iff.mp read
    have few : k < 3 := inRange
    interval_cases k <;> rfl
  · decide +kernel

theorem chain_walk :
    let shuffled := (Random.shuffle chainTree.toArray).run (.ofSeed 0)
    let extra : List (Edge Float) := [{ a := ⟨2⟩, b := ⟨0⟩, weight := 20, kind := .extra }]
    Numbered chainRooms ∧ (∀ e ∈ chainTree, e.a.index < chainRooms.size ∧ e.b.index < chainRooms.size)
      ∧ ((Words.extraEdges? chainRooms chainTree 2 .manhattan).run (.ofSeed 0)).1 = some extra
      ∧ Walk chainRooms .manhattan (chainTree.map Edge.key) shuffled.2 shuffled.1.toList extra := by
  intro shuffled extra
  obtain ⟨numbered, known⟩ := chain_joined
  have drawn : ((Words.extraEdges? chainRooms chainTree 2 .manhattan).run (.ofSeed 0)).1 = some extra := by
    decide +kernel
  obtain ⟨-, walks⟩ := extra_edges_walk chainRooms numbered .manhattan Double.total_le_trans Double.total_le_total
    chainTree known 2 (.ofSeed 0)
  obtain ⟨-, -, -, visited, rest, split, walk, stopped⟩ := walks extra drawn
  rw [stopped (by decide), List.append_nil] at split
  rw [← split] at walk
  exact ⟨numbered, known, drawn, walk⟩

-- One extra edge is all that the three rooms have place for, but so long a list of them is not in memory.
theorem endless_extras_break :
    Numbered chainRooms ∧ (∀ e ∈ chainTree, e.a.index < chainRooms.size ∧ e.b.index < chainRooms.size)
      ∧ ((Words.extraEdges? chainRooms chainTree (2 ^ 62) .manhattan).run (.ofSeed 0)).1 = none := by
  obtain ⟨numbered, known⟩ := chain_joined
  refine ⟨numbered, known, ?_⟩
  exact (Words.extra_edges_none_iff chainRooms chainTree (2 ^ 62) .manhattan (.ofSeed 0)).mpr (by decide)

end Floorplan

import Floorplan.Proofs.Random.Answers
import Floorplan.Words.Capacity

set_option autoImplicit false

namespace Floorplan.Words

open Floorplan.Random (Draw Rng)

variable {α : Type} [Coord α]

def SoundDraw {β : Type} (checked : Draw (Option β)) (unlimited : Draw β) : Prop :=
  ∀ rng value rng', checked.run rng = (some value, rng') → unlimited.run rng = (value, rng')

theorem SoundDraw.guard {β : Type} (unlimited : Draw β) (allowed : Prop) [Decidable allowed] :
    SoundDraw (if allowed then some <$> unlimited else pure none) unlimited := by
  intro rng value rng' ran
  split at ran
  · obtain ⟨found, rfl⟩ := Prod.mk.inj ran
    exact Prod.ext (Option.some.inj found) rfl
  · cases ran

theorem guarded_none_iff {β : Type} (unlimited : Draw β) (allowed : Prop) [Decidable allowed] (rng : Rng) :
    ((if allowed then some <$> unlimited else pure none : Draw (Option β)).run rng).1 = none ↔ ¬ allowed := by
  split
  next yes => exact iff_of_false (Option.some_ne_none (unlimited.run rng).1) (not_not_intro yes)
  next no => exact iff_of_true rfl no

theorem SoundDraw.eq_some {β : Type} {checked : Draw (Option β)} {unlimited : Draw β}
    (sound : SoundDraw checked unlimited) (rng : Rng) (answers : (checked.run rng).1.isSome = true) :
    checked.run rng = (some (unlimited.run rng).1, (unlimited.run rng).2) := by
  obtain ⟨value, found⟩ := Option.isSome_iff_exists.mp answers
  have ran : checked.run rng = (some value, (checked.run rng).2) := Prod.ext found rfl
  rw [sound rng value _ ran]
  exact ran

theorem place_rooms_sound (request : PlacementRequest α) (index : SpatialIndex α) :
    SoundDraw (placeRooms? request index) (placeRooms request index) :=
  .guard (placeRooms request index) _

theorem place_rooms_none_iff (request : PlacementRequest α) (index : SpatialIndex α) (rng : Rng) :
    ((placeRooms? request index).run rng).1 = none ↔ ¬ InMemory request.roomCount roomBytes :=
  guarded_none_iff (placeRooms request index) _ rng

theorem spanning_tree_sound (rooms : Array (Room α)) (metric : Metric) (tree : List (Edge α))
    (built : spanningTree? rooms metric = some tree) : spanningTree rooms metric = tree := by
  rw [spanningTree?] at built
  split at built
  · exact Option.some.inj built
  · cases built

theorem extra_edges_sound (rooms : Array (Room α)) (tree : List (Edge α)) (count : Nat) (metric : Metric) :
    SoundDraw (extraEdges? rooms tree count metric) (extraEdges rooms tree count metric) :=
  .guard (extraEdges rooms tree count metric) _

theorem extra_edges_none_iff (rooms : Array (Room α)) (tree : List (Edge α)) (count : Nat) (metric : Metric) (rng : Rng) :
    ((extraEdges? rooms tree count metric).run rng).1 = none ↔ ¬ InMemory count edgeBytes :=
  guarded_none_iff (extraEdges rooms tree count metric) _ rng

theorem build_edges_sound (rooms : Array (Room α)) (metric : Metric) (fraction : α) :
    SoundDraw (buildEdges? rooms metric fraction) (buildEdges rooms metric fraction) := by
  intro rng edges rng' ran
  simp only [buildEdges?, buildEdges] at ran ⊢
  cases tree : spanningTree? rooms metric with
  | none =>
      rw [tree] at ran
      cases ran
  | some tree' =>
      obtain rfl := spanning_tree_sound rooms metric tree' tree
      simp only [tree] at ran
      split at ran
      next none =>
        rw [if_pos none]
        cases ran
        rfl
      next wanted =>
        rw [if_neg wanted]
        have sound := extra_edges_sound rooms (spanningTree rooms metric)
          (extraCount (spanningTree rooms metric).length fraction) metric rng
        simp only [draw_run_bind] at ran ⊢
        generalize (extraEdges? rooms (spanningTree rooms metric) _ metric).run rng = answer at ran sound
        obtain ⟨extra, rest⟩ := answer
        cases extra with
        | none => cases ran
        | some extra =>
            rw [sound extra rest rfl]
            cases ran
            rfl

theorem place_rooms_answers (request : PlacementRequest α) (index : SpatialIndex α)
    (memory : InMemory request.roomCount roomBytes) (rng : Rng) :
    ((placeRooms? request index).run rng).1.isSome = true := by
  rw [Option.isSome_iff_ne_none]
  exact mt (place_rooms_none_iff request index rng).mp (not_not_intro memory)

theorem build_edges_answers (rooms : Array (Room α)) (metric : Metric) (fraction : α)
    (pairs : InMemory (rooms.size * (rooms.size - 1) / 2) edgeBytes)
    (extras : InMemory (extraCount (spanningTree rooms metric).length fraction) edgeBytes) (rng : Rng) :
    ((buildEdges? rooms metric fraction).run rng).1.isSome = true := by
  simp only [buildEdges?, spanningTree?, if_pos pairs]
  split
  · rfl
  · rw [extraEdges?, if_pos extras]
    rfl

end Floorplan.Words

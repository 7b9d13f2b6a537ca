import Floorplan.DirectRoute
import Floorplan.Proofs.Ordered

set_option autoImplicit false

namespace Floorplan

open Floorplan.Random (Rng)

theorem Wall.extent_ordered (wall : Wall) (rect : Rect Rat) (width : 0 ≤ rect.width) (height : 0 ≤ rect.height) :
    (wall.extent rect).1 ≤ (wall.extent rect).2 := by
  have across : rect.left ≤ rect.right := le_add_of_nonneg_right width
  have down : rect.top ≤ rect.bottom := le_add_of_nonneg_right height
  cases wall <;> assumption

namespace DoorSpan

section Sets

variable {α : Type} [Coord α]

theorem contains_range (lo hi v : α) : (DoorSpan.range lo hi).contains v = true ↔ lo ≤ v ∧ v ≤ hi := by
  simp only [contains, Bool.and_eq_true, decide_eq_true_eq]

-- The anchors left are the allowed ones, there is a span as long as there is one of them, and one is drawn from it.
structure Leaves (left : Option (DoorSpan α)) (allowed : α → Prop) : Prop where
  held : ∀ s, left = some s → ∀ v, s.contains v = true ↔ allowed v
  empty : left = none ↔ ∀ v, ¬ allowed v
  drawn : ∀ s, left = some s → ∀ rng, s.contains (s.sample.run rng).1 = true

theorem Leaves.congr {left : Option (DoorSpan α)} {allowed allowed' : α → Prop} (leaves : Leaves left allowed)
    (same : ∀ v, allowed v ↔ allowed' v) : Leaves left allowed' := by
  obtain rfl : allowed = allowed' := funext fun v => propext (same v)
  exact leaves

theorem leaves_nothing {allowed : α → Prop} (nowhere : ∀ v, ¬ allowed v) : Leaves none allowed :=
  ⟨nofun, ⟨fun _ => nowhere, fun _ => rfl⟩, nofun⟩

theorem Leaves.bind {left : Option (DoorSpan α)} {allowed also : α → Prop} (leaves : Leaves left allowed)
    (next : DoorSpan α → Option (DoorSpan α))
    (cut : ∀ s, Leaves (next s) fun v => s.contains v = true ∧ also v) :
    Leaves (left.bind next) fun v => allowed v ∧ also v := by
  cases left with
  | none =>
      have nowhere := leaves.empty.mp rfl
      exact leaves_nothing fun v both => nowhere v both.1
  | some s => exact (cut s).congr fun v => and_congr_left' (leaves.held s rfl v)

theorem above_bound_iff (lo : Option α) (v : α) : aboveBound lo v = true ↔ ∀ low ∈ lo, low ≤ v := by
  cases lo <;> simp [aboveBound]

theorem below_bound_iff (hi : Option α) (v : α) : belowBound hi v = true ↔ ∀ high ∈ hi, v ≤ high := by
  cases hi <;> simp [belowBound]

variable [OrderedCoord α]

theorem contains_midpoint (m v : α) : (DoorSpan.midpoint m).contains v = true ↔ v = m := OrderedCoord.beq_iff v m

theorem sample_held (span : DoorSpan α) (given : ∃ v, span.contains v = true) (rng : Rng) :
    span.contains (span.sample.run rng).1 = true := by
  cases span with
  | range lo hi =>
      obtain ⟨v, held⟩ := given
      obtain ⟨low, high⟩ := (contains_range lo hi v).mp held
      exact (contains_range lo hi _).mpr (OrderedCoord.uniform_mem lo hi (OrderedCoord.le_trans _ _ _ low high) rng)
  | midpoint m => exact (contains_midpoint m m).mpr rfl

theorem leaves_span {span : DoorSpan α} {allowed : α → Prop} (same : ∀ v, span.contains v = true ↔ allowed v)
    (given : ∃ v, allowed v) : Leaves (some span) allowed where
  held := by
    rintro _ ⟨⟩
    exact same
  empty := ⟨nofun, fun nowhere => given.elim fun v here => absurd here (nowhere v)⟩
  drawn := by
    rintro _ ⟨⟩ rng
    exact span.sample_held (given.imp fun v => (same v).mpr) rng

theorem raised_le_iff (lo : Option α) (a v : α) :
    (lo.map (Coord.greater a)).getD a ≤ v ↔ a ≤ v ∧ ∀ low ∈ lo, low ≤ v := by
  cases lo with
  | none => simp
  | some low => simp [Coord.greater_le_iff]

theorem le_lowered_iff (hi : Option α) (b v : α) :
    v ≤ (hi.map (Coord.lesser b)).getD b ↔ v ≤ b ∧ ∀ high ∈ hi, v ≤ high := by
  cases hi with
  | none => simp
  | some high => simp [Coord.le_lesser_iff]

theorem clamp_leaves (span : DoorSpan α) (lo hi : Option α) :
    Leaves (span.clamp lo hi) fun v => span.contains v = true ∧ (∀ low ∈ lo, low ≤ v) ∧ ∀ high ∈ hi, v ≤ high := by
  cases span with
  | range a b =>
      have same (v : α) :
          (DoorSpan.range ((lo.map (Coord.greater a)).getD a) ((hi.map (Coord.lesser b)).getD b)).contains v = true
            ↔ (DoorSpan.range a b).contains v = true ∧ (∀ low ∈ lo, low ≤ v) ∧ ∀ high ∈ hi, v ≤ high := by
        rw [contains_range, contains_range, raised_le_iff, le_lowered_iff, and_and_and_comm]
      rw [clamp]
      split
      next proper => exact leaves_span same ⟨_, (same _).mp ((contains_range _ _ _).mpr ⟨Coord.le_refl _, proper⟩)⟩
      next crossed =>
        refine leaves_nothing fun v here => crossed ?_
        obtain ⟨low, high⟩ := (contains_range _ _ v).mp ((same v).mpr here)
        exact OrderedCoord.le_trans _ _ _ low high
  | midpoint m =>
      have within : (aboveBound lo m && belowBound hi m) = true ↔ (∀ low ∈ lo, low ≤ m) ∧ ∀ high ∈ hi, m ≤ high := by
        rw [Bool.and_eq_true, above_bound_iff, below_bound_iff]
      rw [clamp]
      split
      next kept =>
        refine leaves_span (fun v => ⟨fun here => ⟨here, ?_⟩, And.left⟩)
          ⟨m, (contains_midpoint m m).mpr rfl, within.mp kept⟩
        obtain rfl := (contains_midpoint m v).mp here
        exact within.mp kept
      next cut =>
        refine leaves_nothing fun v ⟨here, bounds⟩ => cut (within.mpr ?_)
        obtain rfl := (contains_midpoint m v).mp here
        exact bounds

theorem intersect_leaves (span other : DoorSpan α) :
    Leaves (span.intersect other) fun v => span.contains v = true ∧ other.contains v = true := by
  cases other with
  | range lo hi =>
      refine (span.clamp_leaves (some lo) (some hi)).congr fun v => and_congr_right' ?_
      simp only [Option.mem_some_iff, forall_eq', contains_range]
  | midpoint m =>
      rw [intersect]
      split
      next here =>
        refine leaves_span (fun v => ⟨fun there => ⟨?_, there⟩, And.right⟩)
          ⟨m, here, (contains_midpoint m m).mpr rfl⟩
        rwa [(contains_midpoint m v).mp there]
      next apart =>
        refine leaves_nothing fun v ⟨here, there⟩ => apart ?_
        rwa [← (contains_midpoint m v).mp there]

theorem outside_leaves (span : DoorSpan α) (line sign half : α) :
    Leaves (Direct.outside span line sign half) fun v =>
      span.contains v = true ∧ if Coord.zero < sign then line + half ≤ v else v ≤ line - half := by
  rw [Direct.outside]
  split
  · refine (span.clamp_leaves _ _).congr fun v => and_congr_right' ?_
    simp only [Option.mem_some_iff, forall_eq']
    exact and_iff_left fun high top => OrderedCoord.le_highest high top v
  · refine (span.clamp_leaves _ _).congr fun v => and_congr_right' ?_
    simp only [Option.mem_some_iff, forall_eq']
    exact and_iff_right fun low bottom => OrderedCoord.lowest_le low bottom v

theorem for_wall_given (rect : Rect α) (wall : Wall) (thickness : α) :
    ∃ v, (forWall rect wall thickness).contains v = true := by
  simp only [forWall]
  split
  next => exact ⟨_, (contains_midpoint _ _).mpr rfl⟩
  next wide =>
    rw [OrderedCoord.lt_iff, not_not] at wide
    exact ⟨_, (contains_range _ _ _).mpr ⟨Coord.le_refl _, wide⟩⟩

end Sets

theorem for_wall_contains_iff (rect : Rect Rat) (wall : Wall) (thickness v : Rat) :
    (forWall rect wall thickness).contains v = true ↔
      let (start, stop) := wall.extent rect
      if start + thickness / 2 ≤ stop - thickness / 2 then start + thickness / 2 ≤ v ∧ v ≤ stop - thickness / 2
      else v = (start + stop) / 2 := by
  rw [forWall]
  generalize wall.extent rect = extent
  obtain ⟨start, stop⟩ := extent
  simp only
  by_cases room : start + thickness / 2 ≤ stop - thickness / 2
  · have wide : ¬ stop - Coord.half thickness < start + Coord.half thickness := not_lt.mpr room
    rw [if_neg wide, if_pos room, contains_range]
    rfl
  · have narrow : stop - Coord.half thickness < start + Coord.half thickness := not_le.mp room
    rw [if_pos narrow, if_neg room, contains_midpoint]
    rfl

theorem for_wall_midpoint (rect : Rect Rat) (wall : Wall) (thickness : Rat) :
    (forWall rect wall thickness).contains (wall.midpoint rect) = true := by
  rw [for_wall_contains_iff, Wall.midpoint]
  generalize wall.extent rect = extent
  obtain ⟨start, stop⟩ := extent
  simp only [Rational.half_eq]
  split
  next room => exact ⟨by linarith, by linarith⟩
  next => trivial

theorem for_wall_within (rect : Rect Rat) (wall : Wall) (thickness v : Rat) (nonneg : 0 ≤ thickness)
    (length : (wall.extent rect).1 ≤ (wall.extent rect).2)
    (held : (forWall rect wall thickness).contains v = true) :
    (wall.extent rect).1 ≤ v ∧ v ≤ (wall.extent rect).2 := by
  rw [for_wall_contains_iff] at held
  generalize wall.extent rect = extent at length held ⊢
  obtain ⟨start, stop⟩ := extent
  simp only at length held ⊢
  split at held
  next room => exact ⟨by linarith [held.1], by linarith [held.2]⟩
  next =>
    rw [held]
    exact ⟨by linarith, by linarith⟩

-- Whatever the numbers, infinite ends and ranges with crossed ends included.
theorem spans_intersect_exactly {α : Type} [Coord α] [OrderedCoord α] :
    (∀ (span : DoorSpan α) (lo hi : Option α), Leaves (span.clamp lo hi) fun v =>
      span.contains v = true ∧ (∀ low ∈ lo, low ≤ v) ∧ ∀ high ∈ hi, v ≤ high)
    ∧ (∀ (span : DoorSpan α) (line sign half : α), Leaves (Direct.outside span line sign half) fun v =>
      span.contains v = true ∧ if Coord.zero < sign then line + half ≤ v else v ≤ line - half)
    ∧ (∀ span other : DoorSpan α,
      let both := fun v => span.contains v = true ∧ other.contains v = true
      Leaves (span.intersect other) both ∧ Leaves (other.intersect span) both)
    ∧ (∀ span other third : DoorSpan α,
      let all := fun v => span.contains v = true ∧ other.contains v = true ∧ third.contains v = true
      Leaves ((span.intersect other).bind fun s => s.intersect third) all
        ∧ Leaves ((other.intersect third).bind fun s => span.intersect s) all)
    ∧ (∀ (rect : Rect α) (wall : Wall) (thickness : α),
      let span := forWall rect wall thickness
      (∃ v, span.contains v = true) ∧ ∀ rng, span.contains (span.sample.run rng).1 = true)
    ∧ ∀ (rect : Rect Rat) (wall : Wall) (thickness : Rat),
      let span := forWall rect wall thickness
      span.contains (wall.midpoint rect) = true
        ∧ (rect.Solid → 0 < thickness →
          ∀ v, span.contains v = true → (wall.extent rect).1 ≤ v ∧ v ≤ (wall.extent rect).2) := by
  refine ⟨clamp_leaves, outside_leaves, fun span other => ⟨intersect_leaves span other, ?_⟩,
    fun span other third => ⟨?_, ?_⟩, fun rect wall thickness => ?_, fun rect wall thickness => ⟨?_, ?_⟩⟩
  · exact (intersect_leaves other span).congr fun v => and_comm
  · refine ((intersect_leaves span other).bind _ fun s => intersect_leaves s third).congr fun v => and_assoc
  · refine ((intersect_leaves other third).bind _ fun s => (intersect_leaves span s).congr fun v => and_comm).congr
      fun v => and_comm
  · have given := for_wall_given rect wall thickness
    exact ⟨given, sample_held _ given⟩
  · exact for_wall_midpoint rect wall thickness
  · intro solid thick v held
    exact for_wall_within rect wall thickness v (le_of_lt thick)
      (wall.extent_ordered rect (le_of_lt solid.width) (le_of_lt solid.height)) held

def halfLine : DoorSpan Extended := .range (.exact 2) .highest

def single : DoorSpan Extended := .midpoint (.exact 7)

def crossed : DoorSpan Extended := .range (.exact 5) (.exact 1)

theorem half_line_cut :
    (halfLine.clamp (some .highest) none = some (.range .highest .highest)
      ∧ ∀ v : Extended, (DoorSpan.range .highest .highest).contains v = true
        ↔ halfLine.contains v = true ∧ (∀ low ∈ some .highest, low ≤ v) ∧ ∀ high ∈ none, v ≤ high)
    ∧ (single.intersect halfLine = some single
      ∧ ∀ v, single.contains v = true ↔ halfLine.contains v = true ∧ single.contains v = true)
    ∧ (crossed.intersect single = none ∧ ∀ v, ¬ (crossed.contains v = true ∧ single.contains v = true))
    ∧ Rect.Solid ⟨0, 0, 10, 4⟩ ∧ (0 : Rat) < 6
    ∧ ∀ v : Rat, (forWall ⟨0, 0, 10, 4⟩ .left 6).contains v = true → 0 ≤ v ∧ v ≤ 0 + 4 := by
  have cut : halfLine.clamp (some .highest) none = some (.range .highest .highest) := by decide +kernel
  have met : single.intersect halfLine = some single := by decide +kernel
  have apart : crossed.intersect single = none := by decide +kernel
  have solid : Rect.Solid ⟨0, 0, 10, 4⟩ := ⟨by decide +kernel, by decide +kernel⟩
  have thick : (0 : Rat) < 6 := by decide +kernel
  obtain ⟨clamped, -, spans, -, -, walls⟩ := spans_intersect_exactly (α := Extended)
  exact ⟨⟨cut, (clamped halfLine (some .highest) none).held _ cut⟩,
    ⟨met, (spans halfLine single).2.held _ met⟩,
    ⟨apart, (spans crossed single).1.empty.mp apart⟩,
    solid, thick, (walls ⟨0, 0, 10, 4⟩ .left 6).2 solid thick⟩

end DoorSpan

end Floorplan

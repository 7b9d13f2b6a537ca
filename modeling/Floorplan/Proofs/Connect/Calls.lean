import Mathlib.SetTheory.Cardinal.Finite
import Floorplan.Proofs.Connect.Joined

set_option autoImplicit false

namespace Floorplan.Components

variable {c d : Components}

inductive Call where
  | merge (a b : Nat)
  | linked (a b : Nat)

namespace Call

def run (call : Call) (c : Components) : Bool × Components :=
  match call with
  | .merge a b => c.merge a b
  | .linked a b => c.linked a b

def links (n : Nat) : Call → List (Nat × Nat)
  | .merge a b => if a < n ∧ b < n then [(a, b)] else []
  | .linked _ _ => []

def Holds (n : Nat) (pairs : List (Nat × Nat)) : Call → Prop
  | .merge a b => (a < n ∧ b < n) ∧ ¬ Joined pairs a b
  | .linked a b => (a < n ∧ b < n) ∧ Joined pairs a b

end Call

def after (c : Components) (calls : List Call) : Components := calls.foldl (fun c call => (call.run c).2) c

def answers (c : Components) : List Call → List (Bool × Nat × Bool)
  | [] => []
  | call :: rest =>
    let (answer, next) := call.run c
    (answer, next.count, next.allLinked) :: next.answers rest

def linksOf (n : Nat) (calls : List Call) : List (Nat × Nat) := calls.flatMap (·.links n)

def joinedBelow (n : Nat) (pairs : List (Nat × Nat)) : Setoid (Fin n) where
  r i j := Joined pairs i j
  iseqv := ⟨fun i => .refl i, fun joined => joined.symm, fun first second => first.trans second⟩

noncomputable def classes (n : Nat) (pairs : List (Nat × Nat)) : Nat := Nat.card (Quotient (joinedBelow n pairs))

-- Both loops of the search for a root end by themselves: with more turns than there are places they do the same.
structure Ends (c : Components) (i : Nat) : Prop where
  top : c.up (c.root i) = c.root i
  walk : ∀ turns, c.size ≤ turns → c.walk turns i = c.root i
  shorten : ∀ turns, c.size ≤ turns → c.shorten (c.root i) turns i = (c.find i).2

namespace Forest

theorem shorten_settled (forest : c.Forest) (turns others i : Nat) (inRange : i < c.size)
    (enough : c.size ≤ c.rankOf i + turns) (plenty : c.size ≤ c.rankOf i + others) :
    c.shorten (c.root i) turns i = c.shorten (c.root i) others i := by
  -- the loop climbs the path of the walk, and what it redirects lies below it
  induction turns generalizing c others i with
  | zero => exact absurd (forest.rank_lt i inRange) (Nat.not_lt_of_ge enough)
  | succ turns ih =>
      cases others with
      | zero => exact absurd (forest.rank_lt i inRange) (Nat.not_lt_of_ge plenty)
      | succ others =>
          rw [Components.shorten, Components.shorten]
          by_cases near : c.up i = c.root i
          · rw [if_pos near, if_pos near]
          · rw [if_neg near, if_neg near]
            have moved : c.up i ≠ i := fun top => near (by rw [(forest.root_eq_self i inRange).mpr top, top])
            have climb := forest.climbs i inRange moved
            have above := forest.up_lt i inRange
            have redirected := redirect_shortened forest i inRange near
            have root := redirected.root _ above
            rw [forest.root_up i inRange] at root
            let next : Components := { c with parent := c.parent.setIfInBounds i (c.root i) }
            have size : next.size = c.size := redirected.size
            have rank : next.rankOf (c.up i) = c.rankOf (c.up i) := rfl
            have inNext : c.up i < next.size := by omega
            have enoughNext : next.size ≤ next.rankOf (c.up i) + turns := by omega
            have plentyNext : next.size ≤ next.rankOf (c.up i) + others := by omega
            have later := ih redirected.forest others (c.up i) inNext enoughNext plentyNext
            rwa [root] at later

theorem ends (forest : c.Forest) (i : Nat) (inRange : i < c.size) : c.Ends i where
  top := forest.up_root i inRange
  walk turns enough :=
    forest.walk_settled turns c.size i inRange (Nat.le_add_left_of_le enough) (Nat.le_add_left _ _)
  shorten turns enough :=
    forest.shorten_settled turns c.size i inRange (Nat.le_add_left_of_le enough) (Nat.le_add_left _ _)

end Forest

theorem merge_out_of_range (a b : Nat) (outside : ¬ (a < c.size ∧ b < c.size)) : c.merge a b = (false, c) := by
  rw [merge, if_neg outside]

theorem linked_out_of_range (a b : Nat) (outside : ¬ (a < c.size ∧ b < c.size)) : c.linked a b = (false, c) := by
  rw [linked, if_neg outside]

theorem linked_spec (forest : c.Forest) (a b : Nat) (aRange : a < c.size) (bRange : b < c.size) :
    ((c.linked a b).1 = true ↔ c.root a = c.root b) ∧ Shortened c (c.linked a b).2 := by
  obtain ⟨aRoot, first⟩ := find_spec forest a aRange
  obtain ⟨bRoot, second⟩ := find_spec first.forest b (by rwa [first.size])
  rw [first.root b bRange] at bRoot
  rw [linked, if_pos ⟨aRange, bRange⟩]
  simp only [aRoot, bRoot, beq_iff_eq, true_and]
  exact first.trans second

theorem Tracks.shortened {pairs : List (Nat × Nat)} (tracks : Tracks c pairs) (shorter : Shortened c d) :
    Tracks d pairs where
  toBalanced := tracks.toBalanced.shortened shorter
  linked := by
    intro i iRange j jRange
    rw [shorter.size] at iRange jRange
    rw [shorter.root i iRange, shorter.root j jRange]
    exact tracks.linked i iRange j jRange

section Tracked

variable {pairs : List (Nat × Nat)} (tracks : Tracks c pairs)

include tracks

theorem call_tracks (call : Call) :
    ((call.run c).1 = true ↔ call.Holds c.size pairs)
      ∧ Tracks (call.run c).2 (pairs ++ call.links c.size) ∧ (call.run c).2.size = c.size
      ∧ (call.run c).2.count + (call.links c.size).length * (call.run c).1.toNat = c.count := by
  cases call with
  | merge a b =>
      simp only [Call.run, Call.links, Call.Holds]
      by_cases inside : a < c.size ∧ b < c.size
      · obtain ⟨after, size, fresh, fewer⟩ := merge_tracks tracks a b inside.1 inside.2
        rw [if_pos inside, List.length_singleton, Nat.one_mul]
        exact ⟨by rw [fresh, and_iff_right inside], after, size, fewer⟩
      · rw [merge_out_of_range a b inside, if_neg inside, List.append_nil]
        exact ⟨by simp [inside], tracks, rfl, rfl⟩
  | linked a b =>
      simp only [Call.run, Call.links, Call.Holds, List.append_nil, List.length_nil, Nat.zero_mul, Nat.add_zero]
      by_cases inside : a < c.size ∧ b < c.size
      · obtain ⟨answer, shorter⟩ := linked_spec tracks.toForest a b inside.1 inside.2
        refine ⟨?_, tracks.shortened shorter, shorter.size, shorter.count⟩
        rw [answer, and_iff_right inside]
        exact tracks.linked a inside.1 b inside.2
      · rw [linked_out_of_range a b inside]
        exact ⟨by simp [inside], tracks, rfl, rfl⟩

theorem after_tracks (calls : List Call) :
    Tracks (c.after calls) (pairs ++ linksOf c.size calls) ∧ (c.after calls).size = c.size := by
  induction calls generalizing c pairs with
  | nil =>
      rw [linksOf, List.flatMap_nil, List.append_nil]
      exact ⟨tracks, rfl⟩
  | cons call rest ih =>
      obtain ⟨_, next, size, _⟩ := call_tracks tracks call
      obtain ⟨later, same⟩ := ih next
      rw [size, List.append_assoc] at later
      exact ⟨later, same.trans size⟩

theorem count_classes : c.count = classes c.size pairs := by
  let stands (r : c.roots) : Quotient (joinedBelow c.size pairs) := Quotient.mk _ ⟨r, (mem_roots.mp r.2).1⟩
  have each : Function.Bijective stands := by
    constructor
    · intro r s same
      obtain ⟨rRange, rRoot⟩ := mem_roots.mp r.2
      obtain ⟨sRange, sRoot⟩ := mem_roots.mp s.2
      have joined : Joined pairs r s := Quotient.exact same
      rw [← tracks.linked r rRange s sRange, rRoot, sRoot] at joined
      exact Subtype.ext joined
    · intro group
      induction group using Quotient.inductionOn with
      | h i =>
          have inside := tracks.root_lt i i.2
          have own := tracks.root_root i i.2
          exact ⟨⟨c.root i, mem_roots.mpr ⟨inside, own⟩⟩, Quotient.sound ((tracks.linked _ inside i i.2).mp own)⟩
  rw [tracks.counted, classes, ← Nat.card_eq_of_bijective stands each, Nat.card_eq_fintype_card, Fintype.card_coe]

-- The answers are those of the pairs, whatever forest they are read from.
theorem answers_determined (other : Tracks d pairs) (size : d.size = c.size) (calls : List Call) :
    d.answers calls = c.answers calls := by
  induction calls generalizing c d pairs with
  | nil => rfl
  | cons call rest ih =>
      obtain ⟨answer, next, sized, _⟩ := call_tracks tracks call
      obtain ⟨otherAnswer, otherNext, otherSized, _⟩ := call_tracks other call
      rw [size] at otherAnswer otherNext
      have count : (call.run d).2.count = (call.run c).2.count := by
        rw [count_classes next, count_classes otherNext, otherSized, sized, size]
      have sizes : (call.run d).2.size = (call.run c).2.size := by rw [otherSized, sized, size]
      simp only [answers, allLinked]
      rw [Bool.eq_iff_iff.mpr (otherAnswer.trans answer.symm), count, ih next otherNext sizes]

theorem rank_small (few : c.size < 2 ^ 64) (i : Nat) (inRange : i < c.size) : c.rankOf i < 64 := by
  have inside := tracks.root_lt i inRange
  have weight := tracks.doubles _ (mem_roots.mpr ⟨inside, tracks.root_root i inRange⟩)
  have members : (c.members (c.root i)).card ≤ c.size :=
    (Finset.card_filter_le _ _).trans_eq (Finset.card_range c.size)
  have power : 2 ^ c.rankOf (c.root i) < 2 ^ 64 := Nat.lt_of_le_of_lt (weight.trans members) few
  exact Nat.lt_of_le_of_lt (tracks.rank_root i inRange) ((Nat.pow_lt_pow_iff_right (by decide)).mp power)

end Tracked

theorem calls_answered_exactly (n : Nat) (calls : List Call) :
    let c := (Components.new n).after calls
    let pairs := linksOf n calls
    (∀ i < n, c.Ends i) ∧ (∀ a < n, ∀ i < n, (c.find a).2.Ends i)
      ∧ (∀ a b, (c.linked a b).1 = true ↔ (a < n ∧ b < n) ∧ Joined pairs a b)
      ∧ (∀ a b, (c.merge a b).1 = true ↔ (a < n ∧ b < n) ∧ ¬ Joined pairs a b)
      ∧ c.count = classes n pairs ∧ (∀ a b, (c.merge a b).1 = true → (c.merge a b).2.count + 1 = c.count)
      ∧ (c.allLinked = true ↔ classes n pairs ≤ 1)
      ∧ (∀ call : Call, call.links n = [] → ∀ later, (call.run c).2.answers later = c.answers later)
      ∧ (∀ r < n, c.root r = r → 2 ^ c.rankOf r ≤ (c.members r).card)
      ∧ (n < 2 ^ 64 → ∀ i < n, c.rankOf i < 64) := by
  intro c pairs
  obtain ⟨tracks, size⟩ := after_tracks (new_tracks n) calls
  change Tracks c _ at tracks
  change c.size = _ at size
  rw [new_size] at tracks size
  rw [List.nil_append] at tracks
  have count := count_classes tracks
  rw [size] at count
  refine ⟨?_, ?_, ?_, ?_, count, ?_, ?_, ?_, ?_, ?_⟩
  · exact fun i inRange => tracks.toForest.ends i (by rwa [size])
  · intro a aRange i inRange
    have shorter := (find_spec tracks.toForest a (by rwa [size])).2
    exact shorter.forest.ends i (by rwa [shorter.size, size])
  · intro a b
    have answer := (call_tracks tracks (.linked a b)).1
    rwa [size] at answer
  · intro a b
    have answer := (call_tracks tracks (.merge a b)).1
    rwa [size] at answer
  · intro a b fresh
    obtain ⟨answer, _, _, fewer⟩ := call_tracks tracks (.merge a b)
    have inside := (answer.mp fresh).1
    simp only [Call.run, Call.links, if_pos inside, fresh, List.length_singleton, Bool.toNat_true] at fewer
    exact fewer
  · rw [allLinked, decide_eq_true_iff, count]
  · intro call idle later
    obtain ⟨_, next, same, _⟩ := call_tracks tracks call
    rw [size, idle, List.append_nil] at next
    exact answers_determined tracks next same later
  · exact fun r inRange own => tracks.doubles r (mem_roots.mpr ⟨by rwa [size], own⟩)
  · intro few i inRange
    exact rank_small tracks (by rwa [size]) i (by rwa [size])

example : (Components.new 5).answers [.merge 0 1, .linked 1 0, .merge 1 2, .merge 0 2, .merge 3 9, .linked 0 9] =
    [(true, 4, false), (true, 4, false), (true, 3, false), (false, 3, false), (false, 3, false), (false, 3, false)] := by
  decide

end Floorplan.Components

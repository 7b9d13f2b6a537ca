import Floorplan.Proofs.Generate.Attempts
import Floorplan.Proofs.Generate.Laid
import Floorplan.Proofs.Words.Capacity
import Floorplan.Proofs.Words.Limits
import Floorplan.Words.Generator

set_option autoImplicit false

namespace Floorplan.Words

open Floorplan.Random (Draw Rng)

section Sound

variable {α : Type} [Coord α]

theorem route_by_kind_sound (config : Config α) (rooms : Array (Room α)) (index : SpatialIndex α)
    (edges : List (Edge α)) :
    SoundDraw (routeByKind? config rooms index edges) (routeByKind config rooms index edges) := by
  intro rng value rng' ran
  rw [routeByKind?] at ran
  rw [routeByKind]
  cases kind : config.strategy with
  | direct =>
      rw [kind] at ran
      obtain ⟨same, rfl⟩ := Prod.mk.inj ran
      exact Prod.ext (Option.some.inj same) rfl
  | grid =>
      simp only [kind] at ran ⊢
      cases built : ofRooms? config.bounds rooms with
      | none =>
          rw [built] at ran
          cases ran
      | some raster =>
          obtain rfl := of_rooms_sound config.bounds rooms raster built
          have tracks := edges_track (.ofConfig config) config.crossing edges { rooms, index, nextId := 0 }
          simp only [built, draw_run_bind, routeWith] at ran ⊢
          rcases tracks.kept (.ofRooms config.bounds rooms) rng with
            ⟨rest, gone⟩ | ⟨rest, map, rng'', found, same⟩
          · rw [gone] at ran
            cases ran
          · rw [found] at ran
            rw [same]
            obtain ⟨outcome, board⟩ := rest
            cases outcome <;> cases ran <;> rfl

theorem attempt_sound (config : Config α) (seed : UInt64) (number : Nat) :
    SoundDraw (attempt? config seed number) (attempt config seed number) := by
  intro rng value rng' ran
  simp only [attempt?, attempt, draw_run_bind] at ran ⊢
  have placing := place_rooms_sound (.ofConfig config) (.new config.indexCellSize) rng
  generalize (placeRooms? (.ofConfig config) (.new config.indexCellSize)).run rng = placed at ran placing
  obtain ⟨placed, rng'⟩ := placed
  cases placed with
  | none => cases ran
  | some placed =>
      obtain ⟨outcome, index⟩ := placed
      rw [placing _ rng' rfl]
      cases outcome with
      | error failure =>
          cases ran
          rfl
      | ok rooms =>
          simp only [draw_run_bind] at ran ⊢
          have building := build_edges_sound rooms config.metric config.extraEdgeFraction rng'
          generalize (buildEdges? rooms config.metric config.extraEdgeFraction).run rng' = chosen at ran building
          obtain ⟨chosen, rng''⟩ := chosen
          cases chosen with
          | none => cases ran
          | some edges =>
              rw [building edges rng'' rfl]
              simp only [draw_run_bind] at ran ⊢
              have routing := route_by_kind_sound config rooms index edges rng''
              generalize (routeByKind? config rooms index edges).run rng'' = routed at ran routing
              obtain ⟨outcome, rng'''⟩ := routed
              cases outcome with
              | none => cases ran
              | some outcome =>
                  rw [routing outcome rng''' rfl]
                  cases outcome <;> cases ran <;> rfl

theorem retry_sound (left : Nat) (last : Failure α) (generator : Generator α) :
    Sound (tryAgain? left last generator) (Generator.retry left last generator) := by
  induction left generalizing last generator with
  | zero => exact .pure _
  | succ left ih =>
      obtain ⟨config, rng, phase, attempts⟩ := generator
      have sound := attempt_sound config rng.seed (attempts + 1) rng
      rw [tryAgain?, Generator.retry]
      generalize (attempt? config rng.seed (attempts + 1)).run rng = ended at sound ⊢
      obtain ⟨outcome, rng'⟩ := ended
      cases outcome with
      | none => exact .none _
      | some ended =>
          rw [sound ended rng' rfl]
          obtain ⟨outcome, phase⟩ := ended
          cases outcome with
          | ok layout => exact .pure _
          | error failure =>
              simp only
              split
              · exact ih _ _
              · exact .pure _

theorem run_generator_sound (generator : Generator α) : Sound (runGenerator? generator) generator.run := by
  rw [runGenerator?, Generator.run]
  cases (Generator.new generator.config generator.rng.seed).config.validate with
  | error error => exact .pure _
  | ok _ => exact retry_sound _ _ _

theorem generate_sound (config : Config α) (seed : UInt64) : Sound (generate? config seed) (generate config seed) :=
  (run_generator_sound (Generator.new config seed)).map (·.1)

end Sound

section Answers

variable {α : Type} [Coord α] {config : Config α}

-- The lists that an attempt asks for are in memory: of its rooms, of the pairs of these and of the extra edges.
structure Spacious (config : Config α) : Prop where
  rooms : InMemory config.roomCount.toNat roomBytes
  pairs : InMemory (config.roomCount.toNat * (config.roomCount.toNat - 1) / 2) edgeBytes
  extras : InMemory (extraCount (config.roomCount.toNat - 1) config.extraEdgeFraction) edgeBytes

structure Mapped (config : Config α) : Prop where
  measured : Measured config.bounds
  framed : ∀ rooms, Framed (.ofRooms config.bounds rooms)
  near : ∀ rng rooms index rest,
    (placeRooms (.ofConfig config) (.new config.indexCellSize)).run rng = ((.ok rooms, index), rest) →
    ∀ room ∈ rooms, Near (.ofRooms config.bounds rooms) room.rect

theorem route_by_kind_answers (rooms : Array (Room α)) (index : SpatialIndex α) (faithful : index.Faithful)
    (ready : config.strategy = .grid → ∃ span,
      Ready span { board := { rooms, index, nextId := 0 }, strategy := ofRooms? config.bounds rooms })
    (edges : List (Edge α)) (rng : Rng) :
    ((routeByKind? config rooms index edges).run rng).1.isSome = true := by
  rw [routeByKind?]
  cases kind : config.strategy with
  | direct => rfl
  | grid =>
      obtain ⟨span, ready⟩ := ready kind
      obtain ⟨start, built, _⟩ := ready.map
      obtain ⟨connectors, ran, _⟩ :=
        route_all_run (.ofConfig config) (strategy config.crossing) _ edges [] _ .start rng
      obtain ⟨raster, found, _⟩ := (run_ready _ _ _ _ faithful ready _ _ ran).map
      simp only at built
      simp only [built, draw_run_bind] at found ⊢
      generalize (routeAll _ _ edges _).run rng = answer at found ⊢
      obtain ⟨⟨outcome, ⟨board, _⟩⟩, rng'⟩ := answer
      obtain rfl := found
      cases outcome <;> rfl

variable (spacious : Spacious config)

include spacious

theorem edges_answer (rooms : Array (Room α)) (numbered : Numbered rooms)
    (size : rooms.size = config.roomCount.toNat) (rng : Rng) :
    ((buildEdges? rooms config.metric config.extraEdgeFraction).run rng).1.isSome = true := by
  apply build_edges_answers
  · rw [size]
    exact spacious.pairs
  · rw [(spanning_tree_spec rooms numbered config.metric).length, size]
    exact spacious.extras

theorem attempt_answers (mapped : config.strategy = .grid → Mapped config) (seed : UInt64) (number : Nat) (rng : Rng) :
    ((attempt? config seed number).run rng).1.isSome = true := by
  have faithful := SpatialIndex.new_faithful config.indexCellSize
  have placing := (place_rooms_sound (.ofConfig config) (.new config.indexCellSize)).eq_some rng
    (place_rooms_answers (.ofConfig config) (.new config.indexCellSize) spacious.rooms rng)
  have near := fun kind => (mapped kind).near rng
  have placed := place_rooms_placed (.ofConfig config) _ faithful rng
  have full := place_rooms_size (.ofConfig config) (.new config.indexCellSize) rng
  simp only [attempt?, draw_run_bind, placing]
  clear placing
  generalize (placeRooms (.ofConfig config) (.new config.indexCellSize)).run rng = answer at near placed full ⊢
  obtain ⟨⟨outcome, index⟩, rng'⟩ := answer
  cases outcome with
  | error failure => rfl
  | ok rooms =>
      have placed := placed rooms index rng' rfl
      have ready := fun kind => start_ready (mapped kind).measured { rooms, index, nextId := 0 }
        ((mapped kind).framed rooms) (near kind rooms index rng' rfl)
      have building := edges_answer spacious rooms placed.numbered (full rng' rooms index rfl) rng'
      simp only [draw_run_bind]
      generalize (buildEdges? rooms config.metric config.extraEdgeFraction).run rng' = chosen at building ⊢
      obtain ⟨edges, rng''⟩ := chosen
      obtain ⟨edges, rfl⟩ := Option.isSome_iff_exists.mp building
      have routing := route_by_kind_answers rooms index placed.faithful (fun kind => ⟨_, ready kind⟩) edges rng''
      simp only [draw_run_bind]
      generalize (routeByKind? config rooms index edges).run rng'' = routed at routing ⊢
      obtain ⟨outcome, last⟩ := routed
      obtain ⟨outcome, rfl⟩ := Option.isSome_iff_exists.mp routing
      cases outcome <;> rfl

omit spacious in
theorem attempt_breaks (vast : ¬ InMemory config.roomCount.toNat roomBytes) (seed : UInt64) (number : Nat) (rng : Rng) :
    ((attempt? config seed number).run rng).1 = none := by
  have wanted : ¬ InMemory (PlacementRequest.ofConfig config).roomCount roomBytes := vast
  rw [attempt?, placeRooms?, if_neg wanted]
  rfl

end Answers

section Rational

structure InWordsFor (config : Config Rat) : Prop where
  area : (config.width.toNat : Int) * config.height.toNat ≤ Number.cellMax
  width : (config.width.toNat : Int) < Number.cellMax
  height : (config.height.toNat : Int) < Number.cellMax

variable {config : Config Rat} (valid : config.validate = .ok ())

include valid

theorem listed_size_positive (size : UInt32 × UInt32) (listed : size ∈ config.roomSizes) :
    0 < size.1.toNat ∧ 0 < size.2.toNat := by
  have sizes := (config.valid_of_validate valid).sizes
  rw [Config.checkSizes] at sizes
  split at sizes
  · cases sizes
  · split at sizes
    · cases sizes
    next none =>
      have solid := List.find?_eq_none.mp none size listed
      simp only [Bool.or_eq_true, beq_iff_eq, not_or] at solid
      exact ⟨Nat.pos_of_ne_zero fun zero => solid.1 (UInt32.toNat_inj.mp zero),
        Nat.pos_of_ne_zero fun zero => solid.2 (UInt32.toNat_inj.mp zero)⟩

-- A room ends at a whole coordinate, so one that ends within the slack of the bounds does not end after them.
omit valid in
theorem end_in_words (start : Int) (length side : UInt32) (short : (side.toNat : Int) < Number.cellMax)
    (inside : (start : Rat) + (length.toNat : Int) ≤ Coord.zero + Coord.ofInt side.toNat + Coord.epsilon) :
    (start : Rat) + (length.toNat : Int) + 1 ≤ (Number.cellMax : Rat) := by
  rw [Rational.zero_eq, zero_add, Rational.of_int_eq, ← Int.cast_add, Rational.whole_le_iff] at inside
  have next : start + length.toNat + 1 ≤ Number.cellMax := by omega
  exact_mod_cast next

theorem InWordsFor.counted (words : InWordsFor config) (rooms : Array (Room Rat))
    (fits : ∀ room ∈ rooms, (PlacementRequest.ofConfig config).Fits room.rect) :
    InBounds config rooms ∧ Counted config rooms := by
  refine ⟨⟨fun room listed => ?_, fun room listed => (fits room listed).inside⟩, words.area, ?_, ?_⟩
  · obtain ⟨size, member, width, height⟩ := (fits room listed).size
    obtain ⟨wide, high⟩ := listed_size_positive valid size (List.mem_toArray.mp member)
    constructor
    · rw [width]
      exact_mod_cast wide
    · rw [height]
      exact_mod_cast high
  · intro room listed
    obtain ⟨size, _, width, _⟩ := (fits room listed).size
    obtain ⟨x, _, left, _⟩ := (fits room listed).corner
    obtain ⟨⟨_, right⟩, _⟩ := (Rect.contains_rect_iff _ _).mp (fits room listed).inside
    rw [Rect.right, width, left] at right ⊢
    exact end_in_words x size.1 config.width words.width right
  · intro room listed
    obtain ⟨size, _, _, height⟩ := (fits room listed).size
    obtain ⟨_, y, _, top⟩ := (fits room listed).corner
    obtain ⟨_, _, bottom⟩ := (Rect.contains_rect_iff _ _).mp (fits room listed).inside
    rw [Rect.bottom, height, top] at bottom ⊢
    exact end_in_words y size.2 config.height words.height bottom

theorem InWordsFor.mapped (words : InWordsFor config) : Mapped config := by
  have positive := Config.check_positive_ok _ _ (config.valid_of_validate valid).cellSize
  -- without rooms the sides and the area are all that has to be counted
  have empty : Counted config #[] := ⟨words.area, by simp, by simp⟩
  have fits (rooms : Array (Room Rat)) : Fits (.ofRooms config.bounds rooms) :=
    (empty.fits valid).of_span ((of_rooms_span_eq _ rooms).trans (of_rooms_span_eq _ #[]).symm)
  refine ⟨empty.measured valid, fun rooms => (fits rooms).framed, fun rng rooms index rest placed room listed => ?_⟩
  have laid : Laid (.ofConfig config) (.new config.indexCellSize) rooms index :=
    place_rooms_ok_laid (SpatialIndex.new_faithful _) positive (by simp [SpatialIndex.new]) rng rest placed
  obtain ⟨inside, counted⟩ := words.counted valid rooms laid.fits
  exact (inside.ringed counted room listed).near (fits rooms)

end Rational

end Floorplan.Words

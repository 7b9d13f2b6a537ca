import Floorplan.Coord.Rational
import Floorplan.Proofs.Route.Conflicts
import Floorplan.Proofs.Route.Ledger

set_option autoImplicit false

namespace Floorplan

open Floorplan.Random (Draw Rng)

variable {α σ : Type} [Coord α]

def Proposal.Sized (proposal : Proposal α) : Prop := ∀ rect ∈ proposal.geometry.rects, rect.Sized

-- What a strategy promises of every offer that it makes, however it is asked.
structure Strategy.Offers (strategy : Strategy α σ) (offers : Proposal α → Prop) : Prop where
  propose : ∀ (context : RouteContext α) (a b : RoomId) (attempt : Nat) (inner : σ) (rng : Rng)
    (proposal : Proposal α),
    ((strategy.propose context a b attempt inner).run rng).1.1 = some proposal → offers proposal
  proposeForced : ∀ (context : RouteContext α) (a b : RoomId) (inner : σ) (rng : Rng) (proposal : Proposal α),
    ((strategy.proposeForced context a b inner).run rng).1.1 = some proposal → offers proposal

omit [Coord α] in
theorem serves_offers (rules : RouteRules α) (strategy : Strategy α σ) (offers : Proposal α → Prop)
    (promised : strategy.Offers offers) (edge : Edge α) (board : RouteBoard α) :
    Serves rules strategy edge board (fun _ => True) offers where
  propose _ _ _ _ := ⟨trivial, promised.propose _ _ _ _ _ _⟩
  proposeForced _ _ _ := ⟨trivial, promised.proposeForced _ _ _ _ _⟩

-- A board to route on: a searchable index that holds every room, and no connector whose number is
-- still to be given.
structure RouteBoard.Ready (board : RouteBoard α) : Prop where
  reached : board.index.Reached
  cell_pos : Coord.zero < board.index.cellSize
  sized : ∀ entry ∈ board.index.entries.toList, entry.rect.Sized
  reserved : ∀ room ∈ board.rooms, { rect := room.rect, occupant := .room room.id } ∈ board.index.entries.toList
  fresh : ∀ entry ∈ board.index.entries.toList, ∀ id, entry.occupant = .connector id → id.index < board.nextId

structure Connector.Sound (rules : RouteRules α) (rooms : Array (Room α)) (earlier : List (Connector α))
    (connector : Connector α) : Prop where
  first : ∃ room, rooms[connector.rooms.1.index]? = some room
    ∧ room.admits connector.doors.1 rules.thickness = true
  second : ∃ room, rooms[connector.rooms.2.index]? = some room
    ∧ room.admits connector.doors.2 rules.thickness = true
  inside : ∀ rect ∈ connector.rects, rules.bounds.containsRect rect = true
  rooms : ∀ rect ∈ connector.rects, ∀ room ∈ rooms, rect.overlaps room.rect = false
  connectors : rules.crossing = .forbid → ∀ rect ∈ connector.rects, ∀ other ∈ earlier,
    ∀ piece ∈ other.rects, rect.overlaps piece = false

theorem sound_of_bare (rules : RouteRules α) (rooms others : Array (Room α))
    (same : rooms.map Room.bare = others.map Room.bare) (earlier : List (Connector α))
    (connector : Connector α) (sound : connector.Sound rules rooms earlier) :
    connector.Sound rules others earlier := by
  have door : ∀ (k : Nat) (door : Door α),
      (∃ room, rooms[k]? = some room ∧ room.admits door rules.thickness = true) →
      ∃ room, others[k]? = some room ∧ room.admits door rules.thickness = true := by
    rintro k door ⟨room, read, admitted⟩
    have bare := congrArg (·[k]?) same
    simp only [Array.getElem?_map, read, Option.map_some] at bare
    obtain ⟨other, otherRead, otherBare⟩ := Option.map_eq_some_iff.mp bare.symm
    refine ⟨other, otherRead, ?_⟩
    have walls := Room.same_rect other room otherBare
    rw [Room.admits, Room.doorSpan, walls]
    exact admitted
  refine ⟨door _ _ sound.first, door _ _ sound.second, sound.inside, ?_, sound.connectors⟩
  intro rect member room listed
  have bare : room.bare ∈ rooms.map Room.bare := by
    rw [same]
    exact Array.mem_map_of_mem listed
  obtain ⟨original, originalListed, originalBare⟩ := Array.mem_map.mp bare
  rw [← Room.same_rect original room originalBare]
  exact sound.rooms rect member original originalListed

namespace RouteRules

variable (rules : RouteRules α)

theorem rect_conflicts_none (entries : List (Reservation α)) (rect : Rect α)
    (none : rules.rectConflicts entries rect = 0) :
    rules.bounds.containsRect rect = true
      ∧ ∀ entry ∈ entries, rules.guards entry.occupant = true → rect.overlaps entry.rect = false := by
  obtain ⟨inside, met⟩ := Nat.add_eq_zero_iff.mp none
  refine ⟨by simpa using inside, ?_⟩
  intro entry member guarded
  by_contra overlap
  rw [Bool.not_eq_false, Rect.overlaps_comm] at overlap
  have counted : entry.occupant ∈ ((entries.filter fun entry => entry.rect.overlaps rect).map
      (·.occupant)).eraseDups.filter rules.guards :=
    List.mem_filter.mpr ⟨List.mem_eraseDups.mpr (List.mem_map.mpr
      ⟨entry, List.mem_filter.mpr ⟨member, overlap⟩, rfl⟩), guarded⟩
  rw [List.length_eq_zero_iff.mp met] at counted
  exact absurd counted List.not_mem_nil

omit [Coord α] in
theorem guards_connector (forbid : rules.crossing = .forbid) (occupant : Occupant) :
    rules.guards occupant = true := by
  simp [guards, CrossingPolicy.allows, forbid]

theorem door_conflicts_none (rooms : Array (Room α)) (id : RoomId) (door : Door α)
    (none : rules.doorConflicts rooms id door = 0) :
    ∃ room, rooms[id.index]? = some room ∧ room.admits door rules.thickness = true := by
  rw [doorConflicts] at none
  cases read : rooms[id.index]? with
  | none => simp [read] at none
  | some room => exact ⟨room, rfl, by simpa [read] using none⟩

theorem conflicts_none_sound (edge : Edge α) (proposal : Proposal α) (forced : Bool) (board : RouteBoard α)
    (earlier : List (Connector α)) (none : rules.conflicts edge proposal board = 0)
    (rooms : ∀ room ∈ board.rooms, { rect := room.rect, occupant := .room room.id } ∈ board.index.entries.toList)
    (before : ∀ other ∈ earlier, ∀ entry ∈ other.reservations, entry ∈ board.index.entries.toList) :
    (connectorOf board edge proposal forced).Sound rules board.rooms earlier := by
  obtain ⟨doors, areas⟩ := Nat.add_eq_zero_iff.mp none
  obtain ⟨first, second⟩ := Nat.add_eq_zero_iff.mp doors
  have clear : ∀ rect ∈ proposal.geometry.rects, rules.rectConflicts board.index.entries.toList rect = 0 :=
    fun rect member => List.sum_eq_zero_iff_forall_eq_nat.mp areas _ (List.mem_map_of_mem member)
  refine ⟨rules.door_conflicts_none _ _ _ first, rules.door_conflicts_none _ _ _ second, ?_, ?_, ?_⟩
  · exact fun rect member => (rules.rect_conflicts_none _ rect (clear rect member)).1
  · intro rect member room listed
    exact (rules.rect_conflicts_none _ rect (clear rect member)).2 _ (rooms room listed) rfl
  · intro forbid rect member other listed piece taken
    exact (rules.rect_conflicts_none _ rect (clear rect member)).2 _
      (before other listed _ (List.mem_map_of_mem taken)) (rules.guards_connector forbid _)

end RouteRules

structure SoundRun (rules : RouteRules α) (rooms : Array (Room α)) (connectors : List (Connector α)) :
    Prop where
  each : ∀ (i : Nat) (connector : Connector α), connectors[i]? = some connector →
    connector.forced = false → connector.Sound rules rooms (connectors.take i)
  apart : rules.crossing = .forbid → connectors.Pairwise fun earlier later =>
    earlier.forced = false → later.forced = false →
      ∀ piece ∈ earlier.rects, ∀ rect ∈ later.rects, rect.overlaps piece = false

theorem sound_run_of_each (rules : RouteRules α) (rooms : Array (Room α)) (connectors : List (Connector α))
    (each : ∀ (i : Nat) (connector : Connector α), connectors[i]? = some connector →
      connector.forced = false → connector.Sound rules rooms (connectors.take i)) :
    SoundRun rules rooms connectors := by
  -- the later of two connectors was held against the earlier one
  refine ⟨each, fun forbid => List.pairwise_iff_getElem.mpr ?_⟩
  intro i j _ inRange before _ unforced piece taken rect member
  have sound := each j connectors[j] (List.getElem?_eq_getElem inRange) unforced
  exact sound.connectors forbid rect member _ (List.mem_take_iff_getElem.mpr ⟨i, by omega, rfl⟩) piece taken

theorem each_sound_concat (rules : RouteRules α) (rooms : Array (Room α)) (connectors : List (Connector α))
    (fresh : Connector α)
    (each : ∀ (i : Nat) (connector : Connector α), connectors[i]? = some connector →
      connector.forced = false → connector.Sound rules rooms (connectors.take i))
    (last : fresh.forced = false → fresh.Sound rules rooms connectors) :
    ∀ (i : Nat) (connector : Connector α), (connectors ++ [fresh])[i]? = some connector →
      connector.forced = false → connector.Sound rules rooms ((connectors ++ [fresh]).take i) := by
  intro i connector read unforced
  rcases concat_read connectors fresh connector i read with ⟨before, earlier⟩ | ⟨rfl, rfl⟩
  · rw [List.take_append_of_le_length (Nat.le_of_lt before)]
    exact each i connector earlier unforced
  · rw [List.take_left]
    exact last unforced

namespace RouteBoard.Ready

variable {board : RouteBoard α} (ready : board.Ready)

include ready

theorem searchable : board.index.Searchable where
  faithful := (SpatialIndex.reached_iff_faithful _).mp ready.reached
  cell_pos := ready.cell_pos
  sized := ready.sized

theorem occupant_unused : ∀ entry ∈ board.index.entries.toList, entry.occupant ≠ board.occupant := by
  intro entry member same
  exact Nat.lt_irrefl _ (ready.fresh entry member _ same)

theorem after (final : RouteBoard α) (connectors : List (Connector α)) (ledger : Ledger board final connectors)
    (sized : ∀ connector ∈ connectors, ∀ rect ∈ connector.rects, rect.Sized) : final.Ready where
  reached := (SpatialIndex.reached_iff_faithful _).mpr ledger.faithful
  cell_pos := by
    rw [ledger.cell_size]
    exact ready.cell_pos
  sized := by
    intro entry member
    rw [ledger.entries] at member
    rcases List.mem_append.mp member with initial | later
    · exact ready.sized entry initial
    · obtain ⟨connector, listed, reserved⟩ := List.mem_flatMap.mp later
      obtain ⟨rect, taken, rfl⟩ := List.mem_map.mp reserved
      exact sized connector listed rect taken
  reserved := by
    intro room listed
    obtain ⟨k, read⟩ := Array.getElem?_of_mem listed
    rw [ledger.rooms k] at read
    obtain ⟨original, originalRead, rfl⟩ := Option.map_eq_some_iff.mp read
    rw [ledger.entries]
    exact List.mem_append_left _ (ready.reserved original (Array.mem_of_getElem? originalRead))
  fresh := by
    intro entry member id same
    rw [ledger.entries] at member
    rw [ledger.nextId]
    rcases List.mem_append.mp member with initial | later
    · exact Nat.lt_add_right _ (ready.fresh entry initial id same)
    · obtain ⟨connector, listed, reserved⟩ := List.mem_flatMap.mp later
      obtain ⟨i, read⟩ := List.getElem?_of_mem listed
      obtain ⟨rect, _, rfl⟩ := List.mem_map.mp reserved
      rw [← Occupant.connector.inj same, ledger.ids i connector read]
      exact Nat.add_lt_add_left (List.getElem?_eq_some_iff.mp read).1 _

end RouteBoard.Ready

variable [LawfulCoord α]

theorem route_run_sound (rules : RouteRules α) (strategy : Strategy α σ)
    (promised : strategy.Offers Proposal.Sized) (start : RouteState α σ) (ready : start.board.Ready)
    (connectors : List (Connector α)) (state : RouteState α σ)
    (ran : RouteRun rules strategy start connectors state) :
    (∀ connector ∈ connectors, ∀ rect ∈ connector.rects, rect.Sized)
      ∧ ∀ (i : Nat) (connector : Connector α), connectors[i]? = some connector →
        connector.forced = false → connector.Sound rules start.board.rooms (connectors.take i) := by
  have startFaithful := (SpatialIndex.reached_iff_faithful _).mp ready.reached
  induction ran with
  | start => exact ⟨nofun, nofun⟩
  | @call connectors state earlier edge rng ih =>
      obtain ⟨sized, each⟩ := ih
      have ledger := route_run_ledger rules strategy start startFaithful connectors state earlier
      have routed := route_edge_spec state ledger.faithful
        (serves_offers rules strategy Proposal.Sized promised edge state.board) trivial rng
      generalize (routeEdge rules strategy edge state).run rng = answer at routed ⊢
      obtain ⟨⟨outcome, after⟩, rng'⟩ := answer
      cases routed with
      | failed inner tree kept => simpa [committed] using And.intro sized each
      | dropped inner extra kept => simpa [committed] using And.intro sized each
      | committed proposal forced inner kept offered clear =>
          refine ⟨?_, each_sound_concat rules _ connectors _ each ?_⟩
          · intro connector member
            rcases List.mem_append.mp member with old | new
            · exact sized connector old
            · rw [List.mem_singleton.mp new]
              exact offered
          · intro unforced
            -- every piece on the board is sized, so its index still finds all that a piece overlaps
            have now := ready.after state.board connectors ledger sized
            have none := clear unforced
            rw [rules.try_reserve_conflicts edge proposal state.board now.searchable offered now.occupant_unused]
              at none
            apply sound_of_bare rules state.board.rooms _ ledger.bare_rooms
            apply rules.conflicts_none_sound edge proposal forced state.board connectors none now.reserved
            intro other listed entry reserved
            rw [ledger.entries]
            exact List.mem_append_right _ (List.mem_flatMap.mpr ⟨other, listed, reserved⟩)

-- Whatever a strategy proposes, the connectors that a router commits without force are sound.
theorem unforced_connectors_sound (rules : RouteRules α) (strategy : Strategy α σ)
    (promised : strategy.Offers Proposal.Sized) (start : RouteState α σ) (ready : start.board.Ready) :
    (∀ connectors state, RouteRun rules strategy start connectors state →
        SoundRun rules state.board.rooms connectors)
      ∧ ∀ edges rng,
        let result := ((routeAll rules strategy edges start).run rng).1
        ∃ connectors, RouteRun rules strategy start connectors result.2
          ∧ SoundRun rules result.2.board.rooms connectors
          ∧ ∀ routed, result.1 = .ok routed → routed = connectors := by
  have sound : ∀ connectors state, RouteRun rules strategy start connectors state →
      SoundRun rules state.board.rooms connectors := by
    intro connectors state ran
    have each := (route_run_sound rules strategy promised start ready connectors state ran).2
    have ledger := route_run_ledger rules strategy start
      ((SpatialIndex.reached_iff_faithful _).mp ready.reached) connectors state ran
    apply sound_run_of_each
    intro i connector read unforced
    exact sound_of_bare rules _ _ ledger.bare_rooms.symm _ connector (each i connector read unforced)
  refine ⟨sound, fun edges rng => ?_⟩
  obtain ⟨connectors, ran, same⟩ := route_all_run rules strategy start edges [] start .start rng
  exact ⟨connectors, ran, sound _ _ ran, same⟩

def openFloor : RouteBoard Rat :=
  { rooms := #[.new ⟨0⟩ ⟨0, 0, 10, 10⟩, .new ⟨1⟩ ⟨20, 0, 10, 10⟩]
    index := .ofReservations 8 [⟨⟨0, 0, 10, 10⟩, .room ⟨0⟩⟩, ⟨⟨20, 0, 10, 10⟩, .room ⟨1⟩⟩]
    nextId := 0 }

def bridge : Proposal Rat :=
  { doors := (⟨.right, ⟨10, 5⟩⟩, ⟨.left, ⟨20, 5⟩⟩), geometry := .segments [⟨10, 9 / 2, 10, 1⟩] }

def alwaysBridge : Strategy Rat Unit :=
  { propose := fun _ _ _ _ inner => pure (some bridge, inner)
    proposeForced := fun _ _ _ inner => pure (some bridge, inner)
    onCommit := fun _ inner => inner }

def narrowRules : RouteRules Rat :=
  { bounds := ⟨0, 0, 40, 40⟩, thickness := 1, crossing := .forbid, unroutable := .restart, perEdge := 2 }

def bridgedEdge : Edge Rat := { a := ⟨0⟩, b := ⟨1⟩, weight := 20, kind := .tree }

theorem open_floor_entries : openFloor.index.entries.toList =
    [⟨⟨0, 0, 10, 10⟩, .room ⟨0⟩⟩, ⟨⟨20, 0, 10, 10⟩, .room ⟨1⟩⟩] :=
  (SpatialIndex.of_reservations_spec _ _).2.2

theorem open_floor_ready : openFloor.Ready := by
  refine ⟨(SpatialIndex.reached_iff_faithful _).mpr (SpatialIndex.of_reservations_spec _ _).1, ?_, ?_, ?_, ?_⟩
  · rw [openFloor, (SpatialIndex.of_reservations_spec _ _).2.1]
    decide +kernel
  · rw [open_floor_entries]
    intro entry member
    apply Rect.sized_of_nonneg
    · revert entry
      decide +kernel
    · revert entry
      decide +kernel
  · rw [open_floor_entries]
    simp [openFloor, Room.new]
  · rw [open_floor_entries]
    simp

theorem bridge_sized : bridge.Sized := by
  intro rect member
  cases List.mem_singleton.mp member
  exact Rect.sized_of_nonneg _ (by decide +kernel) (by decide +kernel)

theorem bridge_sound :
    alwaysBridge.Offers Proposal.Sized ∧ openFloor.Ready
      ∧ ∃ connector after,
        ((routeAll narrowRules alwaysBridge [bridgedEdge] { board := openFloor, strategy := () }).run
          (Rng.ofSeed 0)).1 = (.ok [connector], after)
        ∧ connector.forced = false ∧ connector.Sound narrowRules after.board.rooms [] := by
  have offers : alwaysBridge.Offers Proposal.Sized := by
    constructor
    · intro _ _ _ _ _ _ proposal same
      cases same
      exact bridge_sized
    · intro _ _ _ _ _ proposal same
      cases same
      exact bridge_sized
  have clear : (narrowRules.tryReserve bridgedEdge bridge openFloor).1 = 0 := by
    rw [narrowRules.try_reserve_conflicts bridgedEdge bridge openFloor open_floor_ready.searchable bridge_sized
      open_floor_ready.occupant_unused, RouteRules.conflicts, open_floor_entries]
    decide +kernel
  obtain ⟨connectors, _, sound, same⟩ := (unforced_connectors_sound narrowRules alwaysBridge offers
    { board := openFloor, strategy := () } open_floor_ready).2 [bridgedEdge] (Rng.ofSeed 0)
  have routed : ((routeAll narrowRules alwaysBridge [bridgedEdge] { board := openFloor, strategy := () }).run
      (Rng.ofSeed 0)).1.1 = .ok [connectorOf openFloor bridgedEdge bridge false] := by
    have attempts : narrowRules.perEdge = 1 + 1 := rfl
    have proposed : ∀ context a b attempt inner, alwaysBridge.propose context a b attempt inner =
      pure (some bridge, inner) := fun _ _ _ _ _ => rfl
    have entered := narrowRules.try_reserve_board bridgedEdge bridge openFloor open_floor_ready.searchable.faithful
    rw [if_pos clear] at entered
    simp only [routeAll, routeEdge, attempts, tryAttempts, draw_run_bind, draw_run_pure, proposed, clear, entered,
      ↓reduceIte, commit_entered]
    rfl
  generalize ((routeAll narrowRules alwaysBridge [bridgedEdge]
    { board := openFloor, strategy := () }).run (Rng.ofSeed 0)) = result at sound same routed ⊢
  obtain ⟨⟨outcome, after⟩, rng⟩ := result
  have only := same _ routed
  subst only
  refine ⟨offers, open_floor_ready, _, after, Prod.ext routed rfl, rfl, sound.each 0 _ rfl rfl⟩
end Floorplan

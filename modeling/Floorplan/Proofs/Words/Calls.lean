import Floorplan.Proofs.Grid.Search
import Floorplan.Proofs.Route.Ledger
import Floorplan.Proofs.Words.Route

/-!
Calls of a router whose map is in words. A map that is lost stays lost; as long as it is there, the calls come to
what they come to over the unlimited map. Among rooms near the map no call loses it.
-/

set_option autoImplicit false

namespace Floorplan.Words

open Floorplan.Random (Draw Rng)

section Tracks

variable {β γ X Y X' Y' : Type}

structure Tracks (here : β → Option Raster → X) (there : β → Raster → Y)
    (checked : Option Raster → Draw X) (unlimited : Raster → Draw Y) : Prop where
  lost : ∀ rng, ∃ rest, ((checked none).run rng).1 = here rest none
  kept : ∀ raster rng, (∃ rest, ((checked (some raster)).run rng).1 = here rest none)
    ∨ ∃ rest map rng', (checked (some raster)).run rng = (here rest (some map), rng')
      ∧ (unlimited raster).run rng = (there rest map, rng')

variable {here : β → Option Raster → X} {there : β → Raster → Y} {here' : γ → Option Raster → X'}
  {there' : γ → Raster → Y'}

theorem Tracks.pure (rest : β) :
    Tracks here there (fun map => Pure.pure (here rest map)) fun raster => Pure.pure (there rest raster) where
  lost _ := ⟨rest, rfl⟩
  kept raster rng := .inr ⟨rest, raster, rng, rfl, rfl⟩

theorem Tracks.bind {first : Option Raster → Draw X} {unlimited : Raster → Draw Y} {next : X → Draw X'}
    {after : Y → Draw Y'} (tracks : Tracks here there first unlimited)
    (goOn : ∀ rest, Tracks here' there' (fun map => next (here rest map)) fun raster => after (there rest raster)) :
    Tracks here' there' (fun map => first map >>= next) fun raster => unlimited raster >>= after where
  lost rng := by
    obtain ⟨rest, gone⟩ := tracks.lost rng
    rw [draw_run_bind, gone]
    exact (goOn rest).lost _
  kept raster rng := by
    rw [draw_run_bind, draw_run_bind]
    rcases tracks.kept raster rng with ⟨rest, gone⟩ | ⟨rest, map, rng', found, same⟩
    · rw [gone]
      exact .inl ((goOn rest).lost _)
    · rw [found, same]
      exact (goOn rest).kept map rng'

end Tracks

section Sound

variable {α : Type} [Coord α] (rules : RouteRules α) (crossing : CrossingPolicy)

def answer {β σ : Type} (rest : β × RouteBoard α) (map : σ) : β × RouteState α σ :=
  (rest.1, { board := rest.2, strategy := map })

omit [Coord α] in
theorem answered_or_lost (raster : Raster) (offer : Option (Option (Proposal α))) (made : Option (Proposal α))
    (sound : Sound offer made) : answered raster offer = (none, none) ∨ answered raster offer = (made, some raster) := by
  cases offer with
  | none => exact .inl rfl
  | some found =>
      rw [sound found rfl]
      exact .inr rfl

-- A map that is asked is lost without an offer, or kept with the offer of the unlimited one.
theorem propose_or_lost (context : RouteContext α) (a b : RoomId) (attempt : Nat) (raster : Raster) (rng : Rng) :
    (((strategy crossing).propose context a b attempt (some raster)).run rng).1 = (none, none)
      ∨ ∃ offer rng', ((strategy crossing).propose context a b attempt (some raster)).run rng =
          ((offer, some raster), rng')
        ∧ ((Grid.strategy crossing).propose context a b attempt raster).run rng = ((offer, raster), rng') := by
  simp only [strategy, Grid.strategy]
  cases context.rooms[a.index]? with
  | none => exact .inr ⟨none, rng, rfl, rfl⟩
  | some roomA =>
      cases context.rooms[b.index]? with
      | none => exact .inr ⟨none, rng, rfl, rfl⟩
      | some roomB =>
          obtain ⟨same, sound⟩ := propose_sound raster crossing roomA roomB context.thickness attempt rng
          simp only [draw_run_bind, draw_run_pure, same]
          rcases answered_or_lost raster _ _ sound with gone | found
          · exact .inl gone
          · exact .inr ⟨_, _, congrArg (·, _) found, rfl⟩

theorem forced_or_lost (context : RouteContext α) (a b : RoomId) (raster : Raster) (rng : Rng) :
    (((strategy crossing).proposeForced context a b (some raster)).run rng).1 = (none, none)
      ∨ ∃ offer, ((strategy crossing).proposeForced context a b (some raster)).run rng = ((offer, some raster), rng)
        ∧ ((Grid.strategy crossing).proposeForced context a b raster).run rng = ((offer, raster), rng) := by
  simp only [strategy, Grid.strategy]
  cases context.rooms[a.index]? with
  | none => exact .inr ⟨none, rfl, rfl⟩
  | some roomA =>
      cases context.rooms[b.index]? with
      | none => exact .inr ⟨none, rfl, rfl⟩
      | some roomB =>
          have sound := first_path_sound raster crossing roomA roomB context.thickness (Grid.wallPairs roomA roomB)
          rcases answered_or_lost raster _ _ sound with gone | found
          · exact .inl gone
          · exact .inr ⟨_, congrArg (·, rng) found, rfl⟩

theorem propose_tracks (context : RouteContext α) (a b : RoomId) (attempt : Nat) :
    Tracks Prod.mk Prod.mk (fun map => (strategy crossing).propose context a b attempt map)
      fun raster => (Grid.strategy crossing).propose context a b attempt raster where
  lost rng := ⟨none, rfl⟩
  kept raster rng := by
    rcases propose_or_lost crossing context a b attempt raster rng with gone | ⟨offer, rng', found, same⟩
    · exact .inl ⟨none, gone⟩
    · exact .inr ⟨offer, raster, rng', found, same⟩

theorem forced_tracks (context : RouteContext α) (a b : RoomId) :
    Tracks Prod.mk Prod.mk (fun map => (strategy crossing).proposeForced context a b map)
      fun raster => (Grid.strategy crossing).proposeForced context a b raster where
  lost rng := ⟨none, rfl⟩
  kept raster rng := by
    rcases forced_or_lost crossing context a b raster rng with gone | ⟨offer, found, same⟩
    · exact .inl ⟨none, gone⟩
    · exact .inr ⟨offer, raster, rng, found, same⟩

theorem commit_tracks {β : Type} (edge : Edge α) (proposal : Proposal α) (forced : Bool) (board : RouteBoard α)
    (outcome : Connector α → β) :
    let checked map := commit (strategy crossing) edge proposal forced { board, strategy := map }
    let unlimited raster := commit (Grid.strategy crossing) edge proposal forced { board, strategy := raster }
    Tracks answer answer (fun map => pure (outcome (checked map).1, (checked map).2))
      fun raster => pure (outcome (unlimited raster).1, (unlimited raster).2) := by
  intro checked unlimited
  let rest := (outcome (connectorOf board edge proposal forced), { board with nextId := board.nextId + 1 })
  have sound := fun raster => mark_corridor_sound raster (connectorOf board edge proposal forced)
  refine ⟨fun rng => ⟨rest, rfl⟩, fun raster rng => ?_⟩
  change (∃ left, (outcome _, _) = answer left none) ∨ _
  cases marked : markCorridor? (connectorOf board edge proposal forced) raster with
  | none => exact .inl ⟨rest, congrArg (answer rest) marked⟩
  | some map =>
      refine .inr ⟨rest, map, rng, congrArg (fun map => (answer rest map, rng)) marked, ?_⟩
      rw [sound raster map marked]
      rfl

theorem attempts_track (edge : Edge α) (left attempt : Nat) (best : BestProposal α) (board : RouteBoard α) :
    Tracks answer answer
      (fun map => tryAttempts rules (strategy crossing) edge left attempt best { board, strategy := map })
      fun raster => tryAttempts rules (Grid.strategy crossing) edge left attempt best { board, strategy := raster } := by
  induction left generalizing attempt best board with
  | zero => exact .pure (Except.error best, board)
  | succ left ih =>
      refine (propose_tracks crossing (rules.context board) edge.a edge.b attempt).bind fun offer => ?_
      cases offer with
      | none => exact ih (attempt + 1) best board
      | some proposal =>
          simp only
          by_cases clear : (rules.tryReserve edge proposal board).1 = 0
          · simp only [clear, if_true]
            exact commit_tracks crossing edge proposal false _ Except.ok
          · simp only [clear, if_false]
            exact ih (attempt + 1) _ _

theorem fallback_tracks (edge : Edge α) (best : BestProposal α) (board : RouteBoard α) :
    Tracks answer answer (fun map => fallback rules (strategy crossing) edge best { board, strategy := map })
      fun raster => fallback rules (Grid.strategy crossing) edge best { board, strategy := raster } := by
  cases best with
  | some kept => exact .pure (some kept.2, board)
  | none =>
      refine (forced_tracks crossing (rules.context board) edge.a edge.b).bind fun offer => ?_
      exact .pure (offer, board)

theorem edge_tracks (edge : Edge α) (board : RouteBoard α) :
    Tracks answer answer (fun map => routeEdge rules (strategy crossing) edge { board, strategy := map })
      fun raster => routeEdge rules (Grid.strategy crossing) edge { board, strategy := raster } := by
  refine (attempts_track rules crossing edge rules.perEdge 0 none board).bind fun ⟨outcome, board⟩ => ?_
  cases outcome with
  | ok connector => exact .pure (Except.ok (some connector), board)
  | error best =>
      by_cases extra : (!edge.isTree) = true
      · simp only [answer, extra, if_true]
        exact .pure (Except.ok none, board)
      · by_cases restart : rules.unroutable = .restart
        · simp only [answer, extra, restart, if_true]
          exact .pure (Except.error _, board)
        · simp only [answer, extra, restart, if_false]
          refine (fallback_tracks rules crossing edge best board).bind fun ⟨offer, board⟩ => ?_
          cases offer with
          | none => exact .pure (Except.error _, board)
          | some proposal =>
              exact commit_tracks crossing edge proposal true (enter edge proposal board)
                fun connector => Except.ok (some connector)

theorem edges_track (edges : List (Edge α)) (board : RouteBoard α) :
    Tracks answer answer (fun map => routeAll rules (strategy crossing) edges { board, strategy := map })
      fun raster => routeAll rules (Grid.strategy crossing) edges { board, strategy := raster } := by
  induction edges generalizing board with
  | nil => exact .pure (Except.ok [], board)
  | cons edge rest ih =>
      refine (edge_tracks rules crossing edge board).bind fun ⟨outcome, board⟩ => ?_
      cases outcome with
      | error failure => exact .pure (Except.error failure, board)
      | ok routed =>
          refine (ih board).bind fun ⟨outcome, board⟩ => ?_
          cases outcome with
          | error failure => exact .pure (Except.error failure, board)
          | ok connectors => exact .pure (Except.ok (routed.toList ++ connectors), board)

end Sound

section Answers

variable {α : Type} [Coord α] (rules : RouteRules α) (crossing : CrossingPolicy) (span : CellSpan)

def Kept (map : Option Raster) : Prop := ∃ raster, map = some raster ∧ Framed raster ∧ raster.span = span

def PathOn (geometry : Geometry α) : Prop := ∀ path, geometry = .path path → ∀ cell ∈ path, span.Holds cell

omit [Coord α] in
theorem follows_on (raster : Raster) (forced : Bool) (geometry : Geometry α)
    (follows : Grid.Follows raster crossing forced geometry) : PathOn raster.span geometry := by
  intro path same cell member
  rcases follows with doorway | ⟨cells, route, opens⟩
  · rw [same] at doorway
    cases doorway
  · rw [same] at route
    cases route
    obtain ⟨state, read, _⟩ := opens cell member
    exact (raster.state_some_iff cell).mp (Option.isSome_iff_exists.mpr ⟨state, read⟩)

def AllNear (rooms : Array (Room α)) : Prop :=
  ∀ room ∈ rooms, ∀ raster : Raster, raster.span = span → Near raster room.rect

theorem strategy_serves (edge : Edge α) (board : RouteBoard α) (near : AllNear span board.rooms) :
    Serves rules (strategy crossing) edge board (Kept span) fun proposal => PathOn span proposal.geometry where
  propose attempt inner rng := by
    rintro ⟨raster, rfl, framed, rfl⟩
    simp only [strategy, RouteRules.context]
    cases readA : board.rooms[edge.a.index]? with
    | none => exact ⟨⟨raster, rfl, framed, rfl⟩, fun _ offered => by cases offered⟩
    | some roomA =>
        cases readB : board.rooms[edge.b.index]? with
        | none => exact ⟨⟨raster, rfl, framed, rfl⟩, fun _ offered => by cases offered⟩
        | some roomB =>
            have answers := propose_answers framed crossing roomA roomB
              (near roomA (Array.mem_of_getElem? readA) raster rfl)
              (near roomB (Array.mem_of_getElem? readB) raster rfl) rules.thickness attempt rng
            simp only [draw_run_bind, draw_run_pure, answers]
            refine ⟨⟨raster, rfl, framed, rfl⟩, fun proposal offered => ?_⟩
            exact follows_on crossing raster false proposal.geometry
              (Grid.propose_follows raster crossing roomA roomB rules.thickness attempt rng proposal offered)
  proposeForced inner rng := by
    rintro ⟨raster, rfl, framed, rfl⟩
    simp only [strategy, RouteRules.context]
    cases readA : board.rooms[edge.a.index]? with
    | none => exact ⟨⟨raster, rfl, framed, rfl⟩, fun _ offered => by cases offered⟩
    | some roomA =>
        cases readB : board.rooms[edge.b.index]? with
        | none => exact ⟨⟨raster, rfl, framed, rfl⟩, fun _ offered => by cases offered⟩
        | some roomB =>
            have answers := propose_forced_answers framed crossing roomA roomB
              (near roomA (Array.mem_of_getElem? readA) raster rfl)
              (near roomB (Array.mem_of_getElem? readB) raster rfl) rules.thickness
            simp only [draw_run_pure, answers]
            refine ⟨⟨raster, rfl, framed, rfl⟩, fun proposal offered => ?_⟩
            exact follows_on crossing raster true proposal.geometry
              (Grid.propose_forced_follows raster crossing roomA roomB rules.thickness proposal offered)

omit [Coord α] in
theorem mark_keeps (connector : Connector α) (map : Option Raster) (kept : Kept span map)
    (on : PathOn span connector.geometry) : Kept span (map.bind (markCorridor? connector)) := by
  obtain ⟨raster, rfl, framed, rfl⟩ := kept
  rw [Option.bind_some, markCorridor?]
  cases route : connector.geometry with
  | path cells =>
      have same := raster.set_all_span cells .corridor
      have reach := fun cell inside => (held_in_words framed cell (on cells route cell inside)).2
      exact ⟨_, set_all_answers framed.cells cells .corridor reach, framed.of_span same, same⟩
  | segments rects => exact ⟨raster, rfl, framed, rfl⟩
  | doorway => exact ⟨raster, rfl, framed, rfl⟩

structure Ready (state : RouteState α (Option Raster)) : Prop where
  rooms : AllNear span state.board.rooms
  map : Kept span state.strategy

theorem start_ready {bounds : Rect α} (measured : Measured bounds) (board : RouteBoard α)
    (framed : Framed (.ofRooms bounds board.rooms))
    (near : ∀ room ∈ board.rooms, Near (.ofRooms bounds board.rooms) room.rect) :
    Ready (Raster.ofRooms bounds board.rooms).span { board, strategy := ofRooms? bounds board.rooms } where
  rooms room listed _ same := (near room listed).of_span same
  map := ⟨_, of_rooms_answers measured board.rooms near, framed, rfl⟩

-- No call loses the map, whatever edges are asked for and however the calls end.
theorem run_ready (start : RouteState α (Option Raster)) (faithful : start.board.index.Faithful)
    (ready : Ready span start) (connectors : List (Connector α)) (state : RouteState α (Option Raster))
    (ran : RouteRun rules (strategy crossing) start connectors state) : Ready span state := by
  refine route_run_keeps rules (strategy crossing) start faithful
    (fun state inner => Ready span state → Kept span inner)
    (fun state _ proposal => Ready span state → PathOn span proposal.geometry) (fun _ state => Ready span state)
    ?_ (fun state ready => ready.map) ready ?_ ?_ connectors state ran
  · intro state edge
    by_cases ready : Ready span state
    · have serves := strategy_serves rules crossing span edge state.board ready.rooms
      constructor
      · intro attempt inner rng kept
        obtain ⟨keptAfter, offers⟩ := serves.propose attempt inner rng (kept ready)
        exact ⟨fun _ => keptAfter, fun proposal offered _ => offers proposal offered⟩
      · intro inner rng kept
        obtain ⟨keptAfter, offers⟩ := serves.proposeForced inner rng (kept ready)
        exact ⟨fun _ => keptAfter, fun proposal offered _ => offers proposal offered⟩
    · constructor
      · exact fun _ _ _ _ => ⟨fun now => absurd now ready, fun _ _ now => absurd now ready⟩
      · exact fun _ _ _ => ⟨fun now => absurd now ready, fun _ _ now => absurd now ready⟩
  · exact fun _ _ _ holds kept => ⟨holds.rooms, kept holds⟩
  · intro _ state edge proposal forced inner ledger holds kept offered
    constructor
    · intro room listed
      have gains := state.board.with_connector_gains ledger.faithful (connectorOf state.board edge proposal forced)
      obtain ⟨k, read⟩ := Array.getElem?_of_mem listed
      rw [committedState, gains.rooms k] at read
      obtain ⟨before, found, rfl⟩ := Option.map_eq_some_iff.mp read
      exact holds.rooms before (Array.mem_of_getElem? found)
    · exact mark_keeps span _ inner (kept holds) (offered holds)

end Answers

end Floorplan.Words

import Floorplan.Proofs.Index.History
import Floorplan.Proofs.Random.Answers
import Floorplan.Routing

set_option autoImplicit false

namespace Floorplan

open Floorplan.Random (Draw Rng)

@[simp] theorem Room.pop_push_door {α : Type} (room : Room α) (door : Door α) : (room.pushDoor door).popDoor = room := by
  simp [Room.pushDoor, Room.popDoor]

def Connector.doorsAt {α : Type} (connector : Connector α) (k : Nat) : List (Door α) :=
  (if connector.rooms.1.index = k then [connector.doors.1] else [])
    ++ if connector.rooms.2.index = k then [connector.doors.2] else []

variable {α : Type} [Coord α]

def Connector.reservations (connector : Connector α) : List (Reservation α) :=
  connector.rects.map fun rect => { rect, occupant := .connector connector.id }

namespace SpatialIndex

theorem reserve_all_spec (index : SpatialIndex α) (faithful : index.Faithful) (rects : List (Rect α))
    (occupant : Occupant) :
    (index.reserveAll rects occupant).Faithful
      ∧ (index.reserveAll rects occupant).cellSize = index.cellSize
      ∧ (index.reserveAll rects occupant).entries.toList =
          index.entries.toList ++ rects.map fun rect => ({ rect, occupant } : Reservation α) := by
  induction rects generalizing index with
  | nil => exact ⟨faithful, rfl, by simp [reserveAll]⟩
  | cons rect rest ih =>
      obtain ⟨all, size, entries⟩ :=
        ih (index.reserve rect occupant) (index.reserve_faithful faithful rect occupant)
      refine ⟨all, size, entries.trans ?_⟩
      simp [reserve]

theorem reserve_all_rollback (index : SpatialIndex α) (faithful : index.Faithful) (rects : List (Rect α))
    (occupant : Occupant) : (index.reserveAll rects occupant).rollback index.checkpoint = index := by
  obtain ⟨grown, size, entries⟩ := reserve_all_spec index faithful rects occupant
  obtain ⟨back, backSize, backEntries⟩ := rollback_spec _ grown index.checkpoint
  apply faithful_unique _ _ back faithful (backSize.trans size)
  apply Array.ext'
  rw [backEntries, entries]
  exact List.take_left' Array.length_toList

end SpatialIndex

namespace RouteBoard

omit [Coord α] in
theorem pop_push_doors (board : RouteBoard α) (edge : Edge α) (doors : Door α × Door α) :
    (board.pushDoors edge doors).popDoors edge = board := by
  have rooms : ((board.pushDoors edge doors).popDoors edge).rooms = board.rooms := by
    apply Array.ext_getElem?
    intro k
    simp only [popDoors, pushDoors, Array.getElem?_modify]
    cases board.rooms[k]? with
    | none => simp
    | some room =>
        by_cases first : edge.a.index = k <;> by_cases second : edge.b.index = k <;>
          simp [first, second, Room.pop_push_door]
  cases board
  simp only [popDoors, pushDoors] at rooms ⊢
  rw [rooms]

def withConnector (board : RouteBoard α) (connector : Connector α) : RouteBoard α :=
  { rooms := (board.rooms.modify connector.rooms.1.index (·.pushDoor connector.doors.1)).modify
      connector.rooms.2.index (·.pushDoor connector.doors.2)
    index := board.index.reserveAll connector.rects (.connector connector.id)
    nextId := board.nextId + 1 }

-- What a board gains by a connector; all else is as it was.
structure Gains (before after : RouteBoard α) (connector : Connector α) : Prop where
  nextId : after.nextId = before.nextId + 1
  rooms : ∀ k : Nat, after.rooms[k]? = before.rooms[k]?.map fun room =>
    { room with doors := room.doors ++ connector.doorsAt k }
  index : after.index =
    .ofReservations before.index.cellSize (before.index.entries.toList ++ connector.reservations)

theorem with_connector_gains (board : RouteBoard α) (faithful : board.index.Faithful)
    (connector : Connector α) : Gains board (board.withConnector connector) connector := by
  obtain ⟨grown, size, entries⟩ := board.index.reserve_all_spec faithful connector.rects
    (.connector connector.id)
  refine ⟨rfl, ?_, ?_⟩
  · intro k
    simp only [withConnector, Array.getElem?_modify]
    cases board.rooms[k]? with
    | none => simp
    | some room =>
        by_cases first : connector.rooms.1.index = k <;> by_cases second : connector.rooms.2.index = k <;>
          simp [first, second, Room.pushDoor, Connector.doorsAt]
  · refine (SpatialIndex.faithful_of_reservations _ grown).trans ?_
    rw [size, entries]
    rfl

theorem enter_index (board : RouteBoard α) (rects : List (Rect α)) (own : Occupant) :
    rects.foldl (fun board rect => board.reserve rect own) board =
      { board with index := board.index.reserveAll rects own } := by
  induction rects generalizing board with
  | nil => rfl
  | cons rect rest ih => exact ih (board.reserve rect own)

theorem enter_eq (board : RouteBoard α) (edge : Edge α) (proposal : Proposal α) :
    enter edge proposal board =
      { board.pushDoors edge proposal.doors with
        index := board.index.reserveAll proposal.geometry.rects board.occupant } :=
  enter_index (board.pushDoors edge proposal.doors) proposal.geometry.rects board.occupant

end RouteBoard

namespace RouteRules

variable (rules : RouteRules α)

theorem reserve_counting_board (rects : List (Rect α)) (conflicts : Nat) (board : RouteBoard α) :
    (rules.reserveCounting rects conflicts board).2 =
      { board with index := board.index.reserveAll rects board.occupant } := by
  induction rects generalizing conflicts board with
  | nil => rfl
  | cons rect rest ih => exact ih _ (board.reserve rect board.occupant)

theorem try_reserve_board (edge : Edge α) (proposal : Proposal α) (board : RouteBoard α)
    (faithful : board.index.Faithful) :
    (rules.tryReserve edge proposal board).2 =
      if (rules.tryReserve edge proposal board).1 = 0 then enter edge proposal board else board := by
  rw [tryReserve, RouteBoard.enter_eq]
  simp only [reserve_counting_board]
  split
  · rfl
  · have restored := SpatialIndex.reserve_all_rollback board.index faithful proposal.geometry.rects
      board.occupant
    exact (congrArg (fun index => RouteBoard.popDoors { board.pushDoors edge proposal.doors with index } edge)
      restored).trans (board.pop_push_doors edge proposal.doors)

end RouteRules

variable {σ : Type}

structure Serves (rules : RouteRules α) (strategy : Strategy α σ) (edge : Edge α) (board : RouteBoard α)
    (keeps : σ → Prop) (offers : Proposal α → Prop) : Prop where
  propose : ∀ (attempt : Nat) (inner : σ) (rng : Rng), keeps inner →
    let answer := ((strategy.propose (rules.context board) edge.a edge.b attempt inner).run rng).1
    keeps answer.2 ∧ ∀ proposal, answer.1 = some proposal → offers proposal
  proposeForced : ∀ (inner : σ) (rng : Rng), keeps inner →
    let answer := ((strategy.proposeForced (rules.context board) edge.a edge.b inner).run rng).1
    keeps answer.2 ∧ ∀ proposal, answer.1 = some proposal → offers proposal

def committedState (strategy : Strategy α σ) (connector : Connector α) (board : RouteBoard α) (inner : σ) :
    RouteState α σ :=
  { board := board.withConnector connector, strategy := strategy.onCommit connector inner }

theorem commit_entered (strategy : Strategy α σ) (edge : Edge α) (proposal : Proposal α) (forced : Bool)
    (board : RouteBoard α) (inner : σ) :
    commit strategy edge proposal forced { board := enter edge proposal board, strategy := inner } =
      (connectorOf board edge proposal forced,
        committedState strategy (connectorOf board edge proposal forced) board inner) := by
  rw [RouteBoard.enter_eq]
  rfl

inductive Routed (rules : RouteRules α) (strategy : Strategy α σ) (edge : Edge α) (board : RouteBoard α)
    (keeps : σ → Prop) (offers : Proposal α → Prop) :
    Except (Failure α) (Option (Connector α)) → RouteState α σ → Prop
  | failed (inner : σ) (tree : edge.isTree = true) (kept : keeps inner) :
      Routed rules strategy edge board keeps offers (.error (.unroutableEdge edge.a edge.b rules.perEdge))
        { board, strategy := inner }
  | dropped (inner : σ) (extra : edge.isTree = false) (kept : keeps inner) :
      Routed rules strategy edge board keeps offers (.ok none) { board, strategy := inner }
  | committed (proposal : Proposal α) (forced : Bool) (inner : σ) (kept : keeps inner)
      (offered : offers proposal)
      (clear : forced = false → (rules.tryReserve edge proposal board).1 = 0) :
      Routed rules strategy edge board keeps offers (.ok (some (connectorOf board edge proposal forced)))
        (committedState strategy (connectorOf board edge proposal forced) board inner)

inductive Attempted (rules : RouteRules α) (strategy : Strategy α σ) (edge : Edge α) (board : RouteBoard α)
    (keeps : σ → Prop) (offers : Proposal α → Prop) :
    Except (BestProposal α) (Connector α) → RouteState α σ → Prop
  | spent (best : BestProposal α) (inner : σ) (kept : keeps inner)
      (offered : ∀ conflicts proposal, best = some (conflicts, proposal) → offers proposal) :
      Attempted rules strategy edge board keeps offers (.error best) { board, strategy := inner }
  | accepted (proposal : Proposal α) (inner : σ) (kept : keeps inner) (offered : offers proposal)
      (clear : (rules.tryReserve edge proposal board).1 = 0) :
      Attempted rules strategy edge board keeps offers (.ok (connectorOf board edge proposal false))
        (committedState strategy (connectorOf board edge proposal false) board inner)

variable {rules : RouteRules α} {strategy : Strategy α σ} {edge : Edge α} {board : RouteBoard α}
  {keeps : σ → Prop} {offers : Proposal α → Prop}

omit [Coord α] in
theorem best_update_offered (best : BestProposal α) (conflicts : Nat) (proposal : Proposal α)
    (offered : ∀ fewest kept, best = some (fewest, kept) → offers kept) (fresh : offers proposal) :
    ∀ fewest kept, best.update conflicts proposal = some (fewest, kept) → offers kept := by
  intro fewest kept result
  cases best with
  | none =>
      cases result
      exact fresh
  | some old =>
      rw [BestProposal.update] at result
      split at result
      · cases result
        exact fresh
      · exact offered fewest kept result

theorem try_attempts_succ (rules : RouteRules α) (strategy : Strategy α σ) (edge : Edge α) (board : RouteBoard α)
    (faithful : board.index.Faithful) (left attempt : Nat) (best : BestProposal α) (inner : σ) (rng : Rng) :
    (tryAttempts rules strategy edge (left + 1) attempt best { board, strategy := inner }).run rng =
      let answer := (strategy.propose (rules.context board) edge.a edge.b attempt inner).run rng
      match answer.1.1 with
      | none =>
        (tryAttempts rules strategy edge left (attempt + 1) best { board, strategy := answer.1.2 }).run answer.2
      | some proposal =>
        let conflicts := (rules.tryReserve edge proposal board).1
        let connector := connectorOf board edge proposal false
        if conflicts = 0 then ((.ok connector, committedState strategy connector board answer.1.2), answer.2)
        else (tryAttempts rules strategy edge left (attempt + 1) (best.update conflicts proposal)
          { board, strategy := answer.1.2 }).run answer.2 := by
  simp only [tryAttempts, draw_run_bind]
  generalize (strategy.propose (rules.context board) edge.a edge.b attempt inner).run rng = answer
  obtain ⟨⟨offer, next⟩, rng'⟩ := answer
  cases offer with
  | none => rfl
  | some proposal =>
      have after := rules.try_reserve_board edge proposal board faithful
      simp only [after]
      by_cases clear : (rules.tryReserve edge proposal board).1 = 0
      · simp [clear, commit_entered]
      · simp only [if_neg clear]

theorem try_attempts_spec (faithful : board.index.Faithful)
    (serves : Serves rules strategy edge board keeps offers) (left attempt : Nat) (best : BestProposal α)
    (offered : ∀ conflicts proposal, best = some (conflicts, proposal) → offers proposal)
    (inner : σ) (kept : keeps inner) (rng : Rng) :
    let result := ((tryAttempts rules strategy edge left attempt best { board, strategy := inner }).run rng).1
    Attempted rules strategy edge board keeps offers result.1 result.2 := by
  induction left generalizing attempt best inner rng with
  | zero => exact .spent best inner kept offered
  | succ left ih =>
      obtain ⟨keptNext, fresh⟩ := serves.propose attempt inner rng kept
      rw [try_attempts_succ rules strategy edge board faithful]
      generalize (strategy.propose (rules.context board) edge.a edge.b attempt inner).run rng = answer
        at keptNext fresh ⊢
      obtain ⟨⟨offer, next⟩, rng'⟩ := answer
      cases offer with
      | none => exact ih (attempt + 1) best offered next keptNext rng'
      | some proposal =>
          simp only
          split
          next clear => exact .accepted proposal next keptNext (fresh proposal rfl) clear
          next => exact ih _ _ (best_update_offered best _ proposal offered (fresh proposal rfl)) next keptNext rng'

omit [Coord α] in
theorem fallback_spec (serves : Serves rules strategy edge board keeps offers) (best : BestProposal α)
    (offered : ∀ conflicts proposal, best = some (conflicts, proposal) → offers proposal)
    (inner : σ) (kept : keeps inner) (rng : Rng) :
    let result := ((fallback rules strategy edge best { board, strategy := inner }).run rng).1
    result.2.board = board ∧ keeps result.2.strategy
      ∧ ∀ proposal, result.1 = some proposal → offers proposal := by
  cases best with
  | some old =>
      refine ⟨rfl, kept, fun proposal same => ?_⟩
      cases same
      exact offered _ _ rfl
  | none => exact ⟨rfl, serves.proposeForced inner rng kept⟩

theorem route_edge_spec (state : RouteState α σ) (faithful : state.board.index.Faithful)
    (serves : Serves rules strategy edge state.board keeps offers) (kept : keeps state.strategy) (rng : Rng) :
    let result := ((routeEdge rules strategy edge state).run rng).1
    Routed rules strategy edge state.board keeps offers result.1 result.2 := by
  obtain ⟨board, inner⟩ := state
  have tried := try_attempts_spec faithful serves rules.perEdge 0 none (by simp) inner kept rng
  simp only [routeEdge, draw_run_bind]
  generalize (tryAttempts rules strategy edge rules.perEdge 0 none { board, strategy := inner }).run rng = answer
    at tried ⊢
  obtain ⟨⟨outcome, state⟩, rng'⟩ := answer
  cases tried with
  | accepted proposal inner' kept' offered clear =>
      exact .committed proposal false inner' kept' offered fun _ => clear
  | spent best inner' kept' offered =>
      simp only
      split
      next extra => exact .dropped inner' (by simpa using extra) kept'
      next tree =>
        have isTree : edge.isTree = true := by simpa using tree
        split
        · exact .failed inner' isTree kept'
        · rw [draw_run_bind]
          have last := fallback_spec serves best offered inner' kept' rng'
          generalize (fallback rules strategy edge best { board, strategy := inner' }).run rng' = answer at last ⊢
          obtain ⟨⟨offer, ⟨sameBoard, inner''⟩⟩, rng''⟩ := answer
          obtain ⟨rfl, kept'', fresh⟩ := last
          cases offer with
          | none => exact .failed inner'' isTree kept''
          | some proposal =>
              simp only
              rw [commit_entered]
              exact .committed proposal true inner'' kept'' (fresh proposal rfl) nofun

end Floorplan

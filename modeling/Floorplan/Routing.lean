import Floorplan.Failure
import Floorplan.SpatialIndex

/-!
Routing. A strategy proposes doors and a geometry for two rooms, attempt by attempt; the router
enters each proposal, counts what it conflicts with, and either commits it or takes it back.
-/

set_option autoImplicit false

namespace Floorplan

open Floorplan.Random (Draw)

structure RouteContext (α : Type) where
  rooms : Array (Room α)
  index : SpatialIndex α
  bounds : Rect α
  thickness : α
  crossing : CrossingPolicy

structure Strategy (α σ : Type) where
  propose : RouteContext α → RoomId → RoomId → Nat → σ → Draw (Option (Proposal α) × σ)
  proposeForced : RouteContext α → RoomId → RoomId → σ → Draw (Option (Proposal α) × σ)
  onCommit : Connector α → σ → σ

variable {α : Type} [Coord α]

/-- A door in the wall that two rooms share, with nothing between them. `wall` is a wall of the first
room and its opposite one of the second; both must lie on one line and have an anchor in common. -/
def doorway (a b : Room α) (wall : Wall) (thickness : α) : Draw (Option (Proposal α)) := do
  let target := wall.opposite
  if wall.line a.rect == target.line b.rect then
    match (a.doorSpan wall thickness).intersect (b.doorSpan target thickness) with
    | none => pure none
    | some span =>
      let along ← span.sample
      let anchor := wall.pointAt a.rect along
      pure (some { doors := ({ wall, anchor }, { wall := target, anchor }), geometry := .doorway })
  else pure none

structure RouteRules (α : Type) where
  bounds : Rect α
  thickness : α
  crossing : CrossingPolicy
  unroutable : UnroutablePolicy
  perEdge : Nat

def RouteRules.ofConfig (config : Config α) : RouteRules α :=
  { bounds := config.bounds
    thickness := config.corridorThickness
    crossing := config.crossing
    unroutable := config.unroutable
    perEdge := config.budgets.perEdge.toNat }

structure RouteBoard (α : Type) where
  rooms : Array (Room α)
  index : SpatialIndex α
  nextId : Nat

namespace RouteBoard

def occupant (board : RouteBoard α) : Occupant := .connector { index := board.nextId }

def pushDoors (board : RouteBoard α) (edge : Edge α) (doors : Door α × Door α) : RouteBoard α :=
  { rooms := (board.rooms.modify edge.a.index (·.pushDoor doors.1)).modify edge.b.index
      (·.pushDoor doors.2)
    index := board.index
    nextId := board.nextId }

def popDoors (board : RouteBoard α) (edge : Edge α) : RouteBoard α :=
  { rooms := (board.rooms.modify edge.b.index Room.popDoor).modify edge.a.index Room.popDoor
    index := board.index
    nextId := board.nextId }

def reserve (board : RouteBoard α) (rect : Rect α) (occupant : Occupant) : RouteBoard α :=
  { rooms := board.rooms, index := board.index.reserve rect occupant, nextId := board.nextId }

def rollback (board : RouteBoard α) (checkpoint : Checkpoint) : RouteBoard α :=
  { rooms := board.rooms, index := board.index.rollback checkpoint, nextId := board.nextId }

end RouteBoard

namespace RouteRules

def context (rules : RouteRules α) (board : RouteBoard α) : RouteContext α :=
  { rooms := board.rooms
    index := board.index
    bounds := rules.bounds
    thickness := rules.thickness
    crossing := rules.crossing }

def doorConflicts (rules : RouteRules α) (rooms : Array (Room α)) (id : RoomId) (door : Door α) : Nat :=
  match rooms[id.index]? with
  | none => 1
  | some room => if room.admits door rules.thickness then 0 else 1

/-- The occupants a rectangle must not overlap and does: rooms, and connectors unless they may
cross. The connector's own other pieces do not count. -/
def areaConflicts (rules : RouteRules α) (index : SpatialIndex α) (own : Occupant) (rect : Rect α) :
    Nat :=
  let out := if rules.bounds.containsRect rect then 0 else 1
  let met := (index.overlapping rect).filter fun other =>
    other != own && (other.isRoom || !rules.crossing.allows)
  out + met.length

def reserveCounting (rules : RouteRules α) :
    List (Rect α) → Nat → RouteBoard α → Nat × RouteBoard α
  | [], conflicts, board => (conflicts, board)
  | rect :: rest, conflicts, board =>
    let own := board.occupant
    let more := rules.areaConflicts board.index own rect
    reserveCounting rules rest (conflicts + more) (board.reserve rect own)

def tryReserve (rules : RouteRules α) (edge : Edge α) (proposal : Proposal α)
    (board : RouteBoard α) : Nat × RouteBoard α :=
  let checkpoint := board.index.checkpoint
  let board := board.pushDoors edge proposal.doors
  let doors := rules.doorConflicts board.rooms edge.a proposal.doors.1
    + rules.doorConflicts board.rooms edge.b proposal.doors.2
  let (conflicts, board) := rules.reserveCounting proposal.geometry.rects doors board
  if conflicts = 0 then (0, board)
  else (conflicts, (board.rollback checkpoint).popDoors edge)

end RouteRules

def connectorOf (board : RouteBoard α) (edge : Edge α) (proposal : Proposal α) (forced : Bool) :
    Connector α :=
  { id := { index := board.nextId }
    rooms := (edge.a, edge.b)
    doors := proposal.doors
    geometry := proposal.geometry
    forced }

structure RouteState (α σ : Type) where
  board : RouteBoard α
  strategy : σ

def commit {σ : Type} (strategy : Strategy α σ) (edge : Edge α) (proposal : Proposal α)
    (forced : Bool) (state : RouteState α σ) : Connector α × RouteState α σ :=
  let connector := connectorOf state.board edge proposal forced
  -- the board is taken apart so that its arrays are not shared when it is put together again
  let { rooms, index, nextId } := state.board
  (connector,
    { board := { rooms, index, nextId := nextId + 1 }
      strategy := strategy.onCommit connector state.strategy })

def enter (edge : Edge α) (proposal : Proposal α) (board : RouteBoard α) : RouteBoard α :=
  let own := board.occupant
  proposal.geometry.rects.foldl (fun board rect => board.reserve rect own)
    (board.pushDoors edge proposal.doors)

abbrev BestProposal (α : Type) := Option (Nat × Proposal α)

def BestProposal.update {α : Type} (best : BestProposal α) (conflicts : Nat) (proposal : Proposal α) :
    BestProposal α :=
  match best with
  | some (fewest, kept) =>
    if conflicts < fewest then some (conflicts, proposal) else some (fewest, kept)
  | none => some (conflicts, proposal)

/-- Ask for proposals, beginning with the given attempt, until one has no conflicts or `left` more
have been asked for. The answer is the connector, or the best of the other proposals. -/
def tryAttempts {σ : Type} (rules : RouteRules α) (strategy : Strategy α σ) (edge : Edge α) :
    (left attempt : Nat) → BestProposal α → RouteState α σ →
      Draw (Except (BestProposal α) (Connector α) × RouteState α σ)
  | 0, _, best, state => pure (.error best, state)
  | left + 1, attempt, best, { board, strategy := inner } => do
    let (offer, inner) ← strategy.propose (rules.context board) edge.a edge.b attempt inner
    match offer with
    | none => tryAttempts rules strategy edge left (attempt + 1) best { board, strategy := inner }
    | some proposal =>
      let (conflicts, board) := rules.tryReserve edge proposal board
      if conflicts = 0 then
        let (connector, state) := commit strategy edge proposal false { board, strategy := inner }
        pure (.ok connector, state)
      else
        tryAttempts rules strategy edge left (attempt + 1) (best.update conflicts proposal)
          { board, strategy := inner }

/-- What is committed when no attempt had a proposal without conflicts: the best of them, or one that
the strategy makes for the purpose. -/
def fallback {σ : Type} (rules : RouteRules α) (strategy : Strategy α σ) (edge : Edge α)
    (best : BestProposal α) (state : RouteState α σ) : Draw (Option (Proposal α) × RouteState α σ) := do
  match best with
  | some (_, proposal) => pure (some proposal, state)
  | none =>
    let { board, strategy := inner } := state
    let (offer, inner) ← strategy.proposeForced (rules.context board) edge.a edge.b inner
    pure (offer, { board, strategy := inner })

/-- Route one edge. An extra edge that cannot be routed is dropped; a tree edge fails, or is forced. -/
def routeEdge {σ : Type} (rules : RouteRules α) (strategy : Strategy α σ) (edge : Edge α)
    (state : RouteState α σ) :
    Draw (Except (Failure α) (Option (Connector α)) × RouteState α σ) := do
  let (outcome, state) ← tryAttempts rules strategy edge rules.perEdge 0 none state
  match outcome with
  | .ok connector => pure (.ok (some connector), state)
  | .error best =>
    let failure : Failure α := .unroutableEdge edge.a edge.b rules.perEdge
    if !edge.isTree then pure (.ok none, state)
    else if rules.unroutable = .restart then pure (.error failure, state)
    else
      let (offer, state) ← fallback rules strategy edge best state
      match offer with
      | none => pure (.error failure, state)
      | some proposal =>
        let { board, strategy := inner } := state
        let (connector, state) :=
          commit strategy edge proposal true { board := enter edge proposal board, strategy := inner }
        pure (.ok (some connector), state)

def routeAll {σ : Type} (rules : RouteRules α) (strategy : Strategy α σ) :
    List (Edge α) → RouteState α σ →
      Draw (Except (Failure α) (List (Connector α)) × RouteState α σ)
  | [], state => pure (.ok [], state)
  | edge :: rest, state => do
    let (outcome, state) ← routeEdge rules strategy edge state
    match outcome with
    | .error failure => pure (.error failure, state)
    | .ok routed =>
      let (outcome, state) ← routeAll rules strategy rest state
      match outcome with
      | .error failure => pure (.error failure, state)
      | .ok connectors => pure (.ok (routed.toList ++ connectors), state)

end Floorplan

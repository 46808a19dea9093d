/-
This file models `navigation/route_planner.py` and shows what a planned route is. The
planner relaxes the successors of the start lane from the length that is left of it,
runs the queue until the destination lane is popped, and walks the back pointers to
the first one that names the start lane.

A planned route exists for every pair of lanes of a loaded map, follows successors
only, has the total of its segments, and is not longer than any legal drive.
-/

import RcTaxi.LaneMap
import RcTaxi.ShortestPath

namespace RcTaxi

open ShortestPath

/-- What a segment of a route is. -/
inductive SegmentKind
  | lane
  | connector
  deriving DecidableEq, Repr

structure RouteSegment (α : Type) where
  segmentId : String
  kind : SegmentKind
  maneuver : Maneuver
  centerline : Polyline α
  speedLimitMps : PyFloat α
  lengthM : α
  radiusM : Option (PyFloat α)

structure Route (α : Type) where
  startLaneId : String
  destinationLaneId : String
  segments : List (RouteSegment α)
  totalLengthM : α

variable {α : Type} [Scalar α]

/-- The segment over a part of a lane. -/
def laneStretch (laneId : String) (lane : LaneSegment α) (points : Polyline α) (lengthM : α) :
    RouteSegment α :=
  ⟨laneId, .lane, .follow, points, lane.speedLimitMps, lengthM, none⟩

/-- The segment over a connector. -/
def connectorSegment (connectorId : String) (connector : Connector α) : RouteSegment α :=
  ⟨connectorId, .connector, connector.maneuver, connector.centerline, connector.speedLimitMps,
    connector.lengthM, connector.radiusM⟩

namespace LaneMap

/-! ### The planner -/

/-- The length of a lane, and its successors as arcs to the lanes behind them. -/
def outgoing (map : LaneMap α) (laneId : String) :
    Except PyError (α × List (Arc String String α)) := do
  let lane ← map.lane laneId
  let arcs ← lane.successors.mapM fun connectorId => do
    let connector ← map.connector connectorId
    pure (⟨connector.successor, connectorId, connector.lengthM⟩ : Arc String String α)
  pure (lane.lengthM, arcs)

/-- The arcs of a lane, for the bound on the rounds of the search. -/
def arcsOf (map : LaneMap α) (laneId : String) : List (Arc String String α) :=
  match map.outgoing laneId with
  | .ok (_, arcs) => arcs
  | .error _ => []

/-- A bound on the rounds of the queue: one for every arc that can be pushed. -/
def searchRounds (map : LaneMap α) (startLaneId : String) : ℕ :=
  (map.arcsOf startLaneId).length + ∑ laneId ∈ map.laneIds, (map.arcsOf laneId).length

/-- The segment over a lane of the chain: the destination lane ends at the destination. -/
def legStretch (destS : α) (atEnd : Bool) (laneId : String) (lane : LaneSegment α) :
    Except PyError (RouteSegment α) :=
  if atEnd then do
    let points ← trim lane.centerline 0 destS
    pure (laneStretch laneId lane points destS)
  else pure (laneStretch laneId lane lane.centerline lane.lengthM)

/-- The segments behind the start lane: a connector and a lane for each leg of the chain. The leg
equal to the last one of the chain ends at the destination. -/
def legSegments (map : LaneMap α) (destS : α) (last : Option (String × String)) :
    List (String × String) → Except PyError (List (RouteSegment α))
  | [] => .ok []
  | leg :: rest => do
    let connector ← map.connector leg.2
    let lane ← map.lane leg.1
    let stretch ← legStretch destS (some leg = last) leg.1 lane
    let others ← map.legSegments destS last rest
    pure (connectorSegment leg.2 connector :: stretch :: others)

/-- `_reconstruct`. -/
def reconstruct (map : LaneMap α) (startId : String) (startS : α) (destId : String) (destS : α)
    (prev : String → Option (String × String)) (total : α) : Except PyError (Route α) := do
  let chain ← walkBack .unfinished .keyError prev startId (map.laneIds.card + 1) destId []
  let start ← map.lane startId
  let points ← trim start.centerline startS start.lengthM
  let others ← map.legSegments destS chain.getLast? chain
  pure ⟨startId, destId,
    laneStretch startId start points (start.lengthM - startS) :: others, total⟩

/-- `RoutePlanner.plan`. -/
def plan (map : LaneMap α) (startLaneId : String) (startS : α) (destLaneId : String)
    (destS : α) : Except PyError (Route α) :=
  match map.lanes.get? startLaneId, map.lanes.get? destLaneId with
  | some start, some _ =>
    if startLaneId = destLaneId ∧ startS - tolerance ≤ destS then do
      let points ← trim start.centerline startS destS
      pure ⟨startLaneId, destLaneId, [laneStretch startLaneId start points (destS - startS)],
        max 0 (destS - startS)⟩
    else do
      let (_, arcs) ← map.outgoing startLaneId
      let seeded := arcs.foldl (relax startLaneId (start.lengthM - startS)) State.initial
      match ← search .unfinished map.outgoing destLaneId (map.searchRounds startLaneId) seeded with
      | none => .error (.routeError s!"경로 없음: {startLaneId} → {destLaneId} (맵 강연결 위반?)")
      | some (cost, final) =>
        map.reconstruct startLaneId startS destLaneId destS final.prev (cost + destS)
  | _, _ => .error (.routeError s!"알 수 없는 차선: {startLaneId} → {destLaneId}")

/-! ### Routes and drives -/

/-- The segments of a route from the end of a lane on: a successor of the lane, then either the
destination lane up to the destination, or a whole lane and what continues it. -/
inductive Continues (map : LaneMap α) (destId : String) (destS : α) :
    String → List (RouteSegment α) → Prop
  | arrive {laneId connectorId : String} {connector : Connector α} {dest : LaneSegment α}
    {points : Polyline α} (leads : map.Leads laneId connectorId destId)
    (foundConnector : map.connectors.get? connectorId = some connector)
    (foundLane : map.lanes.get? destId = some dest)
    (cut : trim dest.centerline 0 destS = .ok points) :
    Continues map destId destS laneId
      [connectorSegment connectorId connector, laneStretch destId dest points destS]
  | pass {laneId connectorId nextId : String} {connector : Connector α} {next : LaneSegment α}
    {segments : List (RouteSegment α)} (leads : map.Leads laneId connectorId nextId)
    (foundConnector : map.connectors.get? connectorId = some connector)
    (foundLane : map.lanes.get? nextId = some next)
    (rest : Continues map destId destS nextId segments) :
    Continues map destId destS laneId (connectorSegment connectorId connector ::
      laneStretch nextId next next.centerline next.lengthM :: segments)

/-- The segments of a route: one stretch of the start lane when the destination lies ahead on it,
and otherwise the rest of the start lane and what continues it. -/
inductive Travels (map : LaneMap α) (startId : String) (startS : α) (destId : String) (destS : α) :
    List (RouteSegment α) → Prop
  | stay {start : LaneSegment α} {points : Polyline α} (same : startId = destId)
    (found : map.lanes.get? startId = some start)
    (cut : trim start.centerline startS destS = .ok points) :
    Travels map startId startS destId destS [laneStretch startId start points (destS - startS)]
  | leave {start : LaneSegment α} {points : Polyline α} {segments : List (RouteSegment α)}
    (found : map.lanes.get? startId = some start)
    (cut : trim start.centerline startS start.lengthM = .ok points)
    (rest : Continues map destId destS startId segments) :
    Travels map startId startS destId destS
      (laneStretch startId start points (start.lengthM - startS) :: segments)

/-- The lengths of the legal drives from a place on the start lane to the beginning of a lane. -/
inductive Entering (map : LaneMap α) (startId : String) (startS : α) : String → α → Prop
  | leave {start : LaneSegment α} {connectorId : String} {connector : Connector α}
    (found : map.lanes.get? startId = some start) (successor : connectorId ∈ start.successors)
    (foundConnector : map.connectors.get? connectorId = some connector) :
    Entering map startId startS connector.successor
      ((start.lengthM - startS) + connector.lengthM)
  | pass {laneId connectorId : String} {lane : LaneSegment α} {connector : Connector α} {length : α}
    (before : Entering map startId startS laneId length)
    (found : map.lanes.get? laneId = some lane) (successor : connectorId ∈ lane.successors)
    (foundConnector : map.connectors.get? connectorId = some connector) :
    Entering map startId startS connector.successor (length + lane.lengthM + connector.lengthM)

/-- The lengths of the legal drives between two places: the stretch between them when the second
lies ahead on the same lane, and every drive through successors. -/
inductive LegalDrive (map : LaneMap α) (startId : String) (startS : α) (destId : String)
    (destS : α) : α → Prop
  | direct (same : startId = destId) (ahead : startS ≤ destS) :
    LegalDrive map startId startS destId destS (destS - startS)
  | around {length : α} (entering : Entering map startId startS destId length) :
    LegalDrive map startId startS destId destS (length + destS)

end LaneMap

/-! ### The lane graph as a network -/

namespace ValidLaneMap

variable (map : ValidLaneMap α)

/-- The length of a lane of the map. -/
def weightOf (laneId : String) : α :=
  match map.outgoing laneId with
  | .ok (weight, _) => weight
  | .error _ => 0

theorem outgoing_spec {laneId : String} {lane : LaneSegment α}
    (found : map.lanes.get? laneId = some lane) :
    map.outgoing laneId = .ok (lane.lengthM, map.arcsOf laneId) ∧
      ∀ arc, arc ∈ map.arcsOf laneId ↔ ∃ connector, arc.label ∈ lane.successors ∧
        map.connectors.get? arc.label = some connector ∧ arc.target = connector.successor ∧
          arc.cost = connector.lengthM := by
  have all : ∃ arcs, (lane.successors.mapM fun connectorId => do
      let connector ← map.connector connectorId
      pure (⟨connector.successor, connectorId, connector.lengthM⟩ : Arc String String α)) =
        .ok arcs := by
    refine exists_mapM fun connectorId member => ?_
    obtain ⟨connector, found⟩ := map.exists_connector found member
    rw [LaneMap.connector, found]
    exact ⟨_, rfl⟩
  obtain ⟨arcs, done⟩ := all
  have run : map.outgoing laneId = .ok (lane.lengthM, arcs) := by
    rw [LaneMap.outgoing, LaneMap.lane, found]
    exact bind_eq_ok.mpr ⟨lane, rfl, bind_eq_ok.mpr ⟨arcs, done, rfl⟩⟩
  have listed : map.arcsOf laneId = arcs := by
    rw [LaneMap.arcsOf, run]
  refine ⟨listed ▸ run, fun arc => ?_⟩
  rw [listed, mem_mapM done arc]
  constructor
  · rintro ⟨connectorId, member, built⟩
    obtain ⟨connector, foundConnector, same⟩ := bind_eq_ok.mp built
    cases same
    rw [LaneMap.connector] at foundConnector
    split at foundConnector
    · cases foundConnector
      exact ⟨connector, member, by assumption, rfl, rfl⟩
    · cases foundConnector
  · rintro ⟨connector, member, foundConnector, target, cost⟩
    refine ⟨arc.label, member, bind_eq_ok.mpr ⟨connector, ?_, ?_⟩⟩
    · rw [LaneMap.connector, foundConnector]
    · rw [← target, ← cost]
      rfl

theorem weightOf_eq {laneId : String} {lane : LaneSegment α}
    (found : map.lanes.get? laneId = some lane) : map.weightOf laneId = lane.lengthM := by
  rw [weightOf, (map.outgoing_spec found).1]

/-- An arc of a lane is one of its connectors, and leads into a lane. -/
theorem exists_leg {laneId : String} (inside : laneId ∈ map.laneIds) {arc : Arc String String α}
    (member : arc ∈ map.arcsOf laneId) :
    ∃ connector next, map.Leads laneId arc.label arc.target ∧
      map.connectors.get? arc.label = some connector ∧ map.lanes.get? arc.target = some next ∧
      arc.cost = connector.lengthM := by
  obtain ⟨lane, found⟩ := (map.mem_laneIds laneId).mp inside
  obtain ⟨connector, successor, foundConnector, target, length⟩ :=
    ((map.outgoing_spec found).2 arc).mp member
  obtain ⟨next, foundNext⟩ := map.exists_successor foundConnector
  rw [← target] at foundNext
  exact ⟨connector, next, ⟨lane, connector, found, successor, foundConnector, target.symm⟩,
    foundConnector, foundNext, length⟩

/-- The lanes and successors of a loaded map are a network for the search. -/
theorem network [LawfulHypot α] :
    Network map.weightOf map.arcsOf map.outgoing map.laneIds := by
  constructor
  · intro laneId inside
    obtain ⟨lane, found⟩ := (map.mem_laneIds laneId).mp inside
    rw [(map.outgoing_spec found).1, map.weightOf_eq found]
  · intro laneId inside arc member
    obtain ⟨_, next, _, _, foundNext, _⟩ := map.exists_leg inside member
    exact (map.mem_laneIds _).mpr ⟨next, foundNext⟩
  · intro laneId inside
    obtain ⟨lane, found⟩ := (map.mem_laneIds laneId).mp inside
    rw [map.weightOf_eq found]
    exact map.length_pos found
  · intro laneId inside arc member
    obtain ⟨_, _, _, _, _, cost⟩ := map.exists_leg inside member
    rw [cost]
    exact polylineLength_nonneg _

/-- A successor of a lane is an arc of the network. -/
theorem exists_arc {laneId connectorId : String} {lane : LaneSegment α} {connector : Connector α}
    (found : map.lanes.get? laneId = some lane) (successor : connectorId ∈ lane.successors)
    (foundConnector : map.connectors.get? connectorId = some connector) :
    (⟨connector.successor, connectorId, connector.lengthM⟩ : Arc String String α) ∈
      map.arcsOf laneId :=
  ((map.outgoing_spec found).2 _).mpr ⟨connector, successor, foundConnector, rfl, rfl⟩

/-- Every legal drive to the beginning of a lane is a way of the network. -/
theorem way_of_entering {startId : String} {startS : α} {start : LaneSegment α}
    (found : map.lanes.get? startId = some start) {laneId : String} {length : α}
    (entering : map.Entering startId startS laneId length) :
    ∃ legs, Way map.weightOf map.arcsOf startId (start.lengthM - startS) legs laneId length := by
  induction entering with
  | leave found' successor foundConnector =>
    rw [found] at found'
    cases found'
    exact ⟨_, Way.leave (map.exists_arc found successor foundConnector)⟩
  | pass _ foundLane successor foundConnector inductionHypothesis =>
    obtain ⟨legs, way⟩ := inductionHypothesis
    have longer := way.extend (map.exists_arc foundLane successor foundConnector)
    rw [map.weightOf_eq foundLane] at longer
    exact ⟨_, longer⟩

/-- Some way leads from every lane into every lane, itself included. -/
theorem exists_way {startId destId : String} (first : startId ∈ map.laneIds)
    (second : destId ∈ map.laneIds) (remain : α) :
    ∃ legs length, Way map.weightOf map.arcsOf startId remain legs destId length := by
  obtain ⟨start, found⟩ := (map.mem_laneIds startId).mp first
  rcases successors : start.successors with _ | ⟨connectorId, others⟩
  · exact absurd successors (map.successors_ne_nil found)
  have member : connectorId ∈ start.successors := successors ▸ List.mem_cons_self
  obtain ⟨connector, foundConnector⟩ := map.exists_connector found member
  have path := map.connected
    ((map.mem_laneIds _).mpr (map.exists_successor foundConnector)) second
  induction path with
  | refl => exact ⟨_, _, Way.leave (map.exists_arc found member foundConnector)⟩
  | tail _ adjacent inductionHypothesis =>
    obtain ⟨legs, length, way⟩ := inductionHypothesis (map.adjacent_inside adjacent).1
    obtain ⟨_, lane, next, foundLane, successor, foundNext, rfl⟩ := adjacent
    exact ⟨_, _, way.extend (map.exists_arc foundLane successor foundNext)⟩

/-! ### Planned routes -/

/-- The segments of one leg and of the others. -/
theorem legSegments_cons {map : LaneMap α} {destS : α} {last : Option (String × String)}
    {leg : String × String} {rest : List (String × String)} {connector : Connector α}
    {lane : LaneSegment α} {stretch : RouteSegment α} {others : List (RouteSegment α)}
    (foundConnector : map.connectors.get? leg.2 = some connector)
    (foundLane : map.lanes.get? leg.1 = some lane)
    (cut : LaneMap.legStretch destS (some leg = last) leg.1 lane = .ok stretch)
    (onward : map.legSegments destS last rest = .ok others) :
    map.legSegments destS last (leg :: rest) =
      .ok (connectorSegment leg.2 connector :: stretch :: others) := by
  rw [LaneMap.legSegments, LaneMap.connector, foundConnector, LaneMap.lane, foundLane]
  exact bind_eq_ok.mpr ⟨_, rfl, bind_eq_ok.mpr ⟨_, rfl, bind_eq_ok.mpr ⟨_, cut,
    bind_eq_ok.mpr ⟨others, onward, rfl⟩⟩⟩⟩

/-- The segments built from a way that enters the destination once: they continue the lane the way
leaves, and are as long as the way and the stretch of the destination lane. -/
theorem legSegments_spec {destS : α} (nonneg : 0 ≤ destS) {source destId label : String}
    {base cost : α} {legs inner : List (String × String)}
    (way : Way map.weightOf map.arcsOf source base legs destId cost)
    (inside : source ∈ map.laneIds) (ends : legs = inner ++ [(destId, label)])
    (once : ∀ leg ∈ inner, leg.1 ≠ destId) :
    ∃ segments, map.legSegments destS (some (destId, label)) legs = .ok segments ∧
      map.Continues destId destS source segments ∧
      (segments.map RouteSegment.lengthM).sum = cost - base + destS := by
  induction way generalizing inner with
  | @leave source base arc member =>
    obtain ⟨connector, dest, leads, foundConnector, foundDest, length⟩ :=
      map.exists_leg inside member
    obtain ⟨points, cut⟩ := exists_trim dest.centerline nonneg
    have single : inner = [] ∧ arc.label = label := by
      cases inner with
      | nil => cases ends; exact ⟨rfl, rfl⟩
      | cons head rest => cases rest <;> cases ends
    have stretch : LaneMap.legStretch destS (some (arc.target, arc.label) = some (arc.target,
        label)) arc.target dest = .ok (laneStretch arc.target dest points destS) := by
      rw [LaneMap.legStretch, single.2, decide_eq_true rfl, if_pos rfl, cut]
      rfl
    refine ⟨_, legSegments_cons foundConnector foundDest stretch rfl,
      LaneMap.Continues.arrive leads foundConnector foundDest cut, ?_⟩
    simp only [List.map_cons, List.map_nil, List.sum_cons, List.sum_nil, connectorSegment,
      laneStretch, length]
    ring
  | @pass source base arc legs vertex cost member ahead inductionHypothesis =>
    obtain ⟨connector, next, leads, foundConnector, foundNext, length⟩ :=
      map.exists_leg inside member
    cases inner with
    | nil =>
      rw [List.nil_append] at ends
      exact absurd (List.cons.inj ends).2 ahead.legs_ne_nil
    | cons head rest =>
      obtain ⟨same, tail⟩ := List.cons.inj ends
      have notLast : arc.target ≠ vertex := by
        have notHead := once head List.mem_cons_self
        rwa [← same] at notHead
      obtain ⟨segments, run, continues, sum⟩ := inductionHypothesis
        ((map.mem_laneIds _).mpr ⟨next, foundNext⟩) tail
        fun leg inRest => once leg (List.mem_cons_of_mem _ inRest)
      have different : ¬ some (arc.target, arc.label) = some (vertex, label) :=
        fun equal => notLast (Prod.mk.inj (Option.some.inj equal)).1
      have stretch : LaneMap.legStretch destS (some (arc.target, arc.label) = some (vertex,
          label)) arc.target next =
            .ok (laneStretch arc.target next next.centerline next.lengthM) := by
        rw [LaneMap.legStretch, decide_eq_false different, if_neg Bool.false_ne_true]
        rfl
      refine ⟨_, legSegments_cons foundConnector foundNext stretch run,
        LaneMap.Continues.pass leads foundConnector foundNext continues, ?_⟩
      simp only [List.map_cons, List.sum_cons, sum, connectorSegment, laneStretch, length,
        map.weightOf_eq foundNext]
      ring

/-- Wherever on its lane the drive starts, the search ends in a cheapest way, and the back pointers
rebuild it; it enters the destination once. -/
theorem search_chain [LawfulHypot α] {startId destId : String} {start dest : LaneSegment α}
    (foundStart : map.lanes.get? startId = some start)
    (foundDest : map.lanes.get? destId = some dest) (remain : α) :
    ∃ cost final inner label,
      search PyError.unfinished map.outgoing destId (map.searchRounds startId)
        ((map.arcsOf startId).foldl (relax startId remain) State.initial) =
          .ok (some (cost, final)) ∧
      walkBack PyError.unfinished PyError.keyError final.prev startId (map.laneIds.card + 1) destId
        [] = .ok (inner ++ [(destId, label)]) ∧
      Way map.weightOf map.arcsOf startId remain (inner ++ [(destId, label)]) destId cost ∧
      (∀ leg ∈ inner, leg.1 ≠ destId) ∧
      ∀ legs cost', Way map.weightOf map.arcsOf startId remain legs destId cost' → cost ≤ cost' := by
  have first : startId ∈ map.laneIds := (map.mem_laneIds startId).mpr ⟨start, foundStart⟩
  have second : destId ∈ map.laneIds := (map.mem_laneIds destId).mpr ⟨dest, foundDest⟩
  have weight := map.weightOf_eq foundStart
  -- The search is known from the beginning of the lane on; from elsewhere its costs are shifted.
  have searching := Searching.seed destId map.network first (map.length_pos foundStart).le
  have size := foldl_relax_heap_length startId start.lengthM (map.arcsOf startId) State.initial
  obtain ⟨cost, final, run, invariant, found, cheapest⟩ := search_spec
    PyError.unfinished map.network first weight.ge
    (map.exists_way first second _) (map.searchRounds startId) searching (by
      rw [roundsLeft, LaneMap.searchRounds, foldl_relax_settled]
      refine Nat.add_le_add ?_ (le_of_eq ?_)
      · exact size.trans (le_of_eq (Nat.zero_add _))
      · rw [show (State.initial : State String String α).settled = ∅ from rfl, Finset.sdiff_empty])
  have settledInside : cheaper final cost ⊆ map.laneIds := by
    intro laneId member
    obtain ⟨known, recorded⟩ := invariant.known laneId (Finset.mem_filter.mp member).1
    exact invariant.inside laneId known recorded
  obtain ⟨inner, label, back, way, below⟩ := walkBack_spec PyError.unfinished
    PyError.keyError map.network invariant (map.laneIds.card + 1) found
    (Nat.lt_succ_of_le (Finset.card_le_card settledInside)) []
  have offset : start.lengthM + (remain - start.lengthM) = remain := add_sub_cancel ..
  refine ⟨cost + (remain - start.lengthM), final.shift (remain - start.lengthM), inner, label, ?_,
    back, ?_, ?_, ?_⟩
  · have shifted := foldl_relax_shift (remain - start.lengthM) startId start.lengthM
      (map.arcsOf startId) State.initial
    rw [offset, State.initial_shift] at shifted
    rw [shifted, search_shift, run]
    rfl
  · have moved := way.shift (remain - start.lengthM)
    rwa [offset] at moved
  · intro leg member same
    obtain ⟨best, less, recorded⟩ := below leg member
    rw [same, found] at recorded
    cases recorded
    exact lt_irrefl _ less
  · intro legs cost' other
    have back' := other.shift (start.lengthM - remain)
    rw [add_sub_cancel] at back'
    have least := cheapest legs _ back'
    linarith only [least]

/-- Planning across lanes, once the search has ended and the chain is walked back. -/
theorem plan_away {startId destId : String} {startS destS : α} {start dest : LaneSegment α}
    (foundStart : map.lanes.get? startId = some start)
    (foundDest : map.lanes.get? destId = some dest)
    (away : ¬ (startId = destId ∧ startS - tolerance ≤ destS)) {cost : α}
    {final : State String String α} {chain : List (String × String)}
    (run : search PyError.unfinished map.outgoing destId (map.searchRounds startId)
      ((map.arcsOf startId).foldl (relax startId (start.lengthM - startS)) State.initial) =
        .ok (some (cost, final)))
    (back : walkBack PyError.unfinished PyError.keyError final.prev startId
      (map.laneIds.card + 1) destId [] = .ok chain) :
    map.plan startId startS destId destS = (do
      let points ← trim start.centerline startS start.lengthM
      let others ← map.legSegments destS chain.getLast? chain
      pure ⟨startId, destId, laneStretch startId start points (start.lengthM - startS) :: others,
        cost + destS⟩) := by
  rw [LaneMap.plan, foundStart, foundDest]
  dsimp only
  rw [if_neg away, (map.outgoing_spec foundStart).1, bind_ok, run, bind_ok]
  dsimp only
  rw [LaneMap.reconstruct, back, bind_ok, LaneMap.lane, foundStart]
  rfl

/-- Planning across lanes: the search ends in a cheapest way, and the back pointers rebuild it. -/
theorem plan_around [LawfulHypot α] {startId destId : String} {startS destS : α}
    {start dest : LaneSegment α} (foundStart : map.lanes.get? startId = some start)
    (foundDest : map.lanes.get? destId = some dest) (startInside : startS ≤ start.lengthM)
    (destNonneg : 0 ≤ destS)
    (away : ¬ (startId = destId ∧ startS - tolerance ≤ destS)) :
    ∃ route, map.plan startId startS destId destS = .ok route ∧
      map.Travels startId startS destId destS route.segments ∧
      route.startLaneId = startId ∧ route.destinationLaneId = destId ∧
      route.totalLengthM = (route.segments.map RouteSegment.lengthM).sum ∧
      ∀ length, map.Entering startId startS destId length → route.totalLengthM ≤ length + destS := by
  have first : startId ∈ map.laneIds := (map.mem_laneIds startId).mpr ⟨start, foundStart⟩
  obtain ⟨cost, final, inner, label, run, back, way, once, cheapest⟩ :=
    map.search_chain foundStart foundDest (start.lengthM - startS)
  obtain ⟨segments, built, continues, sum⟩ :=
    map.legSegments_spec destNonneg way first rfl once
  obtain ⟨points, cut⟩ := exists_trim start.centerline startInside
  refine ⟨⟨startId, destId,
    laneStretch startId start points (start.lengthM - startS) :: segments, cost + destS⟩,
    ?_, ?_, rfl, rfl, ?_, ?_⟩
  · rw [map.plan_away foundStart foundDest away run back]
    refine bind_eq_ok.mpr ⟨points, cut, ?_⟩
    rw [List.getLast?_append, List.getLast?_singleton]
    exact bind_eq_ok.mpr ⟨segments, built, rfl⟩
  · exact LaneMap.Travels.leave foundStart cut continues
  · simp only [List.map_cons, List.sum_cons, sum, laneStretch]
    ring
  · intro length entering
    obtain ⟨legs, other⟩ := map.way_of_entering foundStart entering
    exact add_le_add_left (cheapest legs length other) destS

/-- Planning on one lane towards a place ahead. -/
theorem plan_direct {startId : String} {startS destS : α} {start : LaneSegment α}
    (found : map.lanes.get? startId = some start) (ahead : startS ≤ destS) :
    ∃ route, map.plan startId startS startId destS = .ok route ∧
      map.Travels startId startS startId destS route.segments ∧
      route.startLaneId = startId ∧ route.destinationLaneId = startId ∧
      route.totalLengthM = (route.segments.map RouteSegment.lengthM).sum ∧
      route.totalLengthM = destS - startS := by
  have small : (0 : α) < tolerance := by unfold tolerance; positivity
  obtain ⟨points, cut⟩ := exists_trim start.centerline ahead
  have total : max 0 (destS - startS) = destS - startS := max_eq_right (sub_nonneg.mpr ahead)
  refine ⟨⟨startId, startId, [laneStretch startId start points (destS - startS)],
    max 0 (destS - startS)⟩, ?_, LaneMap.Travels.stay rfl found cut, rfl, rfl, ?_, total⟩
  · rw [LaneMap.plan, found]
    dsimp only
    rw [if_pos ⟨rfl, by linarith⟩, cut]
    rfl
  · rw [total, List.map_singleton, List.sum_singleton]
    rfl

/-- A drive around cannot be shorter than the stretch ahead. -/
theorem direct_le_entering [LawfulHypot α] {startId destId : String} {startS length : α}
    {start : LaneSegment α} (found : map.lanes.get? startId = some start)
    (startNonneg : 0 ≤ startS) (startInside : startS ≤ start.lengthM)
    (entering : map.Entering startId startS destId length) (destS : α) :
    destS - startS ≤ length + destS := by
  obtain ⟨_, way⟩ := map.way_of_entering found entering
  have longer := way.base_le map.network ((map.mem_laneIds startId).mpr ⟨start, found⟩)
  linarith

end ValidLaneMap

/-- Planning between any two places of a loaded map ends in a route that follows successors only,
has the total of its segments, and is not longer than any legal drive. -/
theorem plan_returns_shortest_route [LawfulHypot α] {data : PyValue α} {map : ValidLaneMap α}
    (_accepted : LaneMap.fromDict data = .ok map) {startId destId : String} {startS destS : α}
    {start dest : LaneSegment α} (foundStart : map.lanes.get? startId = some start)
    (foundDest : map.lanes.get? destId = some dest) (startNonneg : 0 ≤ startS)
    (startInside : startS ≤ start.lengthM) (destNonneg : 0 ≤ destS)
    (_destInside : destS ≤ dest.lengthM)
    (outsideTolerance : ¬ (startId = destId ∧ startS - tolerance ≤ destS ∧ destS < startS)) :
    ∃ route, map.plan startId startS destId destS = .ok route ∧
      route.startLaneId = startId ∧ route.destinationLaneId = destId ∧
      map.Travels startId startS destId destS route.segments ∧
      route.totalLengthM = (route.segments.map RouteSegment.lengthM).sum ∧
      ∀ length, map.LegalDrive startId startS destId destS length →
        route.totalLengthM ≤ length := by
  by_cases direct : startId = destId ∧ startS - tolerance ≤ destS
  · obtain ⟨rfl, near⟩ := direct
    have ahead : startS ≤ destS := not_lt.mp fun behind => outsideTolerance ⟨rfl, near, behind⟩
    obtain ⟨route, planned, travels, first, last, total, length⟩ :=
      map.plan_direct foundStart ahead
    refine ⟨route, planned, first, last, travels, total, fun other drive => ?_⟩
    rw [length]
    cases drive with
    | direct => exact le_refl _
    | around entering =>
      exact map.direct_le_entering foundStart startNonneg startInside entering destS
  · obtain ⟨route, planned, travels, first, last, total, cheapest⟩ :=
      map.plan_around foundStart foundDest startInside destNonneg direct
    refine ⟨route, planned, first, last, travels, total, fun other drive => ?_⟩
    cases drive with
    | direct same ahead =>
      have small : (0 : α) < tolerance := by unfold tolerance; positivity
      exact absurd ⟨same, by linarith⟩ direct
    | around entering => exact cheapest _ entering

/-- On the ring the planner drives the full lap to a place behind. -/
theorem plan_returns_shortest_route_ring : ∃ map : ValidLaneMap ℚ,
    LaneMap.fromDict ringMapData = .ok map ∧
      ∃ route, map.plan "east" (3 / 4) "east" (1 / 4) = .ok route ∧
        route.startLaneId = "east" ∧ route.destinationLaneId = "east" ∧
        map.Travels "east" (3 / 4) "east" (1 / 4) route.segments ∧
        route.totalLengthM = (route.segments.map RouteSegment.lengthM).sum ∧
        ∀ length, map.LegalDrive "east" (3 / 4) "east" (1 / 4) length →
          route.totalLengthM ≤ length := by
  obtain ⟨map, loaded, lane, found, length⟩ := ringMap_loads
  refine ⟨map, loaded, plan_returns_shortest_route loaded found found (by norm_num) ?_
    (by norm_num) ?_ ?_⟩
  · rw [length]
    norm_num
  · rw [length]
    norm_num
  · rintro ⟨_, near, _⟩
    unfold tolerance at near
    norm_num at near

end RcTaxi

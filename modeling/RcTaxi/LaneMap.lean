/-
This file models `mapping/lane_map.py`: the lane graph, its loader and the checks the
loader makes. A lane lists the connectors it may be left by, and a connector leads
into one lane. The loader refuses a map with a dangling reference, a break between a
lane and a connector, a lane that does not run along its heading, or a pair of lanes
of which one cannot be reached from the other.

The texts of the errors are the program's, without the offending value the program
prints behind some of them. A number the geometry does not use may be `nan` or an
infinity: the loader refuses those in coordinates only.
-/

import RcTaxi.Dict
import RcTaxi.Exploration
import RcTaxi.Geometry

namespace RcTaxi

/-- What a connector does at a junction. -/
inductive Maneuver
  | straight
  | left
  | right
  | follow
  | laneChange
  deriving DecidableEq, Repr

structure LaneSegment (α : Type) where
  id : String
  widthM : PyFloat α
  centerline : Polyline α
  headingHintDeg : PyFloat α
  speedLimitMps : PyFloat α
  destinationAllowed : Bool
  circuit : String
  successors : List String

structure Connector (α : Type) where
  id : String
  maneuver : Maneuver
  centerline : Polyline α
  speedLimitMps : PyFloat α
  successor : String
  radiusM : Option (PyFloat α)

structure CurbEdge (α : Type) where
  segment : Point (PyFloat α) × Point (PyFloat α)
  adjacentDestinationLanes : List String

structure Block (α : Type) where
  id : String
  polygon : List (Point (PyFloat α))
  curbEdges : Dict String (CurbEdge α)

structure StopLineZone (α : Type) where
  id : String
  approachLaneId : String
  expectedCenter : Point (PyFloat α)
  activationDistanceM : PyFloat α

/-- The lane graph as it is built, before any check. -/
structure LaneMap (α : Type) where
  lanes : Dict String (LaneSegment α)
  connectors : Dict String (Connector α)
  blocks : Dict String (Block α)
  stopLineZones : Dict String (StopLineZone α)
  widthM : α
  heightM : α

variable {α : Type} [Scalar α]

/-- The length the loader computes for a lane. -/
def LaneSegment.lengthM (lane : LaneSegment α) : α := polylineLength lane.centerline

/-- The length the loader computes for a connector. -/
def Connector.lengthM (connector : Connector α) : α := polylineLength connector.centerline

/-- The tolerance at the joints of lanes and connectors. -/
def continuityTol : α := 5 / 1000

namespace LaneMap

/-! ### The graph -/

/-- `self.lanes[lane_id]`. -/
def lane (map : LaneMap α) (laneId : String) : Except PyError (LaneSegment α) :=
  match map.lanes.get? laneId with
  | some lane => .ok lane
  | none => .error (.keyError laneId)

/-- `self.connectors[connector_id]`. -/
def connector (map : LaneMap α) (connectorId : String) : Except PyError (Connector α) :=
  match map.connectors.get? connectorId with
  | some connector => .ok connector
  | none => .error (.keyError connectorId)

/-- `successors_of`: a lane leads to connectors and a connector to one lane. -/
def successorsOf (map : LaneMap α) (segmentId : String) : Except PyError (List String) :=
  match map.lanes.get? segmentId, map.connectors.get? segmentId with
  | some lane, _ => .ok lane.successors
  | none, some connector => .ok [connector.successor]
  | none, none => .error (.mapError s!"알 수 없는 세그먼트: {segmentId}")

/-- `entry_lanes_of`: the lanes a connector is entered from. -/
def entryLanesOf (map : LaneMap α) (connectorId : String) : Finset String :=
  if map.connectors.contains connectorId then
    ((map.lanes.items.filter fun item => connectorId ∈ item.2.successors).map Prod.fst).toFinset
  else ∅

/-- `arrival_lane_candidates`: the lanes a car on this segment counts as being on. -/
def arrivalLaneCandidates (map : LaneMap α) (segmentId : String) : Finset String :=
  match map.lanes.get? segmentId, map.connectors.get? segmentId with
  | some _, _ => {segmentId}
  | none, some connector => {connector.successor} ∪ map.entryLanesOf segmentId
  | none, none => ∅

/-- The lanes a lane leads into, through its successors in order. -/
def nextLanes (map : LaneMap α) (laneId : String) : Except PyError (List String) := do
  let lane ← map.lane laneId
  lane.successors.mapM fun connectorId => do
    let connector ← map.connector connectorId
    pure connector.successor

/-- The lanes that lead into a lane: `pred` of the strong-connectivity check. -/
def previousLanes (map : LaneMap α) (laneId : String) : Except PyError (List String) := do
  let _ ← map.lane laneId
  pure ((map.lanes.items.filter fun item => item.2.successors.any fun connectorId =>
    (map.connectors.get? connectorId).any fun connector => connector.successor = laneId).map
      Prod.fst)

/-- The ids of the lanes. -/
def laneIds (map : LaneMap α) : Finset String := map.lanes.keys.toFinset

/-- `reachable_lanes`: the lanes that can be reached from one lane, itself included. -/
def reachableLanes (map : LaneMap α) (fromLaneId : String) : Except PyError (Finset String) :=
  if map.lanes.contains fromLaneId then
    Exploration.explore .unfinished map.nextLanes map.laneIds.card {fromLaneId} [fromLaneId]
  else .error (.mapError s!"알 수 없는 차선: {fromLaneId}")

/-- The backward search of the strong-connectivity check. -/
def returningLanes (map : LaneMap α) (seed : String) : Except PyError (Finset String) :=
  Exploration.explore .unfinished map.previousLanes map.laneIds.card {seed} [seed]

/-! ### Checks -/

/-- The references of one lane. -/
def checkLaneReferences (map : LaneMap α) (item : String × LaneSegment α) :
    Except PyError Unit := do
  require (item.2.successors ≠ [])
    (.mapError s!"{item.1}: successor 없음 — 막다른 차선 (§14.1 위반)")
  checkAll (fun connectorId => require (map.connectors.contains connectorId = true)
    (.mapError s!"{item.1}: 알 수 없는 successor 커넥터 {connectorId}")) item.2.successors

/-- The lanes beside one curb edge. -/
def checkCurb (map : LaneMap α) (blockId : String) (curb : String × CurbEdge α) :
    Except PyError Unit :=
  checkAll (fun laneId =>
    match map.lanes.get? laneId with
    | none => .error (.mapError s!"{blockId}.{curb.1}: 알 수 없는 차선 {laneId}")
    | some lane => require (lane.destinationAllowed = true)
        (.mapError s!"{blockId}.{curb.1}: {laneId}는 정차 금지 차선")) curb.2.adjacentDestinationLanes

def validateReferences (map : LaneMap α) : Except PyError Unit := do
  checkAll map.checkLaneReferences map.lanes.items
  checkAll (fun item => require (map.lanes.contains item.2.successor = true)
    (.mapError s!"{item.1}: 알 수 없는 successor 차선 {item.2.successor}")) map.connectors.items
  checkAll (fun item => checkAll (map.checkCurb item.1) item.2.curbEdges.items) map.blocks.items
  checkAll (fun item => require (map.lanes.contains item.2.approachLaneId = true)
    (.mapError s!"{item.1}: 알 수 없는 접근 차선 {item.2.approachLaneId}")) map.stopLineZones.items

/-- The joints of one lane with its connectors and of these with the lanes behind them. -/
def checkJoints (map : LaneMap α) (item : String × LaneSegment α) : Except PyError Unit :=
  checkAll (fun connectorId => do
    let connector ← map.connector connectorId
    require (segmentLength connector.centerline.first item.2.centerline.last ≤ continuityTol)
      (.mapError s!"{item.1} 끝 ≠ {connectorId} 시작 (불연속)")
    let next ← map.lane connector.successor
    require (segmentLength next.centerline.first connector.centerline.last ≤ continuityTol)
      (.mapError s!"{connectorId} 끝 ≠ {connector.successor} 시작 (불연속)")) item.2.successors

def validateContinuity (map : LaneMap α) : Except PyError Unit :=
  checkAll map.checkJoints map.lanes.items

/-- A lane is not a point, and runs along its heading. A `nan` heading passes, as no comparison
with it holds. -/
def checkHeading (item : String × LaneSegment α) : Except PyError Unit := do
  let first := item.2.centerline.first
  let last := item.2.centerline.last
  let net := segmentLength first last
  require (0 < net) (.mapError s!"{item.1}: 길이 0 차선")
  match item.2.headingHintDeg with
  | .nan => pure ()
  | .inf _ => .error .valueError
  | .finite hint =>
    let h := radians hint
    let dot := ((last.1 - first.1) * cos h + (last.2 - first.2) * sin h) / net
    require (99 / 100 ≤ dot) (.mapError s!"{item.1}: centerline 방향이 heading_hint와 불일치")

def validateHeadings (map : LaneMap α) : Except PyError Unit :=
  checkAll checkHeading map.lanes.items

/-- The circuits are labelled, and every lane can be reached from the first one and back. -/
def validateCircuits (map : LaneMap α) : Except PyError Unit := do
  require ((map.lanes.values.map LaneSegment.circuit).toFinset = {"inner", "outer"})
    (.mapError "circuit 라벨은 inner/outer 이어야 함")
  match map.lanes.keys with
  | [] => .error .indexError
  | seed :: _ =>
    let forward ← map.reachableLanes seed
    require (forward = map.laneIds)
      (.mapError s!"{seed}에서 도달 불가 차선 존재 (lane_change 커넥터 누락?)")
    let backward ← map.returningLanes seed
    require (backward = map.laneIds) (.mapError s!"{seed}로 복귀 불가 차선 존재")

/-- `_validate`. -/
def validate (map : LaneMap α) : Except PyError Unit := do
  require (map.lanes.items ≠ []) (.mapError "차선이 없음")
  map.validateReferences
  map.validateContinuity
  map.validateHeadings
  map.validateCircuits

/-- `validate_turn_radius`: no connector is tighter than the car can turn. -/
def validateTurnRadius (map : LaneMap α) (minRadiusM : α) : Except PyError Unit :=
  checkAll (fun item => match item.2.radiusM with
    | some (.finite radius) => require (minRadiusM ≤ radius)
        (.mapError s!"{item.1}: 반경 < 최소 회전 반경")
    | some (.inf negative) => require (negative = false)
        (.mapError s!"{item.1}: 반경 < 최소 회전 반경")
    | some .nan | none => .ok ()) map.connectors.items

end LaneMap

/-- A lane graph that passed the checks. -/
structure ValidLaneMap (α : Type) [Scalar α] extends LaneMap α where
  validated : toLaneMap.validate = .ok ()

/-! ### What the checks establish -/

/-- A lane leads into another through one of its successors. -/
def LaneMap.Leads (map : LaneMap α) (source connectorId target : String) : Prop :=
  ∃ lane connector, map.lanes.get? source = some lane ∧ connectorId ∈ lane.successors ∧
    map.connectors.get? connectorId = some connector ∧ connector.successor = target

/-- Some successor leads from the first lane into the second. -/
def LaneMap.Adjacent (map : LaneMap α) (source target : String) : Prop :=
  ∃ connectorId, map.Leads source connectorId target

omit [Scalar α] in
theorem LaneMap.mem_laneIds (map : LaneMap α) (laneId : String) :
    laneId ∈ map.laneIds ↔ ∃ lane, map.lanes.get? laneId = some lane := by
  rw [LaneMap.laneIds, List.mem_toFinset]
  exact ⟨Dict.exists_get?_of_mem_keys, fun ⟨_, found⟩ => Dict.mem_keys_of_get? found⟩

namespace LaneMap

/-- The lanes a lane of the map leads into. -/
def neighbours (map : LaneMap α) (laneId : String) : List String :=
  match map.nextLanes laneId with
  | .ok lanes => lanes
  | .error _ => []

/-- The lanes that lead into a lane of the map. -/
def predecessors (map : LaneMap α) (laneId : String) : List String :=
  match map.previousLanes laneId with
  | .ok lanes => lanes
  | .error _ => []

section Predecessors

omit [Scalar α]

variable {map : LaneMap α}

theorem previousLanes_eq {laneId : String} (inside : laneId ∈ map.laneIds) :
    map.previousLanes laneId = .ok (map.predecessors laneId) := by
  obtain ⟨lane, found⟩ := (map.mem_laneIds laneId).mp inside
  rw [predecessors, previousLanes, LaneMap.lane, found]
  rfl

theorem mem_predecessors {laneId : String} (inside : laneId ∈ map.laneIds) (source : String) :
    source ∈ map.predecessors laneId ↔ map.Adjacent source laneId := by
  obtain ⟨lane, found⟩ := (map.mem_laneIds laneId).mp inside
  have listed : map.predecessors laneId =
      (map.lanes.items.filter fun item => item.2.successors.any fun connectorId =>
        (map.connectors.get? connectorId).any fun connector =>
          connector.successor = laneId).map Prod.fst := by
    rw [predecessors, previousLanes, LaneMap.lane, found]
    rfl
  rw [listed, List.mem_map]
  constructor
  · rintro ⟨⟨_, lane'⟩, member, rfl⟩
    obtain ⟨inItems, passes⟩ := List.mem_filter.mp member
    obtain ⟨connectorId, successor, leads⟩ := List.any_eq_true.mp passes
    obtain ⟨connector, foundConnector, same⟩ := (Option.any_eq_true _ _).mp leads
    exact ⟨connectorId, lane', connector, (Dict.get?_eq_some_iff ..).mpr inItems, successor,
      foundConnector, of_decide_eq_true same⟩
  · rintro ⟨connectorId, lane', connector, foundLane, successor, foundConnector, same⟩
    refine ⟨(source, lane'), List.mem_filter.mpr ⟨(Dict.get?_eq_some_iff ..).mp foundLane, ?_⟩, rfl⟩
    refine List.any_eq_true.mpr ⟨connectorId, successor, (Option.any_eq_true _ _).mpr ?_⟩
    exact ⟨connector, foundConnector, decide_eq_true same⟩

end Predecessors

section Referenced

omit [Scalar α]

variable {map : LaneMap α} (references : map.validateReferences = .ok ())

include references

/-- A lane has a successor, and every successor is a connector. -/
theorem successors_ne_nil {laneId : String} {lane : LaneSegment α}
    (found : map.lanes.get? laneId = some lane) : lane.successors ≠ [] := by
  obtain ⟨_, lanes, _⟩ := bind_eq_ok.mp references
  have checked := checkAll_eq_ok.mp lanes _ ((Dict.get?_eq_some_iff ..).mp found)
  obtain ⟨_, nonempty, _⟩ := bind_eq_ok.mp checked
  exact require_eq_ok.mp nonempty

theorem exists_connector {laneId connectorId : String} {lane : LaneSegment α}
    (found : map.lanes.get? laneId = some lane) (member : connectorId ∈ lane.successors) :
    ∃ connector, map.connectors.get? connectorId = some connector := by
  obtain ⟨_, lanes, _⟩ := bind_eq_ok.mp references
  have checked := checkAll_eq_ok.mp lanes _ ((Dict.get?_eq_some_iff ..).mp found)
  obtain ⟨_, _, successors⟩ := bind_eq_ok.mp checked
  exact (Dict.contains_iff ..).mp (require_eq_ok.mp (checkAll_eq_ok.mp successors _ member))

/-- A connector leads into a lane. -/
theorem exists_successor {connectorId : String} {connector : Connector α}
    (found : map.connectors.get? connectorId = some connector) :
    ∃ lane, map.lanes.get? connector.successor = some lane := by
  obtain ⟨_, _, connectors⟩ := bind_eq_ok.mp references
  obtain ⟨_, connectors, _⟩ := bind_eq_ok.mp connectors
  have checked := checkAll_eq_ok.mp connectors _ ((Dict.get?_eq_some_iff ..).mp found)
  exact (Dict.contains_iff ..).mp (require_eq_ok.mp checked)

/-! ### Strong connectivity -/

theorem nextLanes_eq {laneId : String} (inside : laneId ∈ map.laneIds) :
    map.nextLanes laneId = .ok (map.neighbours laneId) := by
  obtain ⟨lane, found⟩ := (map.mem_laneIds laneId).mp inside
  have all : ∃ lanes, map.nextLanes laneId = .ok lanes := by
    rw [nextLanes, LaneMap.lane, found]
    refine exists_mapM fun connectorId member => ?_
    obtain ⟨connector, found⟩ := exists_connector references found member
    rw [LaneMap.connector, found]
    exact ⟨connector.successor, rfl⟩
  obtain ⟨lanes, done⟩ := all
  rw [neighbours, done]

theorem mem_neighbours {laneId : String} (inside : laneId ∈ map.laneIds) (target : String) :
    target ∈ map.neighbours laneId ↔ map.Adjacent laneId target := by
  obtain ⟨lane, found⟩ := (map.mem_laneIds laneId).mp inside
  have done := nextLanes_eq references inside
  rw [nextLanes, LaneMap.lane, found] at done
  rw [mem_mapM done target]
  constructor
  · rintro ⟨connectorId, member, led⟩
    obtain ⟨connector, foundConnector⟩ := exists_connector references found member
    rw [LaneMap.connector, foundConnector] at led
    exact ⟨connectorId, lane, connector, found, member, foundConnector, Except.ok.inj led⟩
  · rintro ⟨connectorId, other, connector, same, member, foundConnector, led⟩
    rw [found] at same
    cases same
    refine ⟨connectorId, member, ?_⟩
    rw [LaneMap.connector, foundConnector, ← led]
    rfl

theorem adjacent_inside {source target : String} (adjacent : map.Adjacent source target) :
    source ∈ map.laneIds ∧ target ∈ map.laneIds := by
  obtain ⟨_, lane, connector, foundLane, _, foundConnector, rfl⟩ := adjacent
  exact ⟨(map.mem_laneIds source).mpr ⟨lane, foundLane⟩,
    (map.mem_laneIds _).mpr (exists_successor references foundConnector)⟩

/-- The forward search of the check follows the adjacent lanes. -/
theorem reached_forward {seed laneId : String} (inside : seed ∈ map.laneIds)
    (path : Relation.ReflTransGen (fun first second => second ∈ map.neighbours first) seed laneId) :
    laneId ∈ map.laneIds ∧ Relation.ReflTransGen map.Adjacent seed laneId := by
  induction path with
  | refl => exact ⟨inside, Relation.ReflTransGen.refl⟩
  | tail _ edge inductionHypothesis =>
    have adjacent := (mem_neighbours references inductionHypothesis.1 _).mp edge
    exact ⟨(adjacent_inside references adjacent).2, inductionHypothesis.2.tail adjacent⟩

/-- The backward search of the check follows them the other way. -/
theorem reached_backward {seed laneId : String} (inside : seed ∈ map.laneIds)
    (path : Relation.ReflTransGen (fun first second => second ∈ map.predecessors first)
      seed laneId) :
    laneId ∈ map.laneIds ∧ Relation.ReflTransGen map.Adjacent laneId seed := by
  induction path with
  | refl => exact ⟨inside, Relation.ReflTransGen.refl⟩
  | tail _ edge inductionHypothesis =>
    have adjacent := (mem_predecessors inductionHypothesis.1 _).mp edge
    exact ⟨(adjacent_inside references adjacent).1, inductionHypothesis.2.head adjacent⟩

/-- `reachable_lanes` returns the lanes that can be reached. -/
theorem reachableLanes_spec {laneId : String} (inside : laneId ∈ map.laneIds) :
    ∃ result, map.reachableLanes laneId = .ok result ∧ result ⊆ map.laneIds ∧
      ∀ other, other ∈ result ↔ Relation.ReflTransGen map.Adjacent laneId other := by
  obtain ⟨result, run, within, reached⟩ := Exploration.explore_reachable
    PyError.unfinished (fun _ => nextLanes_eq references)
    (fun _ inside next member =>
      (adjacent_inside references ((mem_neighbours references inside next).mp member)).2)
    laneId inside _ (le_refl _)
  refine ⟨result, ?_, within, fun other => (reached other).trans ⟨fun path =>
    (reached_forward references inside path).2, fun path => ?_⟩⟩
  · rw [reachableLanes, if_pos ((Dict.contains_iff ..).mpr ((map.mem_laneIds laneId).mp inside))]
    exact run
  · exact Relation.ReflTransGen.mono (fun first second adjacent =>
      (mem_neighbours references (adjacent_inside references adjacent).1 second).mpr adjacent)
      _ _ path

/-- The backward search of the check returns the lanes that lead to its seed. -/
theorem returningLanes_spec {seed : String} (inside : seed ∈ map.laneIds) :
    ∃ result, map.returningLanes seed = .ok result ∧ result ⊆ map.laneIds ∧
      ∀ other, other ∈ result ↔ Relation.ReflTransGen map.Adjacent other seed := by
  obtain ⟨result, run, within, returned⟩ := Exploration.explore_reachable
    PyError.unfinished (fun _ => map.previousLanes_eq)
    (fun _ inside next member =>
      (adjacent_inside references ((map.mem_predecessors inside next).mp member)).1)
    seed inside _ (le_refl _)
  refine ⟨result, run, within, fun other => (returned other).trans ⟨fun path =>
    (reached_backward references inside path).2, fun path => ?_⟩⟩
  exact Relation.ReflTransGen.mono (fun first second adjacent =>
    (map.mem_predecessors (adjacent_inside references adjacent).2 second).mpr adjacent)
    _ _ (Relation.reflTransGen_swap.mpr path)

/-- The check accepts the circuits iff they have their labels and every lane can be reached from
every lane. -/
theorem validateCircuits_iff : map.validateCircuits = .ok () ↔
    (map.lanes.values.map LaneSegment.circuit).toFinset = {"inner", "outer"} ∧
      ∀ source ∈ map.laneIds, ∀ target ∈ map.laneIds,
        Relation.ReflTransGen map.Adjacent source target := by
  refine bind_eq_ok.trans ⟨?_, fun ⟨labels, connected⟩ => ⟨(), require_eq_ok.mpr labels, ?_⟩⟩
  · rintro ⟨_, labels, searched⟩
    refine ⟨require_eq_ok.mp labels, fun source first target second => ?_⟩
    cases listed : map.lanes.keys with
    | nil =>
      rw [laneIds, listed] at first
      exact absurd first (Finset.notMem_empty source)
    | cons seed others =>
      have inside : seed ∈ map.laneIds := by
        rw [laneIds, listed]
        exact List.mem_toFinset.mpr List.mem_cons_self
      obtain ⟨forward, run, _, reached⟩ := reachableLanes_spec references inside
      obtain ⟨backward, run', _, returned⟩ := returningLanes_spec references inside
      rw [listed] at searched
      dsimp only at searched
      obtain ⟨_, forwardRun, searched⟩ := bind_eq_ok.mp searched
      obtain ⟨_, forwardAll, searched⟩ := bind_eq_ok.mp searched
      obtain ⟨_, backwardRun, backwardAll⟩ := bind_eq_ok.mp searched
      cases run.symm.trans forwardRun
      cases run'.symm.trans backwardRun
      have forwardAll : forward = map.laneIds := require_eq_ok.mp forwardAll
      have backwardAll : backward = map.laneIds := require_eq_ok.mp backwardAll
      exact ((returned source).mp (backwardAll ▸ first)).trans
        ((reached target).mp (forwardAll ▸ second))
  · cases listed : map.lanes.keys with
    | nil =>
      have none : map.lanes.values = [] := by
        rw [Dict.values, List.map_eq_nil_iff.mp listed]
        rfl
      rw [none] at labels
      exact absurd (Finset.insert_ne_empty _ _) (not_not.mpr labels.symm)
    | cons seed others =>
      have inside : seed ∈ map.laneIds := by
        rw [laneIds, listed]
        exact List.mem_toFinset.mpr List.mem_cons_self
      obtain ⟨forward, run, within, reached⟩ := reachableLanes_spec references inside
      obtain ⟨backward, run', within', returned⟩ := returningLanes_spec references inside
      have forwardAll : forward = map.laneIds := Finset.Subset.antisymm within
        fun target second => (reached target).mpr (connected seed inside target second)
      have backwardAll : backward = map.laneIds := Finset.Subset.antisymm within'
        fun source first => (returned source).mpr (connected source first seed inside)
      exact bind_eq_ok.mpr ⟨forward, run, bind_eq_ok.mpr ⟨(), require_eq_ok.mpr forwardAll,
        bind_eq_ok.mpr ⟨backward, run', require_eq_ok.mpr backwardAll⟩⟩⟩

end Referenced

end LaneMap

namespace ValidLaneMap

variable (map : ValidLaneMap α)

theorem references : map.validateReferences = .ok () := by
  obtain ⟨_, _, validated⟩ := bind_eq_ok.mp map.validated
  exact (bind_eq_ok.mp validated).elim fun _ both => both.1

theorem headings : map.validateHeadings = .ok () := by
  obtain ⟨_, _, validated⟩ := bind_eq_ok.mp map.validated
  obtain ⟨_, _, validated⟩ := bind_eq_ok.mp validated
  obtain ⟨_, _, validated⟩ := bind_eq_ok.mp validated
  exact (bind_eq_ok.mp validated).elim fun _ both => both.1

theorem circuits : map.validateCircuits = .ok () := by
  obtain ⟨_, _, validated⟩ := bind_eq_ok.mp map.validated
  obtain ⟨_, _, validated⟩ := bind_eq_ok.mp validated
  obtain ⟨_, _, validated⟩ := bind_eq_ok.mp validated
  exact (bind_eq_ok.mp validated).elim fun _ both => both.2

/-- A lane has a successor, and every successor is a connector. -/
theorem successors_ne_nil {laneId : String} {lane : LaneSegment α}
    (found : map.lanes.get? laneId = some lane) : lane.successors ≠ [] :=
  LaneMap.successors_ne_nil map.references found

theorem exists_connector {laneId connectorId : String} {lane : LaneSegment α}
    (found : map.lanes.get? laneId = some lane) (member : connectorId ∈ lane.successors) :
    ∃ connector, map.connectors.get? connectorId = some connector :=
  LaneMap.exists_connector map.references found member

/-- A connector leads into a lane. -/
theorem exists_successor {connectorId : String} {connector : Connector α}
    (found : map.connectors.get? connectorId = some connector) :
    ∃ lane, map.lanes.get? connector.successor = some lane :=
  LaneMap.exists_successor map.references found

theorem adjacent_inside {source target : String} (adjacent : map.Adjacent source target) :
    source ∈ map.laneIds ∧ target ∈ map.laneIds :=
  LaneMap.adjacent_inside map.references adjacent

/-- A lane has a positive length. -/
theorem length_pos [LawfulHypot α] {laneId : String} {lane : LaneSegment α}
    (found : map.lanes.get? laneId = some lane) : 0 < lane.lengthM := by
  have checked := checkAll_eq_ok.mp map.headings _ ((Dict.get?_eq_some_iff ..).mp found)
  obtain ⟨_, net, _⟩ := bind_eq_ok.mp checked
  refine polylineLength_pos lane.centerline fun same => ?_
  have positive := require_eq_ok.mp net
  rw [same, segmentLength_self] at positive
  exact lt_irrefl _ positive

/-- Every lane can be reached from every lane. -/
theorem connected {source target : String} (first : source ∈ map.laneIds)
    (second : target ∈ map.laneIds) : Relation.ReflTransGen map.Adjacent source target :=
  ((LaneMap.validateCircuits_iff map.references).mp map.circuits).2 source first target second

end ValidLaneMap

/-! ### Loading -/

/-- `_require(data, key, dict)`: the items of a section. -/
def section' (key : String) (data : PyValue α) : Except PyError (List (String × PyValue α)) :=
  match data.field? key with
  | some (.dict fields) => .ok fields
  | _ => .error (.mapError s!"'{key}' 섹션 없음 또는 형식 오류")

/-- `_num`. -/
def num (raw : PyValue α) (key place : String) (positive : Bool) : Except PyError (PyFloat α) :=
  match raw.field? key with
  | none => .error (.mapError s!"{place}.{key} 없음")
  | some value =>
    match value.toFloat with
    | .error .typeError | .error .valueError => .error (.mapError s!"{place}.{key} 숫자 아님")
    | .error error => .error error
    | .ok (.finite number) =>
      if positive = true ∧ number ≤ 0 then .error (.mapError s!"{place}.{key} 는 양수여야 함")
      else .ok (.finite number)
    | .ok (.inf true) =>
      if positive then .error (.mapError s!"{place}.{key} 는 양수여야 함") else .ok (.inf true)
    | .ok number => .ok number

/-- A coordinate in the range of the map; `nan` and the infinities are outside. -/
def coordinate (limit : α) (place : String) : PyFloat α → Except PyError α
  | .finite value =>
    if 0 ≤ value ∧ value ≤ limit then .ok value
    else .error (.mapError s!"{place}: 맵 범위 밖 좌표 (§2.6)")
  | _ => .error (.mapError s!"{place}: 맵 범위 밖 좌표 (§2.6)")

/-- One point of a centerline. -/
def mapPoint (place : String) (widthM heightM : α) : PyValue α → Except PyError (Point α)
  | .list [first, second] => do
    let x ← first.toFloat
    let y ← second.toFloat
    pure (← coordinate widthM place x, ← coordinate heightM place y)
  | _ => .error (.mapError s!"{place}.centerline 점 형식 오류")

/-- `_points`: a centerline has at least two points. -/
def mapPoints (raw : PyValue α) (place : String) (widthM heightM : α) :
    Except PyError (Polyline α) := do
  match ← raw.getAttr "centerline" with
  | .list (first :: second :: rest) =>
    let head ← mapPoint place widthM heightM first
    let tail ← (second :: rest).mapM (mapPoint place widthM heightM)
    pure ⟨head, tail⟩
  | _ => .error (.mapError s!"{place}.centerline 은 2점 이상")

/-- The ids in a list of references. An object that is not a string is the id of nothing. -/
def references (place : String) (value : PyValue α) : Except PyError (List String) := do
  let items ← (value.orElse (.list [])).iterate
  items.mapM fun item => match item with
    | .str id => .ok id
    | _ => .error (.mapError s!"{place}: 알 수 없는 참조")

def maneuverOf (place : String) (value : PyValue α) : Except PyError Maneuver :=
  if value.equalsStr "straight" then .ok .straight
  else if value.equalsStr "left" then .ok .left
  else if value.equalsStr "right" then .ok .right
  else if value.equalsStr "follow" then .ok .follow
  else if value.equalsStr "lane_change" then .ok .laneChange
  else .error (.mapError s!"{place}.maneuver 불명")

/-- Build a dictionary from the items of a section. -/
def collect {Value : Type} (build : String × PyValue α → Except PyError Value)
    (items : List (String × PyValue α)) : Except PyError (Dict String Value) :=
  items.foldlM (fun dict item => do pure (dict.insert item.1 (← build item))) Dict.empty

def loadLane (widthM heightM : α) (item : String × PyValue α) :
    Except PyError (LaneSegment α) := do
  let (id, raw) := item
  let place := s!"lanes.{id}"
  let centerline ← mapPoints raw place widthM heightM
  pure {
    id := id
    centerline := centerline
    widthM := ← num raw "width_m" place true
    headingHintDeg := ← num raw "heading_hint_deg" place false
    speedLimitMps := ← num raw "speed_limit_mps" place true
    destinationAllowed := (raw.get "destination_allowed").truthy
    circuit := ← (raw.getD "circuit" (.str "")).toStr
    successors := ← references id (raw.get "successors") }

def loadConnector (widthM heightM : α) (item : String × PyValue α) :
    Except PyError (Connector α) := do
  let (id, raw) := item
  let place := s!"connectors.{id}"
  let centerline ← mapPoints raw place widthM heightM
  let maneuver ← maneuverOf place (raw.get "maneuver")
  pure {
    id := id
    maneuver := maneuver
    centerline := centerline
    speedLimitMps := ← num raw "speed_limit_mps" place true
    successor := ← (raw.getD "successor" (.str "")).toStr
    radiusM := ← match raw.get "radius_m" with
      | .none => pure none
      | radius => some <$> radius.toFloat }

/-- `(float(x), float(y)) for x, y in ...`: a point of two numbers. -/
def cornerOf (value : PyValue α) : Except PyError (Point (PyFloat α)) := do
  match ← value.iterate with
  | [first, second] => pure (← first.toFloat, ← second.toFloat)
  | _ => .error .valueError

/-- `(float(p[0]), float(p[1]))`: the first two numbers of a point. -/
def endOf (value : PyValue α) : Except PyError (Point (PyFloat α)) := do
  match ← value.iterate with
  | first :: second :: _ => pure (← first.toFloat, ← second.toFloat)
  | _ => .error .indexError

def loadCurb (blockId : String) (item : String × PyValue α) : Except PyError (CurbEdge α) := do
  let (side, edge) := item
  let _ ← edge.getAttr "segment"
  match ← (edge.getD "segment" (.list [])).iterate with
  | [first, second] =>
    pure {
      segment := (← endOf first, ← endOf second)
      adjacentDestinationLanes :=
        ← references s!"{blockId}.{side}" (edge.get "adjacent_destination_lanes") }
  | _ => .error (.mapError s!"blocks.{blockId}.curb_edges.{side}.segment 는 2점")

def loadBlock (item : String × PyValue α) : Except PyError (Block α) := do
  let (id, raw) := item
  let _ ← raw.getAttr "polygon"
  let corners ← (raw.getD "polygon" (.list [])).iterate
  let polygon ← corners.mapM cornerOf
  let curbs ← ((raw.get "curb_edges").orElse (.dict [])).items
  pure { id := id, polygon := polygon, curbEdges := ← collect (loadCurb id) curbs }

def loadZone (item : String × PyValue α) : Except PyError (StopLineZone α) := do
  let (id, raw) := item
  let place := s!"stop_line_zones.{id}"
  let _ ← raw.getAttr "expected_center"
  match ← (raw.getD "expected_center" (.list [])).iterate with
  | [x, y] =>
    pure {
      id := id
      approachLaneId := ← (raw.getD "approach_lane_id" (.str "")).toStr
      expectedCenter := (← x.toFloat, ← y.toFloat)
      activationDistanceM := ← num raw "activation_distance_m" place true }
  | _ => .error (.mapError s!"{place}.expected_center 는 [x, y]")

namespace LaneMap

/-- The map section: the size and the origin are fixed. -/
def checkMeta (fields : PyValue α) : Except PyError Unit := do
  require ((fields.get "width_m").equalsInt 5 = true) (.mapError "map.width_m 는 5.0 이어야 함 (§2.6)")
  require ((fields.get "height_m").equalsInt 3 = true)
    (.mapError "map.height_m 는 3.0 이어야 함 (§2.6)")
  require ((fields.get "origin").equalsStr "bottom_left" = true)
    (.mapError "map.origin 는 'bottom_left' 이어야 함 (§2.6)")

/-- `LaneMap.from_dict` up to the checks: the size is the one `checkMeta` asks for. -/
def build (data : PyValue α) : Except PyError (LaneMap α) := do
  require (data.isDict = true) (.mapError "맵 데이터 최상위가 매핑이 아님")
  checkMeta (.dict (← section' "map" data))
  let lanes ← collect (loadLane 5 3) (← section' "lanes" data)
  let connectors ← collect (loadConnector 5 3) (← section' "connectors" data)
  let blocks ← collect loadBlock (← ((data.get "blocks").orElse (.dict [])).items)
  let zones ← collect loadZone (← ((data.get "stop_line_zones").orElse (.dict [])).items)
  pure {
    lanes := lanes
    connectors := connectors
    blocks := blocks
    stopLineZones := zones
    widthM := 5
    heightM := 3 }

/-- `LaneMap.from_dict`: the graph of the data, if it passes the checks. -/
def fromDict (data : PyValue α) : Except PyError (ValidLaneMap α) :=
  match build data with
  | .error error => .error error
  | .ok map =>
    match validated : map.validate with
    | .error error => .error error
    | .ok () => .ok ⟨map, validated⟩

end LaneMap

/-! ### A ring of two lanes -/

/-- A lane of one meter between two corners of a square. -/
def ringLane (circuit successor : String) (heading : ℤ) (first last : ℤ × ℤ) : PyValue ℚ :=
  .dict [("width_m", .int 1), ("heading_hint_deg", .int heading), ("speed_limit_mps", .int 1),
    ("destination_allowed", .bool true), ("circuit", .str circuit),
    ("centerline", .list [.list [.int first.1, .int first.2], .list [.int last.1, .int last.2]]),
    ("successors", .list [.str successor])]

def ringConnector (successor : String) (first last : ℤ × ℤ) : PyValue ℚ :=
  .dict [("maneuver", .str "left"), ("speed_limit_mps", .int 1), ("successor", .str successor),
    ("centerline", .list [.list [.int first.1, .int first.2], .list [.int last.1, .int last.2]])]

/-- A square in the grid plane: an inner lane to the east, an outer lane back to the west. -/
def ringMapData : PyValue ℚ :=
  .dict [
    ("map", .dict [("width_m", .int 5), ("height_m", .int 3), ("origin", .str "bottom_left")]),
    ("lanes", .dict [
      ("east", ringLane "inner" "turn_back" 0 (1, 1) (2, 1)),
      ("west", ringLane "outer" "turn_in" 180 (2, 2) (1, 2))]),
    ("connectors", .dict [
      ("turn_back", ringConnector "west" (2, 1) (2, 2)),
      ("turn_in", ringConnector "east" (1, 2) (1, 1))])]

/-- The square loads, with a lane of one meter. -/
theorem ringMap_loads : ∃ map : ValidLaneMap ℚ, LaneMap.fromDict ringMapData = .ok map ∧
    ∃ lane, map.lanes.get? "east" = some lane ∧ lane.lengthM = 1 := by
  have loaded : (match LaneMap.fromDict ringMapData with
      | .ok map => (map.lanes.get? "east").any fun lane => decide (lane.lengthM = 1)
      | .error _ => false) = true := by decide +kernel
  split at loaded
  next map run =>
    obtain ⟨lane, found, length⟩ := (Option.any_eq_true _ _).mp loaded
    exact ⟨map, run, lane, found, of_decide_eq_true length⟩
  next => exact absurd loaded Bool.false_ne_true

end RcTaxi
